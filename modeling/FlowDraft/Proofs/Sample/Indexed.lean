import FlowDraft.Proofs.Example.Rank
import FlowDraft.Proofs.Label.Stored
import FlowDraft.Sample.Basic
import Mathlib.Data.Nat.Cast.Order.Ring
import Mathlib.Tactic.NormNum

/-!
# `FlowDraft.Proofs.Sample.Indexed`: samples that are indexed and sought

A sample is indexed with the profile of its own text, and requests are profiled by the same
function. `ofDocument_toDocument` says that nothing is lost between the two: the example in the
document of a sample has the profile that the text of the sample has as a request. No example shares
more with a request than one with the profile of the request itself (`exactScore_le_of_profile`). So
a request with the text of a sample puts no example with another score before the sample.
-/

set_option autoImplicit false

namespace FlowDraft

/-- No weight is below zero. -/
structure Weights.IsNonneg (w : Weights ℚ) : Prop where
  industry : 0 ≤ w.industry
  domain : 0 ≤ w.domain
  channel : 0 ≤ w.channel
  trigger : 0 ≤ w.trigger

/-! ### The best score -/

namespace LabelSet

theorem sharedWeight_nonneg {weight : ℚ} (h : 0 ≤ weight) (a b : LabelSet) :
    0 ≤ sharedWeight weight a b :=
  mul_nonneg (Nat.cast_nonneg _) h

/-- What a set shares with another one weighs no more than the set. -/
theorem sharedWeight_le_self {weight : ℚ} (h : 0 ≤ weight) (a b : LabelSet) :
    sharedWeight weight a b ≤ sharedWeight weight a a := by
  have hcard := shared_le_self a b
  rw [shared_eq_card, shared_eq_card] at hcard
  exact mul_le_mul_of_nonneg_right (Nat.cast_le.2 hcard) h

end LabelSet

/-- A profile whose trigger agrees with another one has a trigger that agrees with itself. -/
theorem Profile.TriggersAgree.self {a b : Profile} (h : a.TriggersAgree b) : a.TriggersAgree a := by
  obtain ⟨s, t, hs, -, hne, -, -⟩ := h
  exact ⟨s, s, hs, hs, hne, hne, rfl⟩

namespace Example

section
variable {w : Weights ℚ} (hw : w.IsNonneg)
include hw

theorem sharedWeight_nonneg (a b : Profile) : 0 ≤ sharedWeight w a b :=
  add_nonneg
    (add_nonneg (LabelSet.sharedWeight_nonneg hw.industry a.industries b.industries)
      (LabelSet.sharedWeight_nonneg hw.domain a.domains b.domains))
    (LabelSet.sharedWeight_nonneg hw.channel a.channels b.channels)

/-- No profile shares more labels with another one than that one has. -/
theorem sharedWeight_le_self (a b : Profile) : sharedWeight w a b ≤ sharedWeight w a a :=
  add_le_add
    (add_le_add (LabelSet.sharedWeight_le_self hw.industry a.industries b.industries)
      (LabelSet.sharedWeight_le_self hw.domain a.domains b.domains))
    (LabelSet.sharedWeight_le_self hw.channel a.channels b.channels)

/-- An example with a profile scores at least what the labels weigh that it shares. -/
theorem sharedWeight_le_exactScore {request : String} {e : Example} {p : Profile}
    (h : e.profile = some p) : sharedWeight w (classify request) p ≤ exactScore w request e := by
  obtain ⟨hagree, hdiffer⟩ := exactScore_eq w request h
  by_cases htrigger : (classify request).TriggersAgree p
  · rw [hagree htrigger]
    exact le_add_of_nonneg_right hw.trigger
  · rw [hdiffer htrigger]

/-- No score is below zero. -/
theorem exactScore_nonneg (request : String) (e : Example) : 0 ≤ exactScore w request e := by
  cases hprofile : e.profile with
  | none => rw [exactScore_of_none w request hprofile]
  | some p => exact (sharedWeight_nonneg hw _ _).trans (sharedWeight_le_exactScore hw hprofile)

/-- An example with the profile of a request has the best score that any example can have. -/
theorem exactScore_le_of_profile {request : String} {e : Example}
    (h : e.profile = some (classify request)) (c : Example) :
    exactScore w request c ≤ exactScore w request e := by
  cases hprofile : c.profile with
  | none =>
    rw [exactScore_of_none w request hprofile]
    exact exactScore_nonneg hw request e
  | some p =>
    have hshared := sharedWeight_le_self hw (classify request) p
    obtain ⟨hagree, hdiffer⟩ := exactScore_eq w request hprofile
    by_cases htrigger : (classify request).TriggersAgree p
    · rw [hagree htrigger, (exactScore_eq w request h).1 htrigger.self]
      exact add_le_add_left hshared w.trigger
    · rw [hdiffer htrigger]
      exact hshared.trans (sharedWeight_le_exactScore hw h)

end

end Example

/-! ### Samples -/

namespace Sample

/-- The example in the document of a sample has everything that the sample has, and the profile that
its text has as a request. -/
theorem ofDocument_toDocument (s : Sample) (htitle : s.title ≠ "") :
    Example.ofDocument s.toDocument
      = ⟨s.title, s.content, s.tags, some (classify s.profileText), some s.workflow⟩ := by
  have hshown : Example.shownText? (.str s.title) = some s.title := by
    have hfilled : (Json.str s.title).isVoid = false := by simp [Json.isVoid, htitle]
    rw [Example.shownText?, Json.nonVoid?, hfilled]
    rfl
  have htags : (s.tags.map Json.str).map Json.display = s.tags := by
    rw [List.map_map]
    exact List.map_id s.tags
  have hprofile : Profile.ofJson? (classify s.profileText).toJson = some (classify s.profileText) :=
    Profile.ofJson?_toJson (storable_classify _)
  -- The fields of the document are looked up by name.
  show Example.mk ((Example.shownText? (.str s.title)).getD Example.untitled) s.content
    ((s.tags.map Json.str).map Json.display) (Profile.ofJson? (classify s.profileText).toJson)
    (some s.workflow) = _
  rw [hshown, htags, hprofile]
  rfl

end Sample

/-- **A sample comes first for its own text.** The example that is read from the document of a
sample has the title, the tags and the workflow of the sample, and the profile of its text. For
weights that are not below zero, no candidate scores more than that example for the text of the
sample, and every candidate that is ranked before it scores the same. -/
theorem indexed_sample_ranks_first (s : Sample) (htitle : s.title ≠ "") :
    let e := Example.ofDocument s.toDocument
    let request := s.profileText
    (e.title = s.title ∧ e.tags = s.tags ∧ e.graph = some s.workflow ∧
      e.profile = some (classify request)) ∧
      ∀ w : Weights ℚ, w.IsNonneg → ∀ candidates : List Example, e ∈ candidates →
        let score := Example.exactScore w request
        let ranked := Example.exactRank w request candidates.length candidates
        (∀ c ∈ candidates, score c ≤ score e) ∧ e ∈ ranked ∧
          ∀ before after, ranked = before ++ e :: after → ∀ c ∈ before, score c = score e := by
  intro e request
  have he : e = ⟨s.title, s.content, s.tags, some (classify request), some s.workflow⟩ :=
    s.ofDocument_toDocument htitle
  have hprofile : e.profile = some (classify request) := by rw [he]
  refine ⟨⟨by rw [he], by rw [he], by rw [he], hprofile⟩, ?_⟩
  intro w hw candidates hmem score ranked
  have hbest : ∀ c, score c ≤ score e := Example.exactScore_le_of_profile hw hprofile
  refine ⟨fun c _ => hbest c, ?_, ?_⟩
  · exact (Example.exactRank_length_perm w request candidates).mem_iff.2 hmem
  · intro before after hsplit c hc
    have hsorted : ranked.Pairwise fun a b => score b ≤ score a :=
      Example.pairwise_exactRank w request candidates.length candidates
    rw [hsplit] at hsorted
    have hle : score e ≤ score c :=
      (List.pairwise_append.1 hsorted).2.2 c hc e List.mem_cons_self
    exact le_antisymm (hbest c) hle

/-- A sample on mail that is sought by its own text, among an example without a profile and one
whose profile shares a channel with it. -/
theorem indexed_sample_ranks_first_on_mail :
    let s : Sample :=
      { id := "mail", title := "Inbox triage", description := "Sorts every new email"
        problem := "Support tickets get lost", tags := ["gmail", "slack"], workflow := [] }
    let e := Example.ofDocument s.toDocument
    let plain : Example := ⟨"Plain", "", [], none, none⟩
    let other : Example := ⟨"Alerts", "", [], some (classify "alerts on slack"), none⟩
    let w : Weights ℚ := ⟨3, 2, 3 / 2, 1⟩
    let ranked := Example.exactRank w s.profileText 3 [plain, other, e]
    s.title ≠ "" ∧ w.IsNonneg ∧ e ∈ [plain, other, e] ∧
      e.profile = some (classify s.profileText) ∧ e ∈ ranked ∧
      Example.exactScore w s.profileText other ≤ Example.exactScore w s.profileText e ∧
      ∀ before after, ranked = before ++ e :: after →
        ∀ c ∈ before, Example.exactScore w s.profileText c = Example.exactScore w s.profileText e := by
  intro s e plain other w ranked
  have htitle : s.title ≠ "" := by decide
  have hw : w.IsNonneg := by constructor <;> norm_num [w]
  have hmem : e ∈ [plain, other, e] := by simp
  obtain ⟨⟨-, -, -, hprofile⟩, hrank⟩ := indexed_sample_ranks_first s htitle
  obtain ⟨hbest, hranked, hfirst⟩ := hrank w hw [plain, other, e] hmem
  exact ⟨htitle, hw, hmem, hprofile, hranked, hbest other (by simp), hfirst⟩

end FlowDraft
