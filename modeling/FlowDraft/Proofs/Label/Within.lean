import FlowDraft.Proofs.Label.Stored
import FlowDraft.Proofs.Text.Lowered
import FlowDraft.Proofs.Text.Part
import FlowDraft.Sample.Basic

/-!
# `FlowDraft.Proofs.Label.Within`: profiles of parts of a text

No keyword has a sigma, so a keyword that stands in the small letters of a text stands in those of
every longer text (`matched_mono`). Hence no label of a part is lost in the whole. The trigger may
change, but only to one that stands earlier in the table (`firstMatching?_mono`): more keywords can
bring the first match forward and never put it back.

`isWithin_classify` is the main statement, with the fields of a sample as parts of the text that the
sample is profiled by.
-/

set_option autoImplicit false

namespace FlowDraft

namespace Label

open Text

/-- No keyword of the table has a small sigma. -/
def SigmaFree (table : KeywordTable) : Prop :=
  ∀ row ∈ table, ∀ keyword ∈ row.2, NoSigma keyword.toList

instance (table : KeywordTable) : Decidable (SigmaFree table) :=
  inferInstanceAs (Decidable (∀ row ∈ table, _))

/-- The place of a label in the table of triggers. -/
def triggerPlace (label : String) : Nat :=
  (triggerKeywords.map (·.1)).idxOf label

theorem firstMatching?_cons (row : String × List String) (table : KeywordTable)
    (lowered : List Char) :
    firstMatching? (row :: table) lowered
      = if matched row.2 lowered = true then some row.1 else firstMatching? table lowered := by
  rw [firstMatching?, List.find?_cons]
  cases matched row.2 lowered with
  | true => rfl
  | false => rfl

section
variable {part whole : List Char} (hpart : part <:+: whole)
include hpart

/-- A keyword of a part of a text is a keyword of the text. -/
theorem matched_mono {keywords : List String} (h : ∀ keyword ∈ keywords, NoSigma keyword.toList)
    (hmatched : matched keywords (lowerChars part) = true) :
    matched keywords (lowerChars whole) = true := by
  obtain ⟨keyword, hkeyword, hfound⟩ := List.any_eq_true.1 hmatched
  rw [occursIn_iff] at hfound
  exact List.any_eq_true.2 ⟨keyword, hkeyword,
    occursIn_iff.2 (isInfix_lowerChars (h keyword hkeyword) hpart hfound)⟩

/-- The labels of a part of a text are labels of the text. -/
theorem matching_mono {table : KeywordTable} (h : SigmaFree table) :
    (matching table (lowerChars part)).toList ⊆ (matching table (lowerChars whole)).toList := by
  intro label hlabel
  obtain ⟨row, hrow, rfl⟩ := List.mem_map.1 (LabelSet.mem_ofList.1 hlabel)
  obtain ⟨hrow, hmatched⟩ := List.mem_filter.1 hrow
  exact LabelSet.mem_ofList.2 (List.mem_map_of_mem
    (List.mem_filter.2 ⟨hrow, matched_mono hpart (h row hrow) hmatched⟩))

/-- Where a part of a text has a first label, the text has one that does not stand later in the
table. -/
theorem firstMatching?_mono {table : KeywordTable} (h : SigmaFree table)
    (hnodup : (table.map (·.1)).Nodup) {label : String}
    (hlabel : firstMatching? table (lowerChars part) = some label) :
    ∃ first, firstMatching? table (lowerChars whole) = some first ∧
      (table.map (·.1)).idxOf first ≤ (table.map (·.1)).idxOf label := by
  induction table with
  | nil => cases hlabel
  | cons row table ih =>
    obtain ⟨hfresh, hnodup⟩ := List.nodup_cons.1 hnodup
    by_cases hwhole : matched row.2 (lowerChars whole) = true
    · -- The first row matches the whole text, and no row stands before it.
      refine ⟨row.1, by rw [firstMatching?_cons, if_pos hwhole], ?_⟩
      rw [List.map_cons, List.idxOf_cons_self]
      exact Nat.zero_le _
    · -- Then it does not match the part either, so both labels come from the rows behind it.
      have hpartless : ¬ matched row.2 (lowerChars part) = true := fun hmatched =>
        hwhole (matched_mono hpart (h row List.mem_cons_self) hmatched)
      rw [firstMatching?_cons, if_neg hpartless] at hlabel
      obtain ⟨first, hfirst, hplace⟩ :=
        ih (fun other hother => h other (List.mem_cons_of_mem row hother)) hnodup hlabel
      have hbehind : ∀ lowered other, firstMatching? table lowered = some other →
          row.1 ≠ other := by
        rintro lowered other hother rfl
        exact hfresh (mem_of_firstMatching? hother)
      refine ⟨first, by rw [firstMatching?_cons, if_neg hwhole, hfirst], ?_⟩
      rw [List.map_cons, List.idxOf_cons_ne _ (hbehind _ first hfirst),
        List.idxOf_cons_ne _ (hbehind _ label hlabel)]
      exact Nat.succ_le_succ hplace

end

end Label

namespace Profile

/-- All labels of `p` in the three categories are labels of `p'`. -/
structure LabelsWithin (p p' : Profile) : Prop where
  industries : p.industries.toList ⊆ p'.industries.toList
  domains : p.domains.toList ⊆ p'.domains.toList
  channels : p.channels.toList ⊆ p'.channels.toList

/-- All labels of `p` are labels of `p'`, and if `p` has a trigger, `p'` has the same one or one
that stands earlier in the table of triggers. -/
structure IsWithin (p p' : Profile) : Prop where
  labels : p.LabelsWithin p'
  trigger : ∀ label, p.trigger = some label → ∃ first, p'.trigger = some first ∧
    Label.triggerPlace first ≤ Label.triggerPlace label

end Profile

open Label in
/-- The profile of a part of a text is within the profile of the text. -/
theorem isWithin_of_hasPart {text part : String} (h : Text.HasPart text part) :
    (classify part).IsWithin (classify text) where
  labels := {
    industries := matching_mono h.toList_isInfix (by decide +kernel)
    domains := matching_mono h.toList_isInfix (by decide +kernel)
    channels := matching_mono h.toList_isInfix (by decide +kernel) }
  trigger _ hlabel :=
    firstMatching?_mono h.toList_isInfix (by decide +kernel) (by decide +kernel) hlabel

namespace Sample

/-- The texts that a sample is profiled by: its title, description and problem, the row of its tags,
and each of them. -/
def profileFields (s : Sample) : List String :=
  s.title :: s.description :: s.problem :: " ".intercalate s.tags :: s.tags

/-- Each of these texts is a part of the one that they make up. -/
theorem hasPart_profileText {s : Sample} {field : String} (h : field ∈ s.profileFields) :
    Text.HasPart s.profileText field := by
  have htags : Text.HasPart s.profileText (" ".intercalate s.tags) := .of_mem (by simp)
  simp only [profileFields, List.mem_cons] at h
  rcases h with rfl | rfl | rfl | rfl | htag
  · exact .of_mem (by simp)
  · exact .of_mem (by simp)
  · exact .of_mem (by simp)
  · exact htags
  · exact htags.trans (.of_mem htag)

end Sample

/-- **No label of a part of a text is lost in the text.** Whatever stands before and after a text,
its labels are labels of the whole, and if it has a trigger, the whole has the same one or one that
stands earlier in the table of triggers. So the profile of a sample has all labels that its title,
description, problem or tags have on their own. -/
theorem isWithin_classify :
    (∀ before text after : String,
      (classify text).IsWithin (classify (before ++ text ++ after))) ∧
    ∀ (s : Sample), ∀ field ∈ s.profileFields, (classify field).IsWithin s.profile :=
  ⟨fun before _ after => isWithin_of_hasPart ⟨before, after, rfl⟩,
    fun _ _ hfield => isWithin_of_hasPart (Sample.hasPart_profileText hfield)⟩

/-- A text that ends in a sigma, within a text where the word goes on: its small letters are not
part of those of the whole, and its labels are. The trigger is another one, that stands earlier. -/
theorem isWithin_classify_before_letter :
    let text := "Daily ΟΔΟΣ"
    let whole := "Webhook " ++ text ++ "Α"
    let s : Sample := { id := "odos", title := text, description := "", problem := whole
                        tags := ["gmail", "slack"], workflow := [] }
    ¬ Text.lowerChars text.toList <:+: Text.lowerChars whole.toList ∧
      (classify text).trigger = some "schedule" ∧ (classify whole).trigger = some "webhook" ∧
      (classify text).IsWithin (classify whole) ∧
      "gmail" ∈ s.profileFields ∧ (classify "gmail").IsWithin s.profile := by
  intro text whole s
  have htag : "gmail" ∈ s.profileFields := by decide
  exact ⟨by decide +kernel, by decide +kernel, by decide +kernel,
    isWithin_classify.1 "Webhook " text "Α", htag, isWithin_classify.2 s "gmail" htag⟩

end FlowDraft
