import FlowDraft.Proofs.Label.Within
import FlowDraft.Proofs.Sample.Indexed
import FlowDraft.Proofs.Sorting.Raised

/-!
# `FlowDraft.Proofs.Example.Enlarged`: an example with more labels

A profile is enlarged when it takes the place of none, or gets more labels, or a trigger where it
had none (`Enlarged`). For weights that are not below zero the score does not become less then
(`exactScore_le_of_enlarged`). So in a ranking of all candidates the enlarged one does not come
later than before, and the others keep their order: `exactRank_of_enlarged`.
-/

set_option autoImplicit false

namespace FlowDraft

/-- The ways in which the profile of an example may be enlarged. -/
inductive Enlarged : Option Profile → Option Profile → Prop where
  /-- There was no profile. -/
  | profile (p' : Option Profile) : Enlarged none p'
  /-- There are more labels, or the same ones, and the trigger is the same. -/
  | labels {p p' : Profile} (h : p.LabelsWithin p') (htrigger : p'.trigger = p.trigger) :
      Enlarged (some p) (some p')
  /-- There was no trigger, and no label is lost. -/
  | trigger {p p' : Profile} (h : p.LabelsWithin p') (htrigger : p.trigger? = none) :
      Enlarged (some p) (some p')

/-! ### Scores -/

namespace LabelSet

/-- More labels share more with a set. -/
theorem sharedWeight_mono {weight : ℚ} (hweight : 0 ≤ weight) (a : LabelSet) {b b' : LabelSet}
    (h : b.toList ⊆ b'.toList) : sharedWeight weight a b ≤ sharedWeight weight a b' := by
  have hsets : b.toList.toFinset ⊆ b'.toList.toFinset := fun label hlabel =>
    List.mem_toFinset.2 (h (List.mem_toFinset.1 hlabel))
  have hcard := Finset.card_le_card
    (Finset.inter_subset_inter_left hsets (s := a.toList.toFinset))
  exact mul_le_mul_of_nonneg_right (Nat.cast_le.2 hcard) hweight

end LabelSet

namespace Profile

/-- A profile without a trigger agrees with no other one. -/
theorem not_triggersAgree_of_none {a b : Profile} (h : b.trigger? = none) :
    ¬ a.TriggersAgree b := by
  rintro ⟨s, t, -, ht, -, hne, -⟩
  rw [trigger?_eq_some_iff.2 ⟨ht, hne⟩] at h
  cases h

theorem triggersAgree_congr {a b b' : Profile} (h : b'.trigger = b.trigger) :
    a.TriggersAgree b' ↔ a.TriggersAgree b := by
  rw [TriggersAgree, TriggersAgree, h]

end Profile

namespace Example

section
variable {w : Weights ℚ} (hw : w.IsNonneg)
include hw

/-- A profile with more labels shares more with a request. -/
theorem sharedWeight_mono (a : Profile) {b b' : Profile} (h : b.LabelsWithin b') :
    sharedWeight w a b ≤ sharedWeight w a b' :=
  add_le_add
    (add_le_add (LabelSet.sharedWeight_mono hw.industry a.industries h.industries)
      (LabelSet.sharedWeight_mono hw.domain a.domains h.domains))
    (LabelSet.sharedWeight_mono hw.channel a.channels h.channels)

/-- An example with an enlarged profile does not score less. -/
theorem exactScore_le_of_enlarged (request : String) {e e' : Example}
    (h : Enlarged e.profile e'.profile) : exactScore w request e ≤ exactScore w request e' := by
  generalize hprofile : e.profile = profile, hprofile' : e'.profile = profile' at h
  cases h with
  | profile =>
    rw [exactScore_of_none w request hprofile]
    exact exactScore_nonneg hw request e'
  | @labels p p' hlabels htrigger =>
    have hshared := sharedWeight_mono hw (classify request) hlabels
    obtain ⟨hagree, hdiffer⟩ := exactScore_eq w request hprofile
    obtain ⟨hagree', hdiffer'⟩ := exactScore_eq w request hprofile'
    by_cases hsame : (classify request).TriggersAgree p
    · rw [hagree hsame, hagree' ((Profile.triggersAgree_congr htrigger).2 hsame)]
      exact add_le_add_left hshared w.trigger
    · rw [hdiffer hsame, hdiffer' fun h => hsame ((Profile.triggersAgree_congr htrigger).1 h)]
      exact hshared
  | @trigger p p' hlabels hnone =>
    -- Without a trigger the labels are all that counts.
    rw [(exactScore_eq w request hprofile).2 (Profile.not_triggersAgree_of_none hnone)]
    exact (sharedWeight_mono hw (classify request) hlabels).trans
      (sharedWeight_le_exactScore hw hprofile')

end

/-! ### Ranking -/

/-- **More labels never hurt.** Let the profile of one candidate be enlarged: there was none, or it
gets more labels and keeps its trigger, or it gets a trigger where it had none. For weights that are
not below zero its score does not become less. Both rankings of all candidates are told by places:
every place once, scores never rise, and equal scores keep their order. The candidate stands no
later in the second ranking than in the first, and without it both rankings are the same. -/
theorem exactRank_of_enlarged (w : Weights ℚ) (hw : w.IsNonneg) (request : String)
    (candidates : List Example) (i : Nat) (e : Example) (he : candidates[i]? = some e)
    (profile : Option Profile) (h : Enlarged e.profile profile) :
    let e' : Example := { e with profile }
    let candidates' := candidates.set i e'
    let score := exactScore w request
    score e ≤ score e' ∧
    ∃ (places : List (Fin candidates.length)) (places' : List (Fin candidates'.length)),
      Sorting.TopPlaces exactLe score candidates candidates.length places ∧
      exactRank w request candidates.length candidates = places.map candidates.get ∧
      Sorting.TopPlaces exactLe score candidates' candidates'.length places' ∧
      exactRank w request candidates'.length candidates' = places'.map candidates'.get ∧
      (places'.map Fin.val).idxOf i ≤ (places.map Fin.val).idxOf i ∧
      (places'.map Fin.val).erase i = (places.map Fin.val).erase i := by
  intro e' candidates' score
  have hscore : score e ≤ score e' := exactScore_le_of_enlarged hw request h
  obtain ⟨places, htop, hranked⟩ := take_exactRank w request candidates.length candidates
  obtain ⟨places', htop', hranked'⟩ := take_exactRank w request candidates'.length candidates'
  obtain ⟨hplace, hothers⟩ := htop.raised exactLe_trans he (exactLe_iff.2 hscore) htop'
  exact ⟨hscore, places, places', htop, hranked, htop', hranked', hplace, hothers⟩

/-- Of three candidates the second has no profile. With the labels of the two others it scores what
they score together, and comes no later. -/
theorem exactRank_of_enlarged_with_labels :
    let w : Weights ℚ := ⟨3, 2, 3 / 2, 1⟩
    let request := "Alerts on Slack"
    let plain : Example := ⟨"Plain", "", [], none, none⟩
    let candidates := [⟨"Chat", "", [], some (classify "slack"), none⟩, plain,
      ⟨"Alerts", "", [], some (classify "alert"), none⟩]
    let profile := some (classify "slack alert")
    let candidates' := candidates.set 1 { plain with profile }
    w.IsNonneg ∧ candidates[1]? = some plain ∧ Enlarged plain.profile profile ∧
      exactScore w request plain = 0 ∧ exactScore w request { plain with profile } = 7 / 2 ∧
      ∃ (places : List (Fin candidates.length)) (places' : List (Fin candidates'.length)),
        exactRank w request 3 candidates = places.map candidates.get ∧
        exactRank w request 3 candidates' = places'.map candidates'.get ∧
        (places'.map Fin.val).idxOf 1 ≤ (places.map Fin.val).idxOf 1 ∧
        (places'.map Fin.val).erase 1 = (places.map Fin.val).erase 1 := by
  intro w request plain candidates profile candidates'
  have hw : w.IsNonneg := by constructor <;> norm_num [w]
  have henlarged : Enlarged plain.profile profile := .profile profile
  obtain ⟨-, places, places', -, hranked, -, hranked', hplace, hothers⟩ :=
    exactRank_of_enlarged w hw request candidates 1 plain rfl profile henlarged
  exact ⟨hw, rfl, henlarged, rfl, by decide +kernel, places, places', hranked, hranked', hplace,
    hothers⟩

end Example

end FlowDraft
