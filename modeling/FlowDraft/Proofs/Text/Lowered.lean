import FlowDraft.Text.Lower
import Mathlib.Data.List.Infix

/-!
# `FlowDraft.Proofs.Text.Lowered`: small letters of a part of a text

The small letters of a character hang on its neighbours for one character only, the capital sigma.
It becomes one of two small sigmas, so `foldSigma` takes these for one, and then the small letters
of a text are those of its characters, one after another (`map_foldSigma_lowerAfter`).

A text without a sigma is found among small letters exactly where it is found with the two sigmas
taken for one (`infix_map_foldSigma_iff`). So what is found in the small letters of a text is found
in those of every longer text (`isInfix_lowerChars`), although a longer text may change the
small letters of its part.
-/

set_option autoImplicit false

namespace FlowDraft.Text

/-- The small sigma that ends a word is taken for the other one. -/
def foldSigma (c : Char) : Char :=
  if c = '\u03C2' then '\u03C3' else c

/-- A text has none of the two small sigmas. -/
def NoSigma (cs : List Char) : Prop :=
  '\u03C2' ∉ cs ∧ '\u03C3' ∉ cs

instance (cs : List Char) : Decidable (NoSigma cs) :=
  inferInstanceAs (Decidable (_ ∧ _))

/-- A character that is no small sigma comes from itself only. -/
theorem foldSigma_eq_iff {c d : Char} (hc : c ≠ '\u03C2') (hc' : c ≠ '\u03C3') :
    foldSigma d = c ↔ d = c := by
  rw [foldSigma]
  split
  · next h =>
    subst h
    exact ⟨fun heq => absurd heq.symm hc', fun heq => absurd heq.symm hc⟩
  · exact Iff.rfl

/-- A text without a sigma stands in another one exactly where it stands with the two small sigmas
taken for one. -/
theorem infix_map_foldSigma_iff {pattern : List Char} (h : NoSigma pattern) (cs : List Char) :
    pattern <:+: cs.map foldSigma ↔ pattern <:+: cs := by
  have hfold : ∀ c ∈ pattern, ∀ d, foldSigma d = c ↔ d = c := fun c hc d =>
    foldSigma_eq_iff (fun heq => h.1 (heq ▸ hc)) (fun heq => h.2 (heq ▸ hc))
  constructor
  · intro hfound
    obtain ⟨part, hpart, rfl⟩ := List.infix_map_iff.1 hfound
    have hsame : part.map foldSigma = part := by
      refine (List.map_congr_left fun d hd => ?_).trans (List.map_id part)
      exact ((hfold _ (List.mem_map_of_mem hd) d).1 rfl).symm
    rwa [hsame]
  · intro hfound
    have hsame : pattern.map foldSigma = pattern := by
      refine (List.map_congr_left fun c hc => ?_).trans (List.map_id pattern)
      exact (hfold c hc c).2 rfl
    exact hsame ▸ hfound.map foldSigma

/-- The small letters of a character without neighbours. -/
def lowerAlone (c : Char) : List Char :=
  lowerBetween [] c []

/-- Neighbours make a difference between the two small sigmas only. -/
theorem map_foldSigma_lowerBetween (left : List Char) (c : Char) (right : List Char) :
    (lowerBetween left c right).map foldSigma = (lowerAlone c).map foldSigma := by
  rw [lowerAlone, lowerBetween, lowerBetween]
  split
  · rfl
  · split
    · split <;> split <;> rfl
    · rfl

/-- With the two small sigmas taken for one, a text is put in small letters character by
character. -/
theorem map_foldSigma_lowerAfter (left cs : List Char) :
    (lowerAfter left cs).map foldSigma = cs.flatMap fun c => (lowerAlone c).map foldSigma := by
  -- Each character has other ones on its left, so the left side is generalized.
  induction cs generalizing left with
  | nil => rfl
  | cons c cs ih =>
    rw [lowerAfter, List.map_append, map_foldSigma_lowerBetween, ih, List.flatMap_cons]

/-- What stands in the small letters of a text stands in those of every text around it. -/
theorem isInfix_lowerChars {pattern part whole : List Char} (h : NoSigma pattern)
    (hpart : part <:+: whole) (hfound : pattern <:+: lowerChars part) :
    pattern <:+: lowerChars whole := by
  rw [← infix_map_foldSigma_iff h, lowerChars, map_foldSigma_lowerAfter] at hfound ⊢
  exact hfound.trans (hpart.flatMap _)

end FlowDraft.Text
