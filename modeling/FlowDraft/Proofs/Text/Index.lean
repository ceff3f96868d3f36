import FlowDraft.Proofs.Text.Cut
import Mathlib.Data.List.Basic

/-!
# `FlowDraft.Proofs.Text.Index`: the first and the last place of a mark

A mark stands at an index of a text if the text from there on starts with it. `IsFirst` and `IsLast`
say which index is the first or the last one. A text is cut by `Text.cutAt` at the first index of
the mark (`cutAt_eq_some_iff`), and a single character is at its first index exactly if the text
before does not have it (`isFirst_singleton_iff`).
-/

set_option autoImplicit false

namespace FlowDraft.Text

variable {α : Type}

/-- A mark stands at an index of a text. -/
def StandsAt (mark cs : List α) (i : Nat) : Prop :=
  mark <+: cs.drop i

/-- The first index of a mark from a start on. -/
structure IsFirst (mark cs : List α) (start i : Nat) : Prop where
  start_le : start ≤ i
  stands : StandsAt mark cs i
  not_before : ∀ k, start ≤ k → k < i → ¬ StandsAt mark cs k

/-- The last index of a mark. -/
structure IsLast (mark cs : List α) (i : Nat) : Prop where
  stands : StandsAt mark cs i
  not_after : ∀ k, i < k → ¬ StandsAt mark cs k

theorem standsAt_drop {mark cs : List α} {n i : Nat} :
    StandsAt mark (cs.drop n) i ↔ StandsAt mark cs (n + i) := by
  rw [StandsAt, StandsAt, List.drop_drop]

theorem IsFirst.unique {mark cs : List α} {start i j : Nat} (hi : IsFirst mark cs start i)
    (hj : IsFirst mark cs start j) : i = j := by
  rcases Nat.lt_trichotomy i j with h | h | h
  · exact absurd hi.stands (hj.not_before i hi.start_le h)
  · exact h
  · exact absurd hj.stands (hi.not_before j hj.start_le h)

/-- The first index from a start on is the first one of the text that is left there. -/
theorem isFirst_drop_iff {mark cs : List α} {start i : Nat} :
    IsFirst mark (cs.drop start) 0 i ↔ IsFirst mark cs start (start + i) := by
  constructor
  · intro h
    refine ⟨Nat.le_add_right start i, standsAt_drop.1 h.stands, fun k hle hlt hk => ?_⟩
    obtain ⟨k, rfl⟩ := Nat.exists_eq_add_of_le hle
    exact h.not_before k (Nat.zero_le k) (by omega) (standsAt_drop.2 hk)
  · intro h
    refine ⟨Nat.zero_le i, standsAt_drop.2 h.stands, fun k _ hlt hk => ?_⟩
    exact h.not_before (start + k) (by omega) (by omega) (standsAt_drop.1 hk)

/-- A mark is at its first index in a text with one more character in front when it is so without
it, and does not stand at the start. -/
theorem IsFirst.cons {mark cs : List α} {c : α} {i : Nat} (h : IsFirst mark cs 0 i)
    (hstart : ¬ mark <+: c :: cs) : IsFirst mark (c :: cs) 0 (i + 1) where
  start_le := Nat.zero_le _
  stands := h.stands
  not_before k _ hk := by
    cases k with
    | zero => exact hstart
    | succ k => exact h.not_before k (Nat.zero_le k) (by omega)

/-- A text is cut at the first index of the mark. -/
theorem isFirst_of_cutAt [BEq α] [LawfulBEq α] {mark text before after : List α} (hmark : mark ≠ [])
    (h : cutAt mark text = some (before, after)) :
    IsFirst mark text 0 before.length ∧ before = text.take before.length ∧
      after = text.drop (before.length + mark.length) := by
  have htext := cutAt_eq_some h
  refine ⟨?_, ?_, ?_⟩
  · clear htext
    induction text generalizing before with
    | nil =>
      rw [cutAt, if_neg (by simpa using hmark)] at h
      cases h
    | cons c cs ih =>
      by_cases hstart : mark <+: c :: cs
      · rw [cutAt, if_pos (List.isPrefixOf_iff_prefix.2 hstart)] at h
        cases h
        exact ⟨Nat.le_refl 0, hstart, fun k _ hk => absurd hk (Nat.not_lt_zero k)⟩
      · rw [ cutAt_cons_of_not_prefix hstart, Option.map_eq_some_iff] at h
        obtain ⟨⟨before, after⟩, hcut, hpair⟩ := h
        cases hpair
        exact (ih hcut).cons hstart
  · rw [htext, List.append_assoc, List.take_left]
  · rw [htext, ← List.length_append, List.drop_left]

/-- A text is cut exactly at the first index of the mark. -/
theorem cutAt_eq_some_iff [BEq α] [LawfulBEq α] {mark text before after : List α} (hmark : mark ≠ []) :
    cutAt mark text = some (before, after) ↔
      ∃ i, IsFirst mark text 0 i ∧ before = text.take i ∧ after = text.drop (i + mark.length) := by
  constructor
  · exact fun h => ⟨before.length, isFirst_of_cutAt hmark h⟩
  · rintro ⟨i, hi, rfl, rfl⟩
    cases hcut : cutAt mark text with
    | none =>
      have hinfix : mark <:+: text := hi.stands.isInfix.trans (List.drop_suffix i text).isInfix
      exact absurd hinfix (cutAt_eq_none_iff.1 hcut)
    | some parts =>
      obtain ⟨before, after⟩ := parts
      obtain ⟨hfirst, hbefore, hafter⟩ := isFirst_of_cutAt hmark hcut
      rw [hbefore, hafter, hfirst.unique hi]

/-! ### Single characters -/

theorem standsAt_singleton_iff {c : α} {cs : List α} {i : Nat} :
    StandsAt [c] cs i ↔ cs[i]? = some c := by
  rw [StandsAt, ← List.head?_drop]
  cases cs.drop i with
  | nil => simp
  | cons d ds => simp [eq_comm]

/-- A text around a character that stands at an index. -/
theorem eq_append_cons_of_standsAt {c : α} {cs : List α} {i : Nat} (h : StandsAt [c] cs i) :
    cs = cs.take i ++ c :: cs.drop (i + 1) ∧ (cs.take i).length = i := by
  obtain ⟨hi, hc⟩ := List.getElem?_eq_some_iff.1 (standsAt_singleton_iff.1 h)
  refine ⟨?_, List.length_take_of_le (Nat.le_of_lt hi)⟩
  rw [← hc, ← List.drop_eq_getElem_cons hi, List.take_append_drop]

/-- A character is at its first index when the text before does not have it. -/
theorem isFirst_singleton_iff {c : α} {cs : List α} {i : Nat} :
    IsFirst [c] cs 0 i ↔ ∃ p q, cs = p ++ c :: q ∧ c ∉ p ∧ p.length = i := by
  constructor
  · intro h
    obtain ⟨hsplit, hlength⟩ := eq_append_cons_of_standsAt h.stands
    refine ⟨cs.take i, cs.drop (i + 1), hsplit, fun hmem => ?_, hlength⟩
    obtain ⟨k, hk, hc⟩ := List.mem_take_iff_getElem.1 hmem
    refine h.not_before k (Nat.zero_le k) (by omega) (standsAt_singleton_iff.2 ?_)
    rw [List.getElem?_eq_getElem (by omega), hc]
  · rintro ⟨p, q, rfl, hp, rfl⟩
    refine ⟨Nat.zero_le _, standsAt_singleton_iff.2 (by simp), fun k _ hk hstands => hp ?_⟩
    rw [standsAt_singleton_iff, List.getElem?_append_left hk] at hstands
    exact List.mem_of_getElem? hstands

/-- A character is at its last index when the text behind does not have it. -/
theorem isLast_singleton_iff {c : α} {cs : List α} {i : Nat} :
    IsLast [c] cs i ↔ ∃ p q, cs = p ++ c :: q ∧ c ∉ q ∧ p.length = i := by
  constructor
  · intro h
    obtain ⟨hsplit, hlength⟩ := eq_append_cons_of_standsAt h.stands
    refine ⟨cs.take i, cs.drop (i + 1), hsplit, fun hmem => ?_, hlength⟩
    obtain ⟨k, hk⟩ := List.getElem?_of_mem hmem
    rw [List.getElem?_drop] at hk
    exact h.not_after (i + 1 + k) (by omega) (standsAt_singleton_iff.2 hk)
  · rintro ⟨p, q, rfl, hq, rfl⟩
    refine ⟨standsAt_singleton_iff.2 (by simp), fun k hk hstands => hq ?_⟩
    rw [standsAt_singleton_iff, List.getElem?_append_right (Nat.le_of_lt hk)] at hstands
    obtain ⟨j, hj⟩ := Nat.exists_eq_add_of_lt hk
    rw [show k - p.length = j + 1 by omega, List.getElem?_cons_succ] at hstands
    exact List.mem_of_getElem? hstands

end FlowDraft.Text
