import FlowDraft.Example.Rank
import Mathlib

/-!
# `FlowDraft.Proofs.Binary64.Order`: comparing binary64 numbers

Numbers are compared by their signs, then by exponent and mantissa. `place` gives every number a
place in a linear order, and `le_iff_place` says that one number is at most another when both are
numbers at all and the places are in that order. So the comparison is transitive (`le_trans`), a
value is comparable with itself unless it is NaN (`le_self_iff`), and two values that are comparable
with themselves are comparable with each other (`le_total`). That is what sorting by such numbers
asks of `Example.floatLe`.

The lemmas on `Float.Model` that this builds on are no part of any single module of Mathlib, and are
only there when it is imported as a whole.
-/

set_option autoImplicit false

namespace FlowDraft.Binary64

open Float.Model

/-- The place of a number in the order of numbers. Both zeros have the same place. -/
def place : UnpackedFloat → ℤ ×ₗ ℤ ×ₗ ℤ
  | .infinity .negative => toLex (-2, toLex (0, 0))
  | .finite .negative mantissa exponent _ => toLex (-1, toLex (-exponent, -mantissa))
  | .zero _ | .notANumber => toLex (0, toLex (0, 0))
  | .finite .positive mantissa exponent _ => toLex (1, toLex (exponent, mantissa))
  | .infinity .positive => toLex (2, toLex (0, 0))

/-- Magnitudes are compared by their exponents, and by their mantissas where these are equal. -/
theorem isLE_compare_then {e f : ℤ} {m n : ℕ} :
    ((compare e f).then (compare m n)).isLE = true ↔ e < f ∨ e = f ∧ m ≤ n := by
  rw [Ordering.isLE_then_iff_or]
  simp [Int.compare_eq_lt, Nat.isLE_compare]

theorem isGE_compare_then {e f : ℤ} {m n : ℕ} :
    ((compare e f).then (compare m n)).isGE = true ↔ f < e ∨ e = f ∧ n ≤ m := by
  rw [← Ordering.isLE_swap, Ordering.swap_then, Int.compare_swap, Nat.compare_swap,
    isLE_compare_then, @eq_comm _ f e]

theorem unpacked_le_iff_place {x y : UnpackedFloat} :
    x.le y = true ↔ x ≠ .notANumber ∧ y ≠ .notANumber ∧ place x ≤ place y := by
  rcases x with (_ | _) | _ | _ | ⟨_ | _, m, e, hm⟩ <;>
    rcases y with (_ | _) | _ | _ | ⟨_ | _, n, f, hn⟩ <;>
    simp [UnpackedFloat.le, UnpackedFloat.compare, place, Prod.Lex.toLex_le_toLex,
      isLE_compare_then, isGE_compare_then]
  -- What is left are two infinities, which are compared by their signs.
  all_goals rfl

theorem compare_then_eq_lt {e f : ℤ} {m n : ℕ} :
    (compare e f).then (compare m n) = .lt ↔ e < f ∨ e = f ∧ m < n := by
  rw [Ordering.then_eq_lt, Int.compare_eq_lt, Int.compare_eq_eq, Nat.compare_eq_lt]

theorem compare_then_eq_gt {e f : ℤ} {m n : ℕ} :
    (compare e f).then (compare m n) = .gt ↔ f < e ∨ e = f ∧ n < m := by
  rw [Ordering.then_eq_gt, Int.compare_eq_gt, Int.compare_eq_eq, Nat.compare_eq_gt]

theorem unpacked_lt_iff_place {x y : UnpackedFloat} :
    x.lt y = true ↔ x ≠ .notANumber ∧ y ≠ .notANumber ∧ place x < place y := by
  rcases x with (_ | _) | _ | _ | ⟨_ | _, m, e, hm⟩ <;>
    rcases y with (_ | _) | _ | _ | ⟨_ | _, n, f, hn⟩ <;>
    simp [UnpackedFloat.lt, UnpackedFloat.compare, place, Prod.Lex.toLex_lt_toLex,
      compare_then_eq_lt, compare_then_eq_gt]
  rfl

/-- One number is at most another when both are numbers at all and their places are in order. -/
theorem le_iff_place {a b : Float} :
    a ≤ b ↔ a.toModel.unpack ≠ .notANumber ∧ b.toModel.unpack ≠ .notANumber ∧
      place a.toModel.unpack ≤ place b.toModel.unpack := by
  rw [← unpacked_le_iff_place]
  constructor
  · exact fun h => of_decide_eq_true h
  · exact fun h => decide_eq_true h

theorem le_trans {a b c : Float} (hab : a ≤ b) (hbc : b ≤ c) : a ≤ c := by
  obtain ⟨ha, -, hab⟩ := le_iff_place.1 hab
  obtain ⟨-, hc, hbc⟩ := le_iff_place.1 hbc
  exact le_iff_place.2 ⟨ha, hc, hab.trans hbc⟩

theorem not_lt_of_le {a b : Float} (h : a ≤ b) : ¬ b < a := by
  intro hlt
  have hlt := unpacked_lt_iff_place.1 (of_decide_eq_true hlt)
  exact absurd (le_iff_place.1 h).2.2 hlt.2.2.not_ge

/-- Of two numbers that are comparable with themselves, one is at most the other. -/
theorem le_total {a b : Float} (ha : a ≤ a) (hb : b ≤ b) : a ≤ b ∨ b ≤ a := by
  have ha := (le_iff_place.1 ha).1
  have hb := (le_iff_place.1 hb).1
  rcases Std.le_total (a := place a.toModel.unpack) (b := place b.toModel.unpack) with h | h
  · exact .inl (le_iff_place.2 ⟨ha, hb, h⟩)
  · exact .inr (le_iff_place.2 ⟨hb, ha, h⟩)

/-- All values but NaN are comparable with themselves. -/
theorem le_self_iff {a : Float} : a ≤ a ↔ a.isNaN = false := by
  have hnan : a.isNaN = a.toModel.unpack.isNaN := rfl
  rw [le_iff_place, hnan, ← Bool.not_eq_true, UnpackedFloat.isNaN_iff]
  exact ⟨fun h => h.1, fun h => ⟨h, h, le_rfl⟩⟩

/-! ### The comparison that scores and similarities are sorted by -/

theorem floatLe_trans (a b c : Float) (hab : Example.floatLe a b = true)
    (hbc : Example.floatLe b c = true) : Example.floatLe a c = true :=
  decide_eq_true (le_trans (of_decide_eq_true hab) (of_decide_eq_true hbc))

theorem floatLe_total (a b : Float) (ha : Example.floatLe a a = true)
    (hb : Example.floatLe b b = true) :
    (Example.floatLe a b || Example.floatLe b a) = true := by
  rcases le_total (of_decide_eq_true ha) (of_decide_eq_true hb) with h | h
  · exact Bool.or_eq_true_iff.2 (.inl (decide_eq_true h))
  · exact Bool.or_eq_true_iff.2 (.inr (decide_eq_true h))

theorem floatLe_self {a : Float} (h : a.isNaN = false) : Example.floatLe a a = true :=
  decide_eq_true (le_self_iff.2 h)

end FlowDraft.Binary64
