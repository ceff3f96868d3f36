import FlowDraft.Proofs.Binary64.Order

/-!
# `FlowDraft.Proofs.Binary64.Amount`: sums and products that are not below zero

NaN comes of opposite infinities that are added, and of zero times infinity. Neither happens to
numbers that are not below zero, if those that are multiplied are finite. So a weighted sum of such
numbers is a number again, even if it overflows (`zero_le_add`, `zero_le_mul`).
-/

set_option autoImplicit false

namespace FlowDraft.Binary64

open Float.Model

/-- A number that is not below zero. The zero with a minus sign is one. -/
inductive IsAmount : UnpackedFloat → Prop where
  | zero (sign : UnpackedFloat.Sign) : IsAmount (.zero sign)
  | finite (mantissa : ℕ) (exponent : ℤ) (h : 0 < mantissa) :
      IsAmount (.finite .positive mantissa exponent h)
  | infinity : IsAmount (.infinity .positive)

theorem isAmount_iff {x : UnpackedFloat} :
    IsAmount x ↔ x ≠ .notANumber ∧ place (.zero .positive) ≤ place x := by
  constructor
  · rintro (_ | _ | _) <;> simp [place, Prod.Lex.toLex_le_toLex]
  · rintro ⟨hnan, hplace⟩
    rcases x with (_ | _) | _ | sign | ⟨_ | _, mantissa, exponent, h⟩
    · simp [place, Prod.Lex.toLex_le_toLex] at hplace
    · exact .infinity
    · exact absurd rfl hnan
    · exact .zero sign
    · simp [place, Prod.Lex.toLex_le_toLex] at hplace
    · exact .finite mantissa exponent h

theorem zero_le_iff {a : Float} : 0 ≤ a ↔ IsAmount a.toModel.unpack := by
  have hzero : (0 : Float).toModel.unpack = .zero .positive := rfl
  rw [le_iff_place, hzero, isAmount_iff]
  simp

/-- A number that is not below zero is comparable with itself. -/
theorem le_self_of_zero_le {a : Float} (h : 0 ≤ a) : a ≤ a := by
  have hnan := (le_iff_place.1 h).2.1
  exact le_iff_place.2 ⟨hnan, hnan, le_rfl⟩

/-! ### What packing keeps -/

/-- Bits with a plus sign whose exponent is not all ones are a number that is not below zero. -/
theorem isAmount_unpack_packComponents {exponent : BitVec 11} (mantissa : BitVec 52)
    (h : exponent ≠ -1#11) :
    IsAmount (UnpackedFloat.unpack .binary64
      (UnpackedFloat.packComponents .binary64 .positive exponent mantissa)) := by
  rw [UnpackedFloat.unpack]
  simp only [UnpackedFloat.unpackMantissa_packComponents,
    UnpackedFloat.unpackExponent_packComponents, UnpackedFloat.unpackSign_packComponents, if_neg h]
  split
  · split
    · exact .zero _
    · exact .finite _ _ _
  · exact .finite _ _ _

/-- Packing may round a number up to infinity or down to zero, but not below it. -/
theorem isAmount_unpack_pack {x : UnpackedFloat} (h : IsAmount x) :
    IsAmount (UnpackedFloat.unpack .binary64 (UnpackedFloat.pack .binary64 x)) := by
  cases h with
  | zero sign => cases sign <;> exact .zero _
  | infinity => exact .infinity
  | finite mantissa exponent h =>
    rw [UnpackedFloat.pack]
    simp only
    split
    · exact .infinity
    · next hsmall =>
      split
      · refine isAmount_unpack_packComponents _ fun hones => ?_
        -- The exponent of ones is left to infinity, which was the case before.
        have hvalue := congrArg BitVec.toNat hones
        rw [BitVec.toNat_ofNat, Nat.mod_eq_of_lt (by omega)] at hvalue
        rw [hvalue] at hsmall
        exact hsmall (by decide)
      · exact isAmount_unpack_packComponents _ (by decide)

theorem isAmount_roundWithAccuracy (mantissa : ℕ) (exponent : ℤ)
    (accuracy : UnpackedFloat.Accuracy) :
    IsAmount (UnpackedFloat.roundWithAccuracy .binary64 .positive mantissa exponent accuracy) := by
  rw [UnpackedFloat.roundWithAccuracy]
  simp only
  split
  · exact .zero _
  · exact .finite _ _ _

/-! ### Sums and products -/

theorem isAmount_add {x y : UnpackedFloat} (hx : IsAmount x) (hy : IsAmount y) :
    IsAmount (UnpackedFloat.add .binary64 x y) := by
  cases hx with
  | infinity => cases hy <;> exact .infinity
  | zero sign =>
    cases hy with
    | infinity => exact .infinity
    | zero sign' => cases sign <;> cases sign' <;> exact .zero _
    | finite n f hn => exact .finite n f hn
  | finite m e hm =>
    cases hy with
    | infinity => exact .infinity
    | zero _ => exact .finite m e hm
    | finite n f hn =>
      simp only [UnpackedFloat.add, UnpackedFloat.Sign.apply]
      rw [UnpackedFloat.normalize]
      split
      · next hnegative =>
        rw [Int.compare_eq_lt] at hnegative
        omega
      · exact .zero _
      · exact isAmount_roundWithAccuracy _ _ _

theorem isAmount_mul {x y : UnpackedFloat} (hx : IsAmount x) (hy : IsAmount y)
    (hxfinite : x.isFinite = true) (hyfinite : y.isFinite = true) :
    IsAmount (UnpackedFloat.mul .binary64 x y) := by
  cases hx with
  | infinity => exact absurd hxfinite Bool.false_ne_true
  | zero _ =>
    cases hy with
    | infinity => exact absurd hyfinite Bool.false_ne_true
    | zero _ => exact .zero _
    | finite _ _ _ => exact .zero _
  | finite _ _ _ =>
    cases hy with
    | infinity => exact absurd hyfinite Bool.false_ne_true
    | zero _ => exact .zero _
    | finite _ _ _ => exact isAmount_roundWithAccuracy _ _ _

/-- The sum of numbers that are not below zero is one. -/
theorem zero_le_add {a b : Float} (ha : 0 ≤ a) (hb : 0 ≤ b) : 0 ≤ a + b :=
  zero_le_iff.2 (isAmount_unpack_pack (isAmount_add (zero_le_iff.1 ha) (zero_le_iff.1 hb)))

/-- The product of finite numbers that are not below zero is not below zero. -/
theorem zero_le_mul {a b : Float} (ha : 0 ≤ a) (hb : 0 ≤ b) (hafinite : a.isFinite = true)
    (hbfinite : b.isFinite = true) : 0 ≤ a * b :=
  zero_le_iff.2 (isAmount_unpack_pack
    (isAmount_mul (zero_le_iff.1 ha) (zero_le_iff.1 hb) hafinite hbfinite))

end FlowDraft.Binary64
