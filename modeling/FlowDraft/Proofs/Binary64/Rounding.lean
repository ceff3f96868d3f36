import FlowDraft.Proofs.Binary64.Amount

/-!
# `FlowDraft.Proofs.Binary64.Rounding`: the exponents of rounded results

A number with a full mantissa is at least a power of two and less than the next one, and its
exponent says which (`IsNormal`). Rounding keeps the exponent that the exact result has, or raises
it by one (`isNormal_roundWithAccuracy`), and it changes nothing about a result that fits into the
mantissa (`round_eq_finite`). Packing changes nothing either as long as the exponent is in range
(`unpack_pack_of_isNormal`). That is all that is needed to see which results are exact, which are
zero and which are beyond the range.
-/

set_option autoImplicit false

namespace FlowDraft.Binary64

open Float.Model UnpackedFloat

/-- A number with a full mantissa: its magnitude is at least `2 ^ exponent`, and less than twice
that. -/
inductive IsNormal (sign : Sign) (exponent : ℤ) : UnpackedFloat → Prop where
  | mk (mantissa : ℕ) (h : 0 < mantissa) (full : mantissa.log2 = 52) :
      IsNormal sign exponent (.finite sign mantissa (exponent - 52) h)

/-! ### Digits -/

theorem bounds_of_log2 {m k : ℕ} (hm : m ≠ 0) (h : m.log2 = k) : 2 ^ k ≤ m ∧ m < 2 ^ (k + 1) :=
  (Nat.log2_eq_iff hm).1 h

theorem ne_zero_of_log2 {m k : ℕ} (h : m.log2 = k + 1) : m ≠ 0 := by
  rintro rfl
  simp at h

/-- Digits that are appended below a number do not change its highest one. -/
theorem log2_mul_two_pow_add {m k x : ℕ} (hm : m ≠ 0) (hx : x < 2 ^ k) :
    (m * 2 ^ k + x).log2 = m.log2 + k := by
  obtain ⟨hlow, hhigh⟩ := bounds_of_log2 hm rfl
  have hpos := Nat.two_pow_pos k
  have hlow : 2 ^ m.log2 * 2 ^ k ≤ m * 2 ^ k := Nat.mul_le_mul_right _ hlow
  have hhigh : (m + 1) * 2 ^ k ≤ 2 ^ (m.log2 + 1) * 2 ^ k := Nat.mul_le_mul_right _ hhigh
  rw [← Nat.pow_add] at hlow hhigh
  rw [Nat.add_mul, Nat.one_mul] at hhigh
  have hexponent : m.log2 + 1 + k = m.log2 + k + 1 := by omega
  rw [hexponent] at hhigh
  exact (Nat.log2_eq_iff (by omega)).2 ⟨by omega, by omega⟩

theorem log2_mul_two_pow {m : ℕ} (hm : m ≠ 0) (k : ℕ) : (m * 2 ^ k).log2 = m.log2 + k :=
  log2_mul_two_pow_add hm (Nat.two_pow_pos k)

theorem log2_div_two_pow {m : ℕ} (h : 52 ≤ m.log2) : (m / 2 ^ (m.log2 - 52)).log2 = 52 := by
  have hm : m ≠ 0 := by
    rintro rfl
    simp at h
  obtain ⟨hlow, hhigh⟩ := bounds_of_log2 hm rfl
  have hpos := Nat.two_pow_pos (m.log2 - 52)
  have hsplit : m.log2 = 52 + (m.log2 - 52) := by omega
  have hquotient : 2 ^ 52 ≤ m / 2 ^ (m.log2 - 52) := by
    rw [Nat.le_div_iff_mul_le hpos, ← Nat.pow_add, ← hsplit]
    exact hlow
  refine (Nat.log2_eq_iff (by omega)).2 ⟨hquotient, ?_⟩
  rw [Nat.div_lt_iff_lt_mul hpos, ← Nat.pow_add]
  exact lt_of_lt_of_eq hhigh (by congr 1; omega)

/-! ### Mantissas -/

theorem mantissa_shiftRight (em : ExtendedMantissa) (k : ℕ) :
    (em >>> k).mantissa = em.mantissa / 2 ^ k := by
  induction k with
  | zero => exact (Nat.div_one _).symm
  | succ k ih =>
    show (em >>> k).mantissa / 2 = _
    rw [ih, Nat.div_div_eq_div_mul, Nat.pow_succ]

/-- The bit behind the mantissa is the last one that was shifted out. -/
theorem roundBit_shiftRight_succ (em : ExtendedMantissa) (k : ℕ) :
    (em >>> (k + 1)).roundBit = (em.mantissa / 2 ^ k % 2 != 0) := by
  show ((em >>> k).mantissa % 2 != 0) = _
  rw [mantissa_shiftRight]

theorem mantissa_ofMantissaAndAccuracy (m : ℕ) (accuracy : Accuracy) :
    (ExtendedMantissa.ofMantissaAndAccuracy m accuracy).mantissa = m := by
  rcases accuracy with _ | _ | _ | _ <;> rfl

/-- A mantissa is rounded down or up by one. -/
theorem roundedMantissa_eq (em : ExtendedMantissa) :
    em.roundedMantissa = em.mantissa ∨ em.roundedMantissa = em.mantissa + 1 := by
  obtain ⟨m, _ | _, _ | _⟩ := em
  · exact .inl rfl
  · exact .inl rfl
  · show m + m % 2 = m ∨ m + m % 2 = m + 1
    omega
  · exact .inr rfl

theorem roundedMantissa_of_roundBit {em : ExtendedMantissa} (h : em.roundBit = false) :
    em.roundedMantissa = em.mantissa := by
  obtain ⟨m, _ | _, _ | _⟩ := em
  · rfl
  · rfl
  · cases h
  · cases h

/-- A mantissa with at least as many digits as there is room for, cut to these and rounded. -/
def rounded (m : ℕ) (accuracy : Accuracy) : ℕ :=
  (ExtendedMantissa.ofMantissaAndAccuracy m accuracy >>> (m.log2 - 52)).roundedMantissa

/-- The rounded mantissa is full, or it is the next power of two. -/
theorem log2_rounded {m : ℕ} (hm : 52 ≤ m.log2) (accuracy : Accuracy) :
    (rounded m accuracy).log2 = 52 ∨ (rounded m accuracy).log2 = 53 := by
  let em := ExtendedMantissa.ofMantissaAndAccuracy m accuracy >>> (m.log2 - 52)
  have hcut : em.mantissa.log2 = 52 := by
    rw [mantissa_shiftRight, mantissa_ofMantissaAndAccuracy, log2_div_two_pow hm]
  obtain ⟨hlow, hhigh⟩ := bounds_of_log2 (ne_zero_of_log2 hcut) hcut
  have hrounded : rounded m accuracy = em.mantissa ∨ rounded m accuracy = em.mantissa + 1 :=
    roundedMantissa_eq em
  rcases Nat.lt_or_ge (rounded m accuracy) (2 ^ 53) with h | h
  · exact .inl ((Nat.log2_eq_iff (by omega)).2 ⟨by omega, h⟩)
  · -- A full mantissa that is rounded up past the last digit is the next power of two.
    have hnext : rounded m accuracy = 2 ^ 53 := by omega
    exact .inr (by rw [hnext, Nat.log2_two_pow])

/-- What is less than half of the last digit is rounded away. -/
theorem rounded_mul_two_pow_add {m k x : ℕ} (hm : m.log2 = 52) (hx : 2 * x < 2 ^ k) :
    rounded (m * 2 ^ k + x) .exact = m := by
  have hm0 := ne_zero_of_log2 hm
  have hlog : (m * 2 ^ k + x).log2 - 52 = k := by
    rw [log2_mul_two_pow_add hm0 (by omega)]
    omega
  rw [rounded, hlog]
  -- The bit behind the digits that are kept is zero, so nothing is rounded up.
  rcases k with _ | k
  · obtain rfl : x = 0 := by omega
    show m * 1 + 0 = m
    omega
  · have hx : x < 2 ^ k := by
      rw [Nat.pow_succ] at hx
      omega
    have hsplit : m * 2 ^ (k + 1) + x = 2 ^ k * (m * 2) + x := by
      rw [Nat.pow_succ]
      ring
    have hbits : (m * 2 ^ (k + 1) + x) / 2 ^ k = m * 2 := by
      rw [hsplit, Nat.mul_add_div (Nat.two_pow_pos k), Nat.div_eq_of_lt hx, Nat.add_zero]
    rw [roundedMantissa_of_roundBit]
    · rw [mantissa_shiftRight, mantissa_ofMantissaAndAccuracy, Nat.pow_succ,
        ← Nat.div_div_eq_div_mul, ← Nat.pow_succ, hbits]
      omega
    · rw [roundBit_shiftRight_succ, mantissa_ofMantissaAndAccuracy, hbits]
      simp

/-! ### Rounding -/

theorem targetExponent_of_le {total : ℤ} (hlow : -1021 ≤ total) :
    Format.binary64.targetExponent total = total - 53 := by
  have hmin : Format.binary64.minExponent = -1074 := rfl
  have hbits : (Format.binary64.mantissaBits : ℤ) = 53 := rfl
  rw [Format.targetExponent, hmin, hbits]
  omega

theorem targetExponent_eq {m : ℕ} {e : ℤ} (hlow : -1022 ≤ (m.log2 : ℤ) + e) :
    Format.binary64.targetExponent (totalExponent m e) = (m.log2 : ℤ) + e - 52 := by
  rw [totalExponent, targetExponent_of_le (by omega)]
  omega

/-- A mantissa with at least as many digits as there is room for is cut to a full one. -/
theorem shiftToTargetExponent_eq {m : ℕ} {e : ℤ} (hm : 52 ≤ m.log2)
    (hlow : -1022 ≤ (m.log2 : ℤ) + e) (accuracy : Accuracy) :
    shiftToTargetExponent .binary64 m e accuracy
      = (ExtendedMantissa.ofMantissaAndAccuracy m accuracy >>> (m.log2 - 52),
          (m.log2 : ℤ) + e - 52) := by
  have hshift : ((m.log2 : ℤ) + e - 52 - e).toNat = m.log2 - 52 := by omega
  rw [shiftToTargetExponent, targetExponent_eq hlow]
  simp only [shiftToExponent, hshift]
  congr 1
  omega

/-- The rounded mantissa becomes that of the result, at the exponent that keeps its value. -/
theorem roundWithAccuracy_eq (sign : Sign) {m : ℕ} {e : ℤ} (hm : 52 ≤ m.log2)
    (hlow : -1022 ≤ (m.log2 : ℤ) + e) (accuracy : Accuracy) :
    ∃ h, roundWithAccuracy .binary64 sign m e accuracy
      = .finite sign (rounded m accuracy / 2 ^ ((rounded m accuracy).log2 - 52))
          ((rounded m accuracy).log2 + (m.log2 + e - 52) - 52) h := by
  have hrounded : 52 ≤ (rounded m accuracy).log2 := by
    rcases log2_rounded hm accuracy with h | h <;> omega
  have hfull := log2_div_two_pow hrounded
  refine ⟨Nat.pos_of_ne_zero (ne_zero_of_log2 hfull), ?_⟩
  rw [roundWithAccuracy, shiftToTargetExponent_eq hm hlow]
  dsimp only
  rw [← rounded, shiftToTargetExponent_eq hrounded (by omega)]
  dsimp only
  -- The second shift drops the digit that rounding up may have added.
  rw [dif_neg]
  · congr 1
    rw [mantissa_shiftRight, mantissa_ofMantissaAndAccuracy]
  · rw [mantissa_shiftRight, mantissa_ofMantissaAndAccuracy]
    exact ne_zero_of_log2 hfull

/-- Rounding keeps the exponent or raises it by one. -/
theorem isNormal_roundWithAccuracy (sign : Sign) {m : ℕ} {e : ℤ} (hm : 52 ≤ m.log2)
    (hlow : -1022 ≤ (m.log2 : ℤ) + e) (accuracy : Accuracy) :
    ∃ exponent, (m.log2 : ℤ) + e ≤ exponent ∧ exponent ≤ (m.log2 : ℤ) + e + 1 ∧
      IsNormal sign exponent (roundWithAccuracy .binary64 sign m e accuracy) := by
  obtain ⟨hpos, heq⟩ := roundWithAccuracy_eq sign hm hlow accuracy
  have hrounded := log2_rounded hm accuracy
  refine ⟨(rounded m accuracy).log2 + (m.log2 + e - 52), by omega, by omega, ?_⟩
  rw [heq]
  exact .mk _ _ (log2_div_two_pow (by omega))

/-- What is less than half of the last digit is rounded away. -/
theorem roundWithAccuracy_mul_two_pow_add (sign : Sign) {m k x : ℕ} {e : ℤ} (hm : m.log2 = 52)
    (hx : 2 * x < 2 ^ k) (hlow : -1074 ≤ e + k) :
    ∃ h, roundWithAccuracy .binary64 sign (m * 2 ^ k + x) e .exact = .finite sign m (e + k) h := by
  have hlog : (m * 2 ^ k + x).log2 = 52 + k := by
    rw [log2_mul_two_pow_add (ne_zero_of_log2 hm) (by omega), hm]
  obtain ⟨_, heq⟩ := roundWithAccuracy_eq sign (m := m * 2 ^ k + x) (e := e) (by omega) (by omega)
    .exact
  refine ⟨Nat.pos_of_ne_zero (ne_zero_of_log2 hm), heq.trans ?_⟩
  congr 1
  · rw [rounded_mul_two_pow_add hm hx, hm, Nat.sub_self, Nat.pow_zero, Nat.div_one]
  · rw [rounded_mul_two_pow_add hm hx, hm, hlog]
    omega

/-- A mantissa of any length is filled up before it is rounded. -/
theorem isNormal_round (sign : Sign) {m : ℕ} {e : ℤ} (hm : m ≠ 0)
    (hlow : -1022 ≤ (m.log2 : ℤ) + e) :
    ∃ exponent, (m.log2 : ℤ) + e ≤ exponent ∧ exponent ≤ (m.log2 : ℤ) + e + 1 ∧
      IsNormal sign exponent (UnpackedFloat.round .binary64 sign m e) := by
  have hshift : (e - ((m.log2 : ℤ) + e - 52)).toNat = 52 - m.log2 := by omega
  have hlog : (m <<< (52 - m.log2)).log2 = m.log2 + (52 - m.log2) := by
    rw [Nat.shiftLeft_eq, log2_mul_two_pow hm]
  have hround := isNormal_roundWithAccuracy sign (m := m <<< (52 - m.log2))
    (e := e - (52 - m.log2 : ℕ)) (by omega) (by omega) .exact
  rw [UnpackedFloat.round, targetExponent_eq hlow]
  simp only [decreaseExponent, hshift]
  rw [hlog] at hround
  obtain ⟨exponent, h1, h2, h3⟩ := hround
  exact ⟨exponent, by omega, by omega, h3⟩

theorem round_eq_roundWithAccuracy (sign : Sign) {m : ℕ} {e : ℤ} (hm : 52 ≤ m.log2)
    (hlow : -1022 ≤ (m.log2 : ℤ) + e) :
    UnpackedFloat.round .binary64 sign m e = roundWithAccuracy .binary64 sign m e .exact := by
  have hshift : (e - ((m.log2 : ℤ) + e - 52)).toNat = 0 := by omega
  rw [UnpackedFloat.round, targetExponent_eq hlow]
  simp only [decreaseExponent, hshift, Nat.shiftLeft_zero, Nat.cast_zero, Int.sub_zero]

/-- A number that fits into the mantissa is not changed, however it is written: `m * 2 ^ j` is the
full mantissa, and `m * 2 ^ k` the one that is rounded. -/
theorem round_eq_finite (sign : Sign) {m j : ℕ} {e : ℤ} (k : ℕ) (hm : m.log2 + j = 52)
    (hm0 : m ≠ 0) (hlow : -1074 ≤ e - j) :
    ∃ h, UnpackedFloat.round .binary64 sign (m * 2 ^ k) (e - k)
      = .finite sign (m * 2 ^ j) (e - j) h := by
  have hfull : (m * 2 ^ j).log2 = 52 := by rw [log2_mul_two_pow hm0, hm]
  have hlog : (m * 2 ^ k).log2 = m.log2 + k := log2_mul_two_pow hm0 k
  have htarget : ((m * 2 ^ k).log2 : ℤ) + (e - k) - 52 = e - j := by omega
  rw [UnpackedFloat.round, targetExponent_eq (by omega), htarget]
  simp only [decreaseExponent, Nat.shiftLeft_eq]
  -- Either the mantissa is filled up, or it has digits to spare, which are all zero.
  rcases Nat.le_total k j with hkj | hkj
  · obtain ⟨d, rfl⟩ := Nat.exists_eq_add_of_le hkj
    have hshift : (e - k - (e - (k + d : ℕ))).toNat = d := by omega
    obtain ⟨hpos, heq⟩ := roundWithAccuracy_mul_two_pow_add sign (k := 0) (x := 0)
      (e := e - k - d) hfull (by simp) (by push_cast at hlow ⊢; omega)
    refine ⟨hpos, ?_⟩
    rw [hshift, Nat.mul_assoc, ← Nat.pow_add]
    rw [Nat.pow_zero, Nat.mul_one, Nat.add_zero] at heq
    rw [heq]
    congr 1
    push_cast
    omega
  · obtain ⟨d, rfl⟩ := Nat.exists_eq_add_of_le hkj
    have hshift : (e - (j + d : ℕ) - (e - j)).toNat = 0 := by omega
    obtain ⟨hpos, heq⟩ := roundWithAccuracy_mul_two_pow_add sign (k := d) (x := 0)
      (e := e - (j + d : ℕ)) hfull (by simp) (by push_cast; omega)
    refine ⟨hpos, ?_⟩
    rw [hshift, Nat.pow_zero, Nat.mul_one, Nat.pow_add, ← Nat.mul_assoc]
    rw [Nat.add_zero] at heq
    rw [Nat.cast_zero, Int.sub_zero, heq]
    congr 1
    push_cast
    omega

/-! ### Packing -/

/-- Bits whose exponent is neither all zeros nor all ones are a number with a full mantissa, of
which the highest digit is left out. -/
theorem unpack_packComponents (sign : Sign) (exponent : BitVec 11) (mantissa : BitVec 52)
    (hzero : exponent ≠ 0#11) (hones : exponent ≠ -1#11) :
    ∃ h, unpack .binary64 (packComponents .binary64 sign exponent mantissa)
      = .finite sign (2 ^ 52 + mantissa.toNat) (exponent.toNat - 1075) h := by
  have hdigit : (1#1 ++ mantissa).toNat = 2 ^ 52 + mantissa.toNat := by
    rw [BitVec.toNat_append, Nat.shiftLeft_eq]
    show 2 ^ 52 ||| mantissa.toNat = _
    rw [Nat.or_comm, Nat.or_two_pow_eq_add_of_lt mantissa.isLt, Nat.add_comm]
  refine ⟨by positivity, ?_⟩
  rw [UnpackedFloat.unpack]
  simp only [unpackMantissa_packComponents, unpackExponent_packComponents,
    unpackSign_packComponents]
  rw [if_neg hones, if_neg hzero]
  congr 1
  cases sign <;> rfl

/-- A number with a full mantissa is packed as it is, unless its exponent is out of range. -/
theorem unpack_pack_of_isNormal {sign : Sign} {exponent : ℤ} {x : UnpackedFloat}
    (h : IsNormal sign exponent x) (hlow : -1022 ≤ exponent) :
    unpack .binary64 (pack .binary64 x) = if exponent ≤ 1023 then x else .infinity sign := by
  obtain ⟨m, hpos, hfull⟩ := h
  obtain ⟨hmlow, hmhigh⟩ := bounds_of_log2 (ne_zero_of_log2 hfull) hfull
  have hbits : 52 + 1 = Format.binary64.mantissaBits := rfl
  have hbiased : (exponent - 52 + Format.binary64.exponentBias
      + Format.binary64.mantissaBitsWithoutImplicit).toNat = (exponent + 1023).toNat := by
    show (exponent - 52 + 1023 + 52).toNat = _
    omega
  rw [UnpackedFloat.pack]
  simp only [hbiased, hfull]
  -- An exponent that is too large has the bits of infinity. Any other one is stored with a bias.
  rcases lt_or_ge 1023 exponent with hexponent | hexponent
  · have hinfinite : 2 ^ Format.binary64.exponentBits ≤ (exponent + 1023).toNat + 1 := by
      show 2048 ≤ _
      omega
    rw [if_pos hinfinite, if_neg (by omega)]
    cases sign <;> rfl
  · have hfinite : ¬ 2 ^ Format.binary64.exponentBits ≤ (exponent + 1023).toNat + 1 := by
      show ¬ 2048 ≤ _
      omega
    have hvalue : (BitVec.ofNat 11 (exponent + 1023).toNat).toNat = (exponent + 1023).toNat :=
      Nat.mod_eq_of_lt (by omega)
    obtain ⟨_, heq⟩ := unpack_packComponents sign (BitVec.ofNat 11 (exponent + 1023).toNat)
      (BitVec.ofNat 52 m)
      (fun h => by
        have h : (exponent + 1023).toNat = 0 := hvalue.symm.trans (congrArg BitVec.toNat h)
        omega)
      (fun h => by
        have h : (exponent + 1023).toNat = 2047 := hvalue.symm.trans (congrArg BitVec.toNat h)
        omega)
    rw [if_neg hfinite, if_pos hbits, if_pos hexponent]
    refine Eq.trans heq ?_
    congr 1
    · rw [BitVec.toNat_ofNat]
      omega
    · rw [hvalue]
      omega

end FlowDraft.Binary64
