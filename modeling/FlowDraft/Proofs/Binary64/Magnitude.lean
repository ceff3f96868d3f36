import FlowDraft.Proofs.Binary64.Integer

/-!
# `FlowDraft.Proofs.Binary64.Magnitude`: results that are not too small

A number that is at least one in magnitude, or beyond the range, stays so under the operations that
a length is computed with: integers, products, sums and square roots (`isLarge_ofInt`,
`isLarge_mul`, `isLarge_add`, `isLarge_sqrt`). The bound on the exponent that comes with it grows by
a constant with each operation. It does not grow at all with the number of summands, as a sum that
is large enough absorbs what is added to it (`isNormal_add_of_le`).
-/

set_option autoImplicit false

namespace FlowDraft.Binary64

open Float.Model UnpackedFloat

/-- A number whose magnitude is at least one, and less than `2 ^ (top + 1)`. Where `top` is beyond
the range, infinity is one as well. -/
inductive IsLarge (sign : Sign) (top : ℤ) : UnpackedFloat → Prop where
  | finite {exponent : ℤ} {x : UnpackedFloat} (h : IsNormal sign exponent x) (hlow : 0 ≤ exponent)
      (hhigh : exponent ≤ top) : IsLarge sign top x
  | infinity (h : 1024 ≤ top) : IsLarge sign top (.infinity sign)

theorem IsLarge.mono {sign : Sign} {top top' : ℤ} {x : UnpackedFloat} (h : IsLarge sign top x)
    (hle : top ≤ top') : IsLarge sign top' x := by
  cases h with
  | finite h hlow hhigh => exact .finite h hlow (hhigh.trans hle)
  | infinity h => exact .infinity (h.trans hle)

theorem IsLarge.zero_le {sign : Sign} {top : ℤ} {x : UnpackedFloat} (h : IsLarge sign top x) :
    0 ≤ top := by
  cases h <;> omega

/-- Packing brings what is beyond the range to infinity. -/
theorem IsLarge.unpack_pack {sign : Sign} {top : ℤ} {x : UnpackedFloat} (h : IsLarge sign top x) :
    IsLarge sign top (unpack .binary64 (pack .binary64 x)) := by
  cases h with
  | finite h hlow hhigh =>
    rw [unpack_pack_of_isNormal h (by omega)]
    split_ifs with hrange
    · exact .finite h hlow hhigh
    · exact .infinity (by omega)
  | infinity h => cases sign <;> exact .infinity h

/-! ### Products -/

theorem log2_mul_of_full {m n : ℕ} (hm : m.log2 = 52) (hn : n.log2 = 52) :
    (m * n).log2 = 104 ∨ (m * n).log2 = 105 := by
  obtain ⟨hmlow, hmhigh⟩ := bounds_of_log2 (ne_zero_of_log2 hm) hm
  obtain ⟨hnlow, hnhigh⟩ := bounds_of_log2 (ne_zero_of_log2 hn) hn
  have hlow : 2 ^ 52 * 2 ^ 52 ≤ m * n := Nat.mul_le_mul hmlow hnlow
  have hhigh : m * n < 2 ^ 53 * 2 ^ 53 := Nat.mul_lt_mul'' hmhigh hnhigh
  rcases Nat.lt_or_ge (m * n) (2 ^ 105) with h | h
  · exact .inl ((Nat.log2_eq_iff (by omega)).2 ⟨by omega, h⟩)
  · exact .inr ((Nat.log2_eq_iff (by omega)).2 ⟨h, by omega⟩)

theorem isLarge_mul {s t : Sign} {top top' : ℤ} {x y : UnpackedFloat} (hx : IsLarge s top x)
    (hy : IsLarge t top' y) :
    IsLarge (s * t) (top + top' + 2) (UnpackedFloat.mul .binary64 x y) := by
  have htop := hx.zero_le
  have htop' := hy.zero_le
  rcases hx with @⟨e, _, ⟨m, hm, hmfull⟩, hlow, hhigh⟩ | h
  · rcases hy with @⟨f, _, ⟨n, hn, hnfull⟩, hlow', hhigh'⟩ | h'
    · have hlog := log2_mul_of_full hmfull hnfull
      obtain ⟨exponent, hexplow, hexphigh, hnormal⟩ :=
        isNormal_roundWithAccuracy (s * t) (m := m * n) (e := e - 52 + (f - 52)) (by omega)
          (by omega) .exact
      exact .finite hnormal (by omega) (by omega)
    · exact .infinity (by omega)
  · rcases hy with ⟨⟨n, hn, hnfull⟩, hlow', hhigh'⟩ | h'
    · exact .infinity (by omega)
    · exact .infinity (by omega)

/-! ### Sums -/

theorem add_positive {m n : ℕ} {e f : ℤ} (hm : 0 < m) (hn : 0 < n) :
    UnpackedFloat.add .binary64 (.finite .positive m e hm) (.finite .positive n f hn)
      = UnpackedFloat.round .binary64 .positive
          (m * 2 ^ (e - min e f).toNat + n * 2 ^ (f - min e f).toNat) (min e f) := by
  rw [add_finite, ← normalize_sign_apply .positive .positive (by positivity)]
  simp only [Sign.apply]
  push_cast
  rfl

/-- The sum has at most two digits more than the summands. -/
theorem isNormal_add {e f : ℤ} {x y : UnpackedFloat} (hx : IsNormal .positive e x)
    (hy : IsNormal .positive f y) (hlow : 0 ≤ e) :
    ∃ exponent, e ≤ exponent ∧ exponent ≤ max e f + 2 ∧
      IsNormal .positive exponent (UnpackedFloat.add .binary64 x y) := by
  obtain ⟨m, hm, hmfull⟩ := hx
  obtain ⟨n, hn, hnfull⟩ := hy
  obtain ⟨hmlow, hmhigh⟩ := bounds_of_log2 hm.ne' hmfull
  obtain ⟨hnlow, hnhigh⟩ := bounds_of_log2 hn.ne' hnfull
  -- One of the mantissas is shifted to the exponent of the other, which is not shifted.
  let a := (e - 52 - min (e - 52) (f - 52)).toNat
  let b := (f - 52 - min (e - 52) (f - 52)).toNat
  have hlow' : 2 ^ (52 + a) ≤ m * 2 ^ a + n * 2 ^ b := by
    rw [Nat.pow_add]
    exact Nat.le_add_right_of_le (Nat.mul_le_mul_right _ hmlow)
  have hhigh' : m * 2 ^ a + n * 2 ^ b < 2 ^ (54 + max a b) := by
    have ha : 2 ^ a ≤ 2 ^ max a b := Nat.pow_le_pow_right (by omega) (le_max_left a b)
    have hb : 2 ^ b ≤ 2 ^ max a b := Nat.pow_le_pow_right (by omega) (le_max_right a b)
    have hpos := Nat.two_pow_pos (max a b)
    calc m * 2 ^ a + n * 2 ^ b ≤ m * 2 ^ max a b + n * 2 ^ max a b :=
          Nat.add_le_add (Nat.mul_le_mul_left _ ha) (Nat.mul_le_mul_left _ hb)
      _ = (m + n) * 2 ^ max a b := (Nat.add_mul _ _ _).symm
      _ < 2 ^ 54 * 2 ^ max a b := Nat.mul_lt_mul_of_pos_right (by omega) hpos
      _ = 2 ^ (54 + max a b) := (Nat.pow_add _ _ _).symm
  have hpos : m * 2 ^ a + n * 2 ^ b ≠ 0 := by positivity
  have hlog := (Nat.le_log2 hpos).2 hlow'
  have hlog' := (Nat.log2_lt hpos).2 hhigh'
  rw [add_positive hm hn]
  obtain ⟨exponent, hexplow, hexphigh, hnormal⟩ :=
    isNormal_round .positive (e := min (e - 52) (f - 52)) hpos (by omega)
  exact ⟨exponent, by omega, by omega, hnormal⟩

/-- A summand that is too small by far is absorbed. -/
theorem isNormal_add_of_le {e f : ℤ} {x y : UnpackedFloat} (hx : IsNormal .positive e x)
    (hy : IsNormal .positive f y) (hlow : 0 ≤ f) (hle : f + 54 ≤ e) :
    IsNormal .positive e (UnpackedFloat.add .binary64 x y) := by
  obtain ⟨m, hm, hmfull⟩ := hx
  obtain ⟨n, hn, hnfull⟩ := hy
  obtain ⟨-, hnhigh⟩ := bounds_of_log2 hn.ne' hnfull
  obtain ⟨k, rfl⟩ : ∃ k : ℕ, e = f + k := ⟨(e - f).toNat, by omega⟩
  have hmin : min (f + k - 52) (f - 52) = f - 52 := by omega
  have hshift : (f + k - 52 - (f - 52)).toNat = k := by omega
  have hsmall : 2 * n < 2 ^ k := by
    have : 2 ^ 54 ≤ 2 ^ k := Nat.pow_le_pow_right (by omega) (by omega)
    omega
  have hlog : (m * 2 ^ k + n).log2 = 52 + k := by
    rw [log2_mul_two_pow_add hm.ne' (by omega), hmfull]
  -- The smaller mantissa is less than half of the last digit that is kept.
  obtain ⟨_, hround⟩ := roundWithAccuracy_mul_two_pow_add .positive (e := f - 52) hmfull hsmall
    (by omega)
  have hexponent : f - 52 + k = f + k - 52 := by omega
  rw [add_positive hm hn, hmin, hshift, Int.sub_self, Int.toNat_zero, Nat.pow_zero, Nat.mul_one,
    round_eq_roundWithAccuracy .positive (by omega) (by omega), hround]
  simp only [hexponent]
  exact .mk m _ hmfull

/-- The bound of a sum does not depend on the number of summands. -/
theorem isLarge_add {top : ℤ} {x y : UnpackedFloat} (hx : IsLarge .positive (top + 55) x)
    (hy : IsLarge .positive top y) :
    IsLarge .positive (top + 55) (UnpackedFloat.add .binary64 x y) := by
  rcases hx with @⟨e, _, hx, hlow, hhigh⟩ | h
  · rcases hy with @⟨f, _, hy, hlow', hhigh'⟩ | h'
    · rcases le_or_gt (f + 54) e with hle | hle
      · exact .finite (isNormal_add_of_le hx hy hlow' hle) hlow hhigh
      · obtain ⟨exponent, hexplow, hexphigh, hnormal⟩ := isNormal_add hx hy hlow
        exact .finite hnormal (by omega) (by omega)
    · cases hx
      exact .infinity (by omega)
  · rcases hy with ⟨⟨n, hn, hnfull⟩, hlow', hhigh'⟩ | h'
    · exact .infinity h
    · exact .infinity h

theorem IsLarge.add_zero {sign : Sign} {top : ℤ} {x : UnpackedFloat} (h : IsLarge sign top x) :
    UnpackedFloat.add .binary64 x (.zero .positive) = x := by
  rcases h with ⟨⟨m, hm, hfull⟩, hlow, hhigh⟩ | h <;> rfl

theorem IsLarge.zero_add {sign : Sign} {top : ℤ} {x : UnpackedFloat} (h : IsLarge sign top x) :
    UnpackedFloat.add .binary64 (.zero .positive) x = x := by
  rcases h with ⟨⟨m, hm, hfull⟩, hlow, hhigh⟩ | h <;> rfl

/-! ### Square roots and quotients -/

theorem log2_sqrt {m : ℕ} (hlow : 104 ≤ m.log2) (hhigh : m.log2 ≤ 105) : m.sqrt.log2 = 52 := by
  have hm : m ≠ 0 := by
    rintro rfl
    simp at hlow
  have hmlow : 2 ^ 104 ≤ m := (Nat.le_log2 hm).1 hlow
  have hmhigh : m < 2 ^ 106 := (Nat.log2_lt hm).1 (by omega)
  have hroot : 2 ^ 52 ≤ m.sqrt := Nat.le_sqrt.2 (by omega)
  have hroot' : m.sqrt < 2 ^ 53 := Nat.sqrt_lt.2 (by omega)
  exact (Nat.log2_eq_iff (by omega)).2 ⟨hroot, hroot'⟩

theorem isNormal_sqrt {exponent : ℤ} {x : UnpackedFloat} (h : IsNormal .positive exponent x)
    (hlow : 0 ≤ exponent) :
    ∃ exponent', exponent / 2 ≤ exponent' ∧ exponent' ≤ exponent / 2 + 1 ∧
      IsNormal .positive exponent' (UnpackedFloat.sqrt .binary64 x) := by
  obtain ⟨m, hm, hfull⟩ := h
  -- The mantissa is shifted so that the exponent is even and the root has 53 digits.
  let k := 52 + (exponent % 2).toNat
  have htarget : min ((exponent - 52).ediv 2) (Format.binary64.targetExponent
      ((totalExponent m (exponent - 52) + 1).ediv 2)) = exponent / 2 - 52 := by
    have hhalf (n : ℤ) : n.ediv 2 = n / 2 := rfl
    rw [totalExponent, hfull, hhalf, hhalf, targetExponent_of_le (by omega)]
    omega
  have hshift : (exponent - 52 - 2 * (exponent / 2 - 52)).toNat = k := by omega
  have hlog : (m <<< k).log2 = 52 + k := by
    rw [Nat.shiftLeft_eq, log2_mul_two_pow hm.ne', hfull]
  have hroot := log2_sqrt (m := m <<< k) (by omega) (by omega)
  rw [UnpackedFloat.sqrt]
  simp only [sqrtCore, htarget, hshift]
  obtain ⟨exponent', hexplow, hexphigh, hnormal⟩ := isNormal_roundWithAccuracy .positive
    (m := (m <<< k).sqrt) (e := exponent / 2 - 52) (by omega) (by omega) _
  exact ⟨exponent', by omega, by omega, hnormal⟩

theorem isLarge_sqrt {top : ℤ} {x : UnpackedFloat} (h : IsLarge .positive top x) :
    IsLarge .positive (top + 1) (UnpackedFloat.sqrt .binary64 x) := by
  rcases h with @⟨e, _, h, hlow, hhigh⟩ | h
  · obtain ⟨exponent, hexplow, hexphigh, hnormal⟩ := isNormal_sqrt h hlow
    exact .finite hnormal (by omega) (by omega)
  · exact .infinity (by omega)

theorem log2_div {m n : ℕ} (hm : m.log2 = 52) (hn : n.log2 = 52) :
    52 ≤ (m <<< 53 / n).log2 ∧ (m <<< 53 / n).log2 ≤ 53 := by
  obtain ⟨hmlow, hmhigh⟩ := bounds_of_log2 (ne_zero_of_log2 hm) hm
  obtain ⟨hnlow, hnhigh⟩ := bounds_of_log2 (ne_zero_of_log2 hn) hn
  have hpos : 0 < n := by omega
  have hlow : 2 ^ 52 ≤ m <<< 53 / n := by
    rw [Nat.le_div_iff_mul_le hpos, Nat.shiftLeft_eq]
    omega
  have hhigh : m <<< 53 / n < 2 ^ 54 := by
    rw [Nat.div_lt_iff_lt_mul hpos, Nat.shiftLeft_eq]
    omega
  have hne : m <<< 53 / n ≠ 0 := by omega
  exact ⟨(Nat.le_log2 hne).2 hlow, Nat.lt_succ_iff.1 ((Nat.log2_lt hne).2 hhigh)⟩

theorem isNormal_div {s t : Sign} {e f : ℤ} {x y : UnpackedFloat} (hx : IsNormal s e x)
    (hy : IsNormal t f y) (hlow : -1021 ≤ e - f) :
    ∃ exponent, e - f - 1 ≤ exponent ∧
      IsNormal (s / t) exponent (UnpackedFloat.div .binary64 x y) := by
  obtain ⟨m, hm, hmfull⟩ := hx
  obtain ⟨n, hn, hnfull⟩ := hy
  have htarget : min (e - 52 - (f - 52)) (Format.binary64.targetExponent
      (totalExponent m (e - 52) - totalExponent n (f - 52))) = e - f - 53 := by
    rw [totalExponent, totalExponent, hmfull, hnfull, targetExponent_of_le (by omega)]
    omega
  have hshift : (e - 52 - (f - 52) - (e - f - 53)).toNat = 53 := by omega
  obtain ⟨hqlow, hqhigh⟩ := log2_div hmfull hnfull
  rw [UnpackedFloat.div]
  simp only [divCore, htarget, hshift]
  obtain ⟨exponent, hexplow, -, hnormal⟩ := isNormal_roundWithAccuracy (s / t)
    (m := m <<< 53 / n) (e := e - f - 53) (by omega) (by omega) _
  exact ⟨exponent, by omega, hnormal⟩

theorem unpack_pack_div_ne_zero {s t : Sign} {top e : ℤ} {x y : UnpackedFloat}
    (hx : IsLarge s top x) (hy : IsNormal t e y) (hle : e ≤ 1021) (sign : Sign) :
    unpack .binary64 (pack .binary64 (UnpackedFloat.div .binary64 x y)) ≠ .zero sign := by
  intro hzero
  rcases hx with @⟨f, _, hx, hlow, hhigh⟩ | h
  · obtain ⟨exponent, hexplow, hnormal⟩ := isNormal_div hx hy (by omega)
    rw [unpack_pack_of_isNormal hnormal (by omega)] at hzero
    split_ifs at hzero
    rw [hzero] at hnormal
    cases hnormal
  · obtain ⟨n, hn, hfull⟩ := hy
    rw [UnpackedFloat.div] at hzero
    cases s <;> cases t <;> cases hzero

/-! ### Numbers -/

theorem unpack_add (a b : Float) :
    (a + b).toModel.unpack = unpack .binary64 (pack .binary64
      (UnpackedFloat.add .binary64 a.toModel.unpack b.toModel.unpack)) :=
  rfl

theorem unpack_mul (a b : Float) :
    (a * b).toModel.unpack = unpack .binary64 (pack .binary64
      (UnpackedFloat.mul .binary64 a.toModel.unpack b.toModel.unpack)) :=
  rfl

theorem unpack_div (a b : Float) :
    (a / b).toModel.unpack = unpack .binary64 (pack .binary64
      (UnpackedFloat.div .binary64 a.toModel.unpack b.toModel.unpack)) :=
  rfl

theorem unpack_sqrt (a : Float) :
    a.sqrt.toModel.unpack = unpack .binary64 (pack .binary64
      (UnpackedFloat.sqrt .binary64 a.toModel.unpack)) :=
  rfl

theorem IsLarge.neg {sign : Sign} {top : ℤ} {x : UnpackedFloat} (h : IsLarge sign top x) :
    IsLarge (-sign) top (UnpackedFloat.neg x) := by
  rcases h with ⟨⟨m, hm, hfull⟩, hlow, hhigh⟩ | h
  · exact .finite (.mk m hm hfull) hlow hhigh
  · exact .infinity h

theorem isLarge_ofNat {n : ℕ} (hn : n ≠ 0) :
    IsLarge .positive (n.log2 + 1) (Float.ofNat n).toModel.unpack := by
  rcases Nat.lt_or_ge n (2 ^ 53) with h | h
  · -- What fits into the mantissa is converted exactly, anything else is rounded as a product.
    have hnormal := isNormal_ofInt .positive hn h
    rw [ofNat_eq h]
    exact (IsLarge.finite hnormal (by omega) (by omega)).unpack_pack
  · have hlog : (n <<< 53 * 10 ^ 0).log2 = n.log2 + 53 := by
      rw [Nat.pow_zero, Nat.mul_one, Nat.shiftLeft_eq, log2_mul_two_pow hn]
    obtain ⟨exponent, hlow, hhigh, hnormal⟩ := isNormal_roundWithAccuracy .positive
      (m := n <<< 53 * 10 ^ 0) (e := -53 + 0) (by omega) (by omega) .exact
    have heq : UnpackedFloat.ofScientific .binary64 n 0
        = roundWithAccuracy .binary64 .positive (n <<< 53 * 10 ^ 0) (-53 + 0) .exact := by
      have hsmall : ¬ (0 : ℤ) < -((2 : ℤ) ^ Format.binary64.exponentBits + n.log2) := by
        have hbits : (2 : ℤ) ^ Format.binary64.exponentBits = 2048 := rfl
        omega
      rw [UnpackedFloat.ofScientific, dif_neg hn, if_neg (by decide), if_neg hsmall,
        if_pos (by decide)]
      rfl
    rw [Float.ofNat]
    show IsLarge _ _ (Float.ofScientific n false 0).toModel.unpack
    rw [Float.ofScientific, dif_neg (by omega)]
    show IsLarge _ _ (unpack .binary64 (pack .binary64 (UnpackedFloat.ofScientific .binary64 n 0)))
    rw [heq]
    exact (IsLarge.finite hnormal (by omega) (by omega)).unpack_pack

/-- Every integer but zero is at least one in magnitude. -/
theorem isLarge_ofInt {n : ℤ} (hn : n ≠ 0) :
    ∃ sign, IsLarge sign (n.natAbs.log2 + 1) (Float.ofInt n).toModel.unpack := by
  cases n with
  | ofNat n => exact ⟨.positive, isLarge_ofNat (fun h => hn (congrArg Int.ofNat h))⟩
  | negSucc n =>
    refine ⟨.negative, ?_⟩
    rw [Float.ofInt]
    exact (isLarge_ofNat (Nat.succ_ne_zero n)).neg.unpack_pack

theorem isLarge_mul_self {sign : Sign} {top : ℤ} {a : Float}
    (h : IsLarge sign top a.toModel.unpack) :
    IsLarge .positive (top + top + 2) (a * a).toModel.unpack := by
  have hsign : sign * sign = .positive := by cases sign <;> rfl
  have hmul := isLarge_mul h h
  rw [hsign] at hmul
  rw [unpack_mul]
  exact hmul.unpack_pack

theorem beq_zero_iff {a : Float} : (a == 0.0) = true ↔ ∃ sign, a.toModel.unpack = .zero sign := by
  have hbeq : (a == 0.0) = UnpackedFloat.beq a.toModel.unpack (.zero .positive) := rfl
  rw [hbeq]
  rcases a.toModel.unpack with sign | _ | sign | ⟨sign, m, e, hm⟩
  · cases sign <;> simp [UnpackedFloat.beq, UnpackedFloat.compare]
  · simp [UnpackedFloat.beq, UnpackedFloat.compare]
  · simp [UnpackedFloat.beq, UnpackedFloat.compare]
  · cases sign <;> simp [UnpackedFloat.beq, UnpackedFloat.compare]

theorem beq_zero_eq_false {sign : Sign} {top : ℤ} {a : Float}
    (h : IsLarge sign top a.toModel.unpack) : (a == 0.0) = false := by
  rw [← Bool.not_eq_true, beq_zero_iff]
  rintro ⟨s, hs⟩
  rw [hs] at h
  rcases h with ⟨⟨⟩⟩

/-- Dividing a number that is at least one by one that is not too large does not give zero. -/
theorem div_beq_zero_eq_false {sign : Sign} {top e : ℤ} {a b : Float}
    (ha : IsLarge sign top a.toModel.unpack) (hb : IsNormal .positive e b.toModel.unpack)
    (hle : e ≤ 1021) : (a / b == 0.0) = false := by
  rw [← Bool.not_eq_true, beq_zero_iff, unpack_div]
  rintro ⟨s, hs⟩
  exact unpack_pack_div_ne_zero ha hb hle s hs

end FlowDraft.Binary64
