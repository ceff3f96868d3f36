import FlowDraft.Proofs.Binary64.Rounding

/-!
# `FlowDraft.Proofs.Binary64.Integer`: integers that binary64 has exactly

An integer below `2 ^ 53` fits into the mantissa. It is converted without rounding (`ofInt_eq`), and
as long as sums stay below that bound, they are the sums of the integers (`ofInt_add`).
-/

set_option autoImplicit false

namespace FlowDraft.Binary64

open Float.Model UnpackedFloat

/-- Every integer but zero is a magnitude with a sign. -/
theorem exists_sign_apply {n : ℤ} (hn : n ≠ 0) : ∃ sign : Sign, n = sign.apply n.natAbs := by
  rcases lt_or_gt_of_ne hn with h | h
  · exact ⟨.negative, by simp only [Sign.apply]; omega⟩
  · exact ⟨.positive, by simp only [Sign.apply]; omega⟩

theorem normalize_sign_apply (sign zeroSign : Sign) {m : ℕ} (hm : m ≠ 0) (e : ℤ) :
    normalize .binary64 (sign.apply m) e zeroSign = UnpackedFloat.round .binary64 sign m e := by
  rw [UnpackedFloat.normalize]
  cases sign with
  | negative =>
    have hcompare : compare (Sign.negative.apply m) 0 = .lt :=
      Int.compare_eq_lt.2 (by simp only [Sign.apply]; omega)
    rw [hcompare]
    simp [Sign.apply]
  | positive =>
    have hcompare : compare (Sign.positive.apply m) 0 = .gt :=
      Int.compare_eq_gt.2 (by simp only [Sign.apply]; omega)
    rw [hcompare]
    simp [Sign.apply]

theorem sign_apply_mul (sign : Sign) (m : ℤ) (k : ℤ) : sign.apply m * k = sign.apply (m * k) := by
  cases sign <;> simp [Sign.apply]

theorem log2_add_eq {m : ℕ} (hm : m ≠ 0) (h : m < 2 ^ 53) : m.log2 + (52 - m.log2) = 52 := by
  have : m.log2 < 53 := (Nat.log2_lt hm).2 h
  omega

/-- An integer below the bound is not rounded, at whatever exponent it is written. -/
theorem normalize_eq_finite (sign zeroSign : Sign) {m : ℕ} (hm : m ≠ 0) (h : m < 2 ^ 53) (k : ℕ) :
    ∃ hpos, normalize .binary64 (sign.apply m * 2 ^ k) (-k) zeroSign
      = .finite sign (m * 2 ^ (52 - m.log2)) (-(52 - m.log2 : ℕ)) hpos := by
  obtain ⟨hpos, heq⟩ := round_eq_finite sign (e := 0) k (log2_add_eq hm h) hm (by omega)
  refine ⟨hpos, ?_⟩
  have hpow : sign.apply m * 2 ^ k = sign.apply (m * 2 ^ k : ℕ) := by
    rw [sign_apply_mul]
    push_cast
    rfl
  rw [Int.zero_sub, Int.zero_sub] at heq
  rw [hpow, normalize_sign_apply _ _ (by positivity), heq]

theorem ofInt_eq_finite (sign : Sign) {m : ℕ} (hm : m ≠ 0) (h : m < 2 ^ 53) :
    ∃ hpos, UnpackedFloat.ofInt .binary64 (sign.apply m)
      = .finite sign (m * 2 ^ (52 - m.log2)) (-(52 - m.log2 : ℕ)) hpos := by
  obtain ⟨hpos, heq⟩ := normalize_eq_finite sign .positive hm h 0
  refine ⟨hpos, ?_⟩
  rw [Int.pow_zero, Int.mul_one, Nat.cast_zero, Int.neg_zero] at heq
  exact heq

theorem normalize_eq_ofInt {n : ℤ} (h : n.natAbs < 2 ^ 53) (k : ℕ) :
    normalize .binary64 (n * 2 ^ k) (-k) .positive = UnpackedFloat.ofInt .binary64 n := by
  by_cases hn : n = 0
  · subst hn
    rw [Int.zero_mul]
    rfl
  · obtain ⟨sign, hsign⟩ := exists_sign_apply hn
    obtain ⟨_, hleft⟩ := normalize_eq_finite sign .positive (Int.natAbs_ne_zero.2 hn) h k
    obtain ⟨_, hright⟩ := ofInt_eq_finite sign (Int.natAbs_ne_zero.2 hn) h
    rw [← hsign] at hleft hright
    rw [hleft, hright]

theorem add_finite (s t : Sign) (m n : ℕ) (e f : ℤ) (hm : 0 < m) (hn : 0 < n) :
    UnpackedFloat.add .binary64 (.finite s m e hm) (.finite t n f hn)
      = normalize .binary64
          (s.apply m * 2 ^ (e - min e f).toNat + t.apply n * 2 ^ (f - min e f).toNat) (min e f)
          .positive := by
  have hscale (u : Sign) (k d : ℕ) : u.apply (k <<< d : ℕ) = u.apply k * 2 ^ d := by
    rw [sign_apply_mul, Nat.shiftLeft_eq]
    push_cast
    rfl
  rw [← hscale, ← hscale]
  rfl

/-- The sum of integers is exact while it stays below the bound. -/
theorem add_ofInt {a b : ℤ} (ha : a.natAbs < 2 ^ 53) (hb : b.natAbs < 2 ^ 53)
    (hsum : (a + b).natAbs < 2 ^ 53) :
    UnpackedFloat.add .binary64 (UnpackedFloat.ofInt .binary64 a) (UnpackedFloat.ofInt .binary64 b)
      = UnpackedFloat.ofInt .binary64 (a + b) := by
  have hzero : UnpackedFloat.ofInt .binary64 0 = .zero .positive := rfl
  -- A zero has no mantissa to shift, so the cases with one are apart.
  by_cases ha0 : a = 0
  · rw [ha0, Int.zero_add, hzero]
    by_cases hb0 : b = 0
    · rw [hb0, hzero]
      rfl
    · obtain ⟨t, ht⟩ := exists_sign_apply hb0
      obtain ⟨_, heq⟩ := ofInt_eq_finite t (Int.natAbs_ne_zero.2 hb0) hb
      rw [ht, heq]
      rfl
  · obtain ⟨s, hs⟩ := exists_sign_apply ha0
    obtain ⟨_, hleft⟩ := ofInt_eq_finite s (Int.natAbs_ne_zero.2 ha0) ha
    rw [← hs] at hleft
    by_cases hb0 : b = 0
    · rw [hb0, hzero, hleft, Int.add_zero, hleft]
      rfl
    · obtain ⟨t, ht⟩ := exists_sign_apply hb0
      obtain ⟨_, hright⟩ := ofInt_eq_finite t (Int.natAbs_ne_zero.2 hb0) hb
      rw [← ht] at hright
      -- Both are written at the exponent of the one that has fewer digits.
      let i := 52 - a.natAbs.log2
      let j := 52 - b.natAbs.log2
      have hmin : min (-(i : ℤ)) (-(j : ℤ)) = -(max i j : ℕ) := by omega
      have hscale (u : Sign) (n k : ℕ) (hk : k ≤ max i j) :
          u.apply (n * 2 ^ k : ℕ) * 2 ^ (-(k : ℤ) - -(max i j : ℕ)).toNat
            = u.apply n * 2 ^ max i j := by
        obtain ⟨d, hd⟩ := Nat.exists_eq_add_of_le hk
        have hshift : (-(k : ℤ) - -(max i j : ℕ)).toNat = d := by omega
        rw [hshift, hd, Int.pow_add, ← Int.mul_assoc, sign_apply_mul u n]
        push_cast
        rfl
      rw [hleft, hright, add_finite, hmin, hscale s _ _ (le_max_left i j),
        hscale t _ _ (le_max_right i j), ← Int.add_mul, ← hs, ← ht]
      exact normalize_eq_ofInt hsum _

theorem mul_ofInt_one {n : ℤ} (hn : n.natAbs < 2 ^ 53) :
    UnpackedFloat.mul .binary64 (UnpackedFloat.ofInt .binary64 n)
      (UnpackedFloat.ofInt .binary64 1) = UnpackedFloat.ofInt .binary64 n := by
  by_cases hn0 : n = 0
  · rw [hn0]
    rfl
  · obtain ⟨s, hs⟩ := exists_sign_apply hn0
    obtain ⟨_, heq⟩ := ofInt_eq_finite s (Int.natAbs_ne_zero.2 hn0) hn
    have hfull : (n.natAbs * 2 ^ (52 - n.natAbs.log2)).log2 = 52 := by
      rw [log2_mul_two_pow (Int.natAbs_ne_zero.2 hn0),
        log2_add_eq (Int.natAbs_ne_zero.2 hn0) hn]
    have hone : UnpackedFloat.ofInt .binary64 1 = .finite .positive (2 ^ 52) (-52) (by decide) :=
      rfl
    -- One has the mantissa of a power of two, which is shifted out again.
    obtain ⟨_, hround⟩ := roundWithAccuracy_mul_two_pow_add s (k := 52) (x := 0)
      (e := -(52 - n.natAbs.log2 : ℕ) + -52) hfull (by simp) (by omega)
    rw [hs, heq, hone, UnpackedFloat.mul]
    have hsign : s * Sign.positive = s := by cases s <;> rfl
    rw [hsign]
    rw [Nat.add_zero] at hround
    rw [hround]
    congr 1
    omega

/-! ### Conversion -/

theorem isNormal_ofInt (sign : Sign) {m : ℕ} (hm : m ≠ 0) (h : m < 2 ^ 53) :
    IsNormal sign m.log2 (UnpackedFloat.ofInt .binary64 (sign.apply m)) := by
  obtain ⟨hpos, heq⟩ := ofInt_eq_finite sign hm h
  have hlog := log2_add_eq hm h
  have hexponent : (-(52 - m.log2 : ℕ) : ℤ) = m.log2 - 52 := by omega
  rw [heq]
  simp only [hexponent]
  exact .mk _ _ (by rw [log2_mul_two_pow hm, hlog])

theorem unpack_pack_ofInt {n : ℤ} (hn : n.natAbs < 2 ^ 53) :
    unpack .binary64 (pack .binary64 (UnpackedFloat.ofInt .binary64 n))
      = UnpackedFloat.ofInt .binary64 n := by
  by_cases hn0 : n = 0
  · rw [hn0]
    rfl
  · obtain ⟨s, hs⟩ := exists_sign_apply hn0
    have hnormal := isNormal_ofInt s (Int.natAbs_ne_zero.2 hn0) hn
    have hlog := log2_add_eq (Int.natAbs_ne_zero.2 hn0) hn
    rw [← hs] at hnormal
    rw [unpack_pack_of_isNormal hnormal (by omega), if_pos (by omega)]

theorem neg_ofInt {n : ℕ} (hn0 : n ≠ 0) (hn : n < 2 ^ 53) :
    UnpackedFloat.neg (UnpackedFloat.ofInt .binary64 n) = UnpackedFloat.ofInt .binary64 (-n) := by
  obtain ⟨_, hpositive⟩ := ofInt_eq_finite .positive hn0 hn
  obtain ⟨_, hnegative⟩ := ofInt_eq_finite .negative hn0 hn
  exact (congrArg UnpackedFloat.neg hpositive).trans hnegative.symm

theorem ofNat_eq {n : ℕ} (hn : n < 2 ^ 53) :
    Float.ofNat n = .ofModel (.pack (UnpackedFloat.ofInt .binary64 n)) := by
  have hword : n.toUInt64.toNat = n := Nat.mod_eq_of_lt (by omega)
  have hfloat : n.toUInt64.toFloat = .ofModel (.pack (UnpackedFloat.ofInt .binary64 n)) :=
    congrArg (fun k : ℕ => Float.ofModel (.pack (UnpackedFloat.ofInt .binary64 k))) hword
  have hone : Float.exactlyRepresentablePowersOfTen[0]
      = .ofModel (.pack (UnpackedFloat.ofInt .binary64 1)) := rfl
  have hmul : n.toUInt64.toFloat * Float.exactlyRepresentablePowersOfTen[0]
      = .ofModel (.pack (UnpackedFloat.ofInt .binary64 n)) := by
    rw [hfloat, hone]
    show Float.ofModel (.pack (UnpackedFloat.mul .binary64
      (unpack .binary64 (pack .binary64 (UnpackedFloat.ofInt .binary64 n)))
      (unpack .binary64 (pack .binary64 (UnpackedFloat.ofInt .binary64 1))))) = _
    rw [unpack_pack_ofInt (by omega), unpack_pack_ofInt (by decide), mul_ofInt_one (by omega)]
  rw [Float.ofNat]
  show Float.ofScientific n false 0 = _
  rw [Float.ofScientific, dif_pos ⟨hn, by omega⟩]
  exact hmul

/-- An integer below the bound is converted as it is. -/
theorem ofInt_eq {n : ℤ} (hn : n.natAbs < 2 ^ 53) :
    Float.ofInt n = .ofModel (.pack (UnpackedFloat.ofInt .binary64 n)) := by
  cases n with
  | ofNat n => exact ofNat_eq hn
  | negSucc n =>
    have hn : n + 1 < 2 ^ 53 := hn
    rw [Float.ofInt, ofNat_eq hn]
    show Float.ofModel (.pack (UnpackedFloat.neg (unpack .binary64 (pack .binary64
      (UnpackedFloat.ofInt .binary64 (n + 1 : ℕ)))))) = _
    rw [unpack_pack_ofInt (n := (n + 1 : ℕ)) hn, neg_ofInt (by omega) hn]
    rfl

theorem unpack_ofInt {n : ℤ} (hn : n.natAbs < 2 ^ 53) :
    (Float.ofInt n).toModel.unpack = UnpackedFloat.ofInt .binary64 n := by
  rw [ofInt_eq hn]
  exact unpack_pack_ofInt hn

/-- The sum of integers is exact while it stays below the bound. -/
theorem ofInt_add {a b : ℤ} (ha : a.natAbs < 2 ^ 53) (hb : b.natAbs < 2 ^ 53)
    (hsum : (a + b).natAbs < 2 ^ 53) : Float.ofInt a + Float.ofInt b = Float.ofInt (a + b) := by
  show Float.ofModel (.pack (UnpackedFloat.add .binary64 (Float.ofInt a).toModel.unpack
    (Float.ofInt b).toModel.unpack)) = _
  rw [unpack_ofInt ha, unpack_ofInt hb, add_ofInt ha hb hsum, ofInt_eq hsum]

end FlowDraft.Binary64
