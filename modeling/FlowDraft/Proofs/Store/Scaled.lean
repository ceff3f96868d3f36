import FlowDraft.Proofs.Binary64.Magnitude
import FlowDraft.Store.Embedding

/-!
# `FlowDraft.Proofs.Store.Scaled`: vectors of integers scaled to length one

The length of a vector of integers is zero exactly when all of them are (`norm_beq_zero_iff`),
however many there are and however large. So a vector is never divided by zero. As long as the
squares stay in the range of binary64, no entry but zero becomes zero by the division
(`scale_beq_zero_iff`).
-/

set_option autoImplicit false

namespace FlowDraft.Store.Embedding

open Binary64 Float.Model UnpackedFloat

/-! ### Sums of squares -/

/-- What the square of an integer is: zero, or a number that is at least one. -/
def IsZeroOrLarge (top : ℤ) (a : Float) : Prop :=
  a.toModel.unpack = .zero .positive ∨ IsLarge .positive top a.toModel.unpack

theorem isLarge_add_square {top : ℤ} {a b : Float}
    (ha : IsLarge .positive (top + 55) a.toModel.unpack) (hb : IsZeroOrLarge top b) :
    IsLarge .positive (top + 55) (a + b).toModel.unpack := by
  rw [unpack_add]
  rcases hb with hb | hb
  · rw [hb, ha.add_zero]
    exact ha.unpack_pack
  · exact (isLarge_add ha hb).unpack_pack

theorem isLarge_foldl {top : ℤ} {ys : List Float} (h : ∀ y ∈ ys, IsZeroOrLarge top y) {a : Float}
    (ha : IsLarge .positive (top + 55) a.toModel.unpack) :
    IsLarge .positive (top + 55) (ys.foldl (· + ·) a).toModel.unpack := by
  induction ys generalizing a with
  | nil => exact ha
  | cons y ys ih =>
    rw [List.forall_mem_cons] at h
    exact ih h.2 (isLarge_add_square ha h.1)

/-- The sum of squares is zero if all of them are, and at least one otherwise. -/
theorem isZeroOrLarge_foldl {top : ℤ} {ys : List Float} (h : ∀ y ∈ ys, IsZeroOrLarge top y)
    {a : Float} (ha : a.toModel.unpack = .zero .positive) :
    (ys.foldl (· + ·) a).toModel.unpack = .zero .positive ∧
        (∀ y ∈ ys, y.toModel.unpack = .zero .positive) ∨
      IsLarge .positive (top + 55) (ys.foldl (· + ·) a).toModel.unpack ∧
        ∃ y ∈ ys, IsLarge .positive top y.toModel.unpack := by
  -- The sum is zero up to the first square that is not, and large from there on.
  induction ys generalizing a with
  | nil => exact .inl ⟨ha, by simp⟩
  | cons y ys ih =>
    rw [List.forall_mem_cons] at h
    rcases h.1 with hy | hy
    · have hsum : (a + y).toModel.unpack = .zero .positive := by
        rw [unpack_add, ha, hy]
        rfl
      rcases ih h.2 hsum with ⟨hzero, hall⟩ | ⟨hlarge, z, hz, hzlarge⟩
      · exact .inl ⟨hzero, List.forall_mem_cons.2 ⟨hy, hall⟩⟩
      · exact .inr ⟨hlarge, z, .tail _ hz, hzlarge⟩
    · refine .inr ⟨isLarge_foldl h.2 ?_, y, .head _, hy⟩
      rw [unpack_add, ha, hy.zero_add]
      exact (hy.mono (by omega)).unpack_pack

/-! ### Vectors of integers -/

theorem unpack_ofInt_zero : (Float.ofInt 0).toModel.unpack = .zero .positive :=
  unpack_ofInt (by decide)

theorem isZeroOrLarge_square {bits : ℕ} {s : ℤ} (h : s.natAbs.log2 ≤ bits) :
    IsZeroOrLarge (2 * bits + 4) (Float.ofInt s * Float.ofInt s) := by
  by_cases hs : s = 0
  · left
    rw [hs, unpack_mul, unpack_ofInt_zero]
    rfl
  · obtain ⟨sign, hlarge⟩ := isLarge_ofInt hs
    exact .inr ((isLarge_mul_self hlarge).mono (by omega))

theorem square_eq_zero_iff {s : ℤ} :
    (Float.ofInt s * Float.ofInt s).toModel.unpack = .zero .positive ↔ s = 0 := by
  constructor
  · intro hzero
    by_contra hs
    obtain ⟨sign, hlarge⟩ := isLarge_ofInt hs
    have hsquare := isLarge_mul_self hlarge
    rw [hzero] at hsquare
    rcases hsquare with ⟨⟨⟩⟩
  · rintro rfl
    rw [unpack_mul, unpack_ofInt_zero]
    rfl

/-- The sum of the squares of integers is zero if all of them are, and at least one otherwise. -/
theorem unpack_total_squares {bits : ℕ} {ss : List ℤ} (h : ∀ s ∈ ss, s.natAbs.log2 ≤ bits) :
    let sum := (total ((ss.map Float.ofInt).map fun x => x * x)).toModel.unpack
    sum = .zero .positive ∧ (∀ s ∈ ss, s = 0) ∨
      IsLarge .positive (2 * bits + 59) sum ∧ ¬ ∀ s ∈ ss, s = 0 := by
  have hsquares : ∀ y ∈ (ss.map Float.ofInt).map fun x => x * x, IsZeroOrLarge (2 * bits + 4) y := by
    rw [List.map_map]
    intro y hy
    obtain ⟨s, hs, rfl⟩ := List.mem_map.1 hy
    exact isZeroOrLarge_square (h s hs)
  have hzero : (0.0 : Float).toModel.unpack = .zero .positive := rfl
  rcases isZeroOrLarge_foldl hsquares hzero with ⟨hsum, hall⟩ | ⟨hsum, y, hy, hlarge⟩
  · refine .inl ⟨hsum, fun s hs => square_eq_zero_iff.1 (hall _ ?_)⟩
    exact List.mem_map.2 ⟨_, List.mem_map.2 ⟨s, hs, rfl⟩, rfl⟩
  · refine .inr ⟨hsum.mono (by omega), fun hall => ?_⟩
    rw [List.map_map] at hy
    obtain ⟨s, hs, rfl⟩ := List.mem_map.1 hy
    rw [Function.comp_apply, square_eq_zero_iff.2 (hall s hs)] at hlarge
    rcases hlarge with ⟨⟨⟩⟩

theorem exists_log2_le (ss : List ℤ) : ∃ bits : ℕ, ∀ s ∈ ss, s.natAbs.log2 ≤ bits :=
  ⟨(ss.map fun s => s.natAbs.log2).sum, fun _ hs =>
    List.single_le_sum (by simp) _ (List.mem_map_of_mem hs)⟩

/-- The length of a vector of integers is zero exactly when all of them are. -/
theorem norm_beq_zero_iff (ss : List ℤ) :
    (norm (ss.map Float.ofInt) == 0.0) = true ↔ ∀ s ∈ ss, s = 0 := by
  obtain ⟨bits, h⟩ := exists_log2_le ss
  have hnorm : (norm (ss.map Float.ofInt)).toModel.unpack = _ := unpack_sqrt _
  rcases unpack_total_squares h with ⟨hsum, hall⟩ | ⟨hsum, hall⟩
  · rw [hsum] at hnorm
    exact iff_of_true (beq_zero_iff.2 ⟨.positive, hnorm⟩) hall
  · have hlarge := (isLarge_sqrt hsum).unpack_pack
    rw [← hnorm] at hlarge
    exact iff_of_false (by simp [beq_zero_eq_false hlarge]) hall

theorem scale_of_zeros {ss : List ℤ} (h : ∀ s ∈ ss, s = 0) :
    scale (ss.map Float.ofInt) = ss.map Float.ofInt :=
  if_pos ((norm_beq_zero_iff ss).2 h)

theorem scale_of_nonzero {ss : List ℤ} (h : ¬ ∀ s ∈ ss, s = 0) :
    scale (ss.map Float.ofInt)
      = ss.map fun s => Float.ofInt s / norm (ss.map Float.ofInt) := by
  rw [scale, if_neg (mt (norm_beq_zero_iff ss).1 h), List.map_map]
  rfl

theorem length_scale (xs : List Float) : (scale xs).length = xs.length := by
  rw [scale]
  split_ifs <;> simp

/-- The length stays in the range of binary64 if the squares do. -/
theorem isNormal_norm {bits : ℕ} {ss : List ℤ} (h : ∀ s ∈ ss, s.natAbs.log2 ≤ bits)
    (hbits : bits ≤ 480) (hne : ¬ ∀ s ∈ ss, s = 0) :
    ∃ exponent : ℤ, exponent ≤ 512 ∧
      IsNormal .positive exponent (norm (ss.map Float.ofInt)).toModel.unpack := by
  have hnorm : (norm (ss.map Float.ofInt)).toModel.unpack = _ := unpack_sqrt _
  rcases unpack_total_squares h with ⟨-, hall⟩ | ⟨hsum, -⟩
  · exact absurd hall hne
  · generalize (total ((ss.map Float.ofInt).map fun x => x * x)).toModel.unpack = x at hnorm hsum
    -- The sum of the squares is in the range, and half of its exponent is far inside.
    rcases hsum with @⟨e, _, hsum, hlow, hhigh⟩ | h
    · obtain ⟨exponent, hexplow, hexphigh, hnormal⟩ := isNormal_sqrt hsum hlow
      rw [unpack_pack_of_isNormal hnormal (by omega), if_pos (by omega)] at hnorm
      rw [hnorm]
      exact ⟨exponent, by omega, hnormal⟩
    · omega

/-- A scaled vector of integers is zero exactly when the integers are. -/
theorem scale_beq_zero_iff {bits : ℕ} {ss : List ℤ} (h : ∀ s ∈ ss, s.natAbs.log2 ≤ bits)
    (hbits : bits ≤ 480) :
    (∀ x ∈ scale (ss.map Float.ofInt), (x == 0.0) = true) ↔ ∀ s ∈ ss, s = 0 := by
  by_cases hall : ∀ s ∈ ss, s = 0
  · refine iff_of_true (fun x hx => ?_) hall
    rw [scale_of_zeros hall] at hx
    obtain ⟨s, hs, rfl⟩ := List.mem_map.1 hx
    rw [hall s hs]
    exact beq_zero_iff.2 ⟨.positive, unpack_ofInt_zero⟩
  · refine iff_of_false (fun hzero => ?_) hall
    obtain ⟨exponent, hexponent, hnormal⟩ := isNormal_norm h hbits hall
    simp only [not_forall] at hall
    obtain ⟨s, hs, hne⟩ := hall
    obtain ⟨sign, hlarge⟩ := isLarge_ofInt hne
    have hx := hzero (Float.ofInt s / norm (ss.map Float.ofInt)) (by
      rw [scale_of_nonzero (fun h => hne (h s hs))]
      exact List.mem_map_of_mem hs)
    rw [div_beq_zero_eq_false hlarge hnormal (by omega)] at hx
    exact Bool.false_ne_true hx

end FlowDraft.Store.Embedding
