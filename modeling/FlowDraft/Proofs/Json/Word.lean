import FlowDraft.Json.Token
import Mathlib.Data.List.TakeWhile

/-!
# `FlowDraft.Proofs.Json.Word`: whole numbers as bare words

A whole number is written as a bare word, an optional sign before its decimal digits.
`ofWord_decimalInt` says that the word means the number again, as long as it has no more digits
than are read. No name of a value is in the way: each of them has a letter that no number has.
-/

set_option autoImplicit false

namespace FlowDraft

/-! ### The characters of a whole number -/

namespace Text

theorem isDigit_of_mem_decimal {n : Nat} {c : Char} (h : c ∈ decimal n) : c.isDigit = true :=
  Nat.isDigit_of_mem_toDigits (by decide) (by decide) h

theorem isDigit_or_sign_of_mem_decimalInt {n : Int} {c : Char} (h : c ∈ decimalInt n) :
    c.isDigit = true ∨ c = '-' := by
  cases n with
  | ofNat n => exact .inl (isDigit_of_mem_decimal h)
  | negSucc n =>
    rcases List.mem_cons.1 h with rfl | h
    · exact .inr rfl
    · exact .inl (isDigit_of_mem_decimal h)

theorem decimalInt_ne_nil (n : Int) : decimalInt n ≠ [] := by
  cases n with
  | ofNat n => exact Nat.toDigits_ne_nil
  | negSucc n => exact List.cons_ne_nil _ _

/-- A number other than zero does not start with a zero. -/
theorem head?_decimal_ne_zero {n : Nat} (h : 0 < n) : (decimal n).head? ≠ some '0' := by
  -- The first digit is that of the number without its last digit, down to a single digit.
  induction n using Nat.strongRecOn with
  | ind n ih =>
    rw [decimal]
    rcases Nat.lt_or_ge n 10 with hlt | hge
    · have hdigit : ∀ d : Fin 10, 0 < d.val → d.val.digitChar ≠ '0' := by decide
      rw [Nat.toDigits_of_lt_base hlt]
      simpa using hdigit ⟨n, hlt⟩ h
    · have hdiv : 0 < n / 10 := Nat.div_pos hge (by decide)
      rw [Nat.toDigits_of_base_le (by decide) hge, List.head?_append,
        Option.or_of_isSome (by simp [Nat.toDigits_ne_nil])]
      exact ih (n / 10) (Nat.div_lt_self h (by decide)) hdiv

end Text

/-! ### Numerals -/

namespace Decimal.Numeral

theorem scanWhole?_decimal (n : Nat) : scanWhole? (Text.decimal n) = some (Text.decimal n, []) := by
  rcases Nat.eq_zero_or_pos n with rfl | hpos
  · rfl
  · have hhead := Text.head?_decimal_ne_zero hpos
    have hall : ∀ c ∈ Text.decimal n, c.isDigit = true := fun c => Text.isDigit_of_mem_decimal
    have hdigits : digits (Text.decimal n) = (Text.decimal n, []) := by
      rw [digits, List.takeWhile_eq_self_iff.2 hall, List.dropWhile_eq_nil_iff.2 hall]
    cases hdecimal : Text.decimal n with
    | nil => exact absurd hdecimal Nat.toDigits_ne_nil
    | cons c cs =>
      rw [hdecimal] at hhead hall hdigits
      have hzero : ¬ (c == '0') = true := by simpa using hhead
      rw [scanWhole?, if_neg hzero, if_pos (hall c List.mem_cons_self), hdigits]

/-- A whole number is read as the numeral of its digits. -/
theorem scan?_decimalInt (n : Int) :
    scan? (Text.decimalInt n) = some (⟨decide (n < 0), Text.decimal n.natAbs, none, none⟩, []) := by
  cases n with
  | ofNat n =>
    have hsign : ∀ r, Text.decimal n ≠ '-' :: r := fun r h => by
      have hdigit := Text.isDigit_of_mem_decimal (n := n) (h ▸ List.mem_cons_self)
      exact absurd hdigit (by decide)
    rw [Text.decimalInt, scan?]
    · simp [scanWhole?_decimal, scanFraction, scanExponent]
    · exact hsign
  | negSucc n =>
    rw [Text.decimalInt, scan?]
    simp [scanWhole?_decimal, scanFraction, scanExponent, Int.negSucc_lt_zero]

end Decimal.Numeral

/-! ### Words -/

namespace Json.Token

theorem lookup_names_decimalInt (n : Int) : List.lookup (Text.decimalInt n) names = none := by
  have hnames : (names.all fun entry => entry.1.any fun c => !(c.isDigit || c == '-')) = true := by
    decide
  rw [List.lookup_eq_none_iff]
  intro entry hentry
  obtain ⟨c, hc, hletter⟩ := List.any_eq_true.1 (List.all_eq_true.1 hnames entry hentry)
  rw [bne_iff_ne]
  intro heq
  rcases Text.isDigit_or_sign_of_mem_decimalInt (heq ▸ hc) with h | h
  · simp [h] at hletter
  · simp [h] at hletter

theorem isBare_of_mem_decimalInt (n : Int) : ∀ c ∈ Text.decimalInt n, isBare c = true := by
  intro c hc
  rcases Text.isDigit_or_sign_of_mem_decimalInt hc with h | rfl
  · simp [isBare, Char.isAlphanum, h]
  · rfl

/-- A whole number with few enough digits is a word that means it. -/
theorem ofWord_decimalInt {n : Int} (h : (Text.decimal n.natAbs).length ≤ Decimal.maxDigits) :
    ofWord (Text.decimalInt n) = .value (.int n) := by
  have hint : Decimal.Numeral.toInt ⟨decide (n < 0), Text.decimal n.natAbs, none, none⟩ = n := by
    simp only [Decimal.Numeral.toInt, Text.ofDecimal_decimal, decide_eq_true_eq]
    split <;> omega
  have hdigits : ¬ Decimal.maxDigits < (Text.decimal n.natAbs).length := Nat.not_lt.2 h
  rw [ofWord, lookup_names_decimalInt, Decimal.Numeral.scan?_decimalInt]
  simp [Decimal.Numeral.isWhole, hdigits, ofNumeral, hint]

end Json.Token

end FlowDraft
