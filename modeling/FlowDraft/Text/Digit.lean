import FlowDraft.Text.DigitTable

/-!
# `FlowDraft.Text.Digit`: digits

The decimal digits of every script, the decimal form of whole numbers, and fixed-width
hexadecimal.

* `ofDecimal_decimal`: reading a decimal form back gives the number.
-/

set_option autoImplicit false

namespace FlowDraft.Text

/-- The value of a decimal digit of any script. -/
def digitValue? (c : Char) : Option Nat :=
  (digitZeros.find? fun first => first ≤ c.toNat && c.toNat < first + 10).map (c.toNat - ·)

/-- The decimal form of a natural number, without leading zeros. -/
def decimal (n : Nat) : List Char :=
  Nat.toDigits 10 n

/-- The decimal form of an integer: a minus sign stands in front of a negative one. -/
def decimalInt : Int → List Char
  | .ofNat n => decimal n
  | .negSucc n => '-' :: decimal (n + 1)

/-- The number that ASCII decimal digits denote. -/
def ofDecimal (ds : List Char) : Nat :=
  Nat.ofDigitChars 10 ds 0

/-- The hexadecimal digit of a number below sixteen, in small letters. -/
def hexDigit (n : Nat) : Char :=
  Nat.digitChar n

/-- The last `width` hexadecimal digits of `n`. -/
def hex : (width : Nat) → (n : Nat) → List Char
  | 0, _ => []
  | w + 1, n => hex w (n / 16) ++ [hexDigit (n % 16)]

/-- The value of a hexadecimal digit, in small or capital letters. -/
def hexValue? (c : Char) : Option Nat :=
  if c.isDigit then some (c.toNat - '0'.toNat)
  else if 'a' ≤ c && c ≤ 'f' then some (c.toNat - 'a'.toNat + 10)
  else if 'A' ≤ c && c ≤ 'F' then some (c.toNat - 'A'.toNat + 10)
  else none

/-- Reading a decimal form back gives the number. -/
theorem ofDecimal_decimal (n : Nat) : ofDecimal (decimal n) = n := by
  simp [ofDecimal, decimal]

end FlowDraft.Text
