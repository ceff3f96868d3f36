import FlowDraft.Decimal.Numeral
import FlowDraft.Text.Blank

/-!
# `FlowDraft.Decimal.Entered`: numbers that people enter

A number may be entered with white space around it, with digits of any script, and with a low line
between two digits. The four information separators U+001C to U+001F do not count as white space
here.
-/

set_option autoImplicit false

namespace FlowDraft.Decimal

/-- Why an entered number is not read. -/
inductive EntryError where
  | unreadable
  | oversized (digits : Nat)
deriving Repr, DecidableEq

namespace Entered

/-- The white space that may stand around an entered number. -/
def isMargin (c : Char) : Bool :=
  Text.isBlank c && !(0x1C ≤ c.toNat && c.toNat ≤ 0x1F)

/-- The text without the white space around it. -/
def trimMargin (cs : List Char) : List Char :=
  ((cs.dropWhile isMargin).reverse.dropWhile isMargin).reverse

/-- A digit of any script as an ASCII digit. -/
def plainDigit (c : Char) : Char :=
  match Text.digitValue? c with
  | some d => Nat.digitChar d
  | none => c

/-- The text without the low lines between digits, after a character that was a digit when
`afterDigit` says so. A low line anywhere else is refused. -/
def ungroup? (afterDigit : Bool) : List Char → Option (List Char)
  | [] => some []
  | c :: cs =>
    if c == '_' then
      if afterDigit && (cs.head?.any Char.isDigit) then ungroup? false cs else none
    else (ungroup? c.isDigit cs).map (c :: ·)

/-- An entered text in ASCII digits, without white space and low lines. -/
def plain? (s : String) : Option (List Char) :=
  ungroup? false ((trimMargin s.toList).map plainDigit)

/-- The sign of an entered number, true for a minus, and what follows it. -/
def sign (cs : List Char) : Bool × List Char :=
  Numeral.scanSign cs

/-- The digits and low lines at the start of a text, and what follows them. -/
def digitRun (cs : List Char) : List Char × List Char :=
  let inside (c : Char) := c.isDigit || c == '_'
  (cs.takeWhile inside, cs.dropWhile inside)

/-- The whole number that was entered. Low lines that are out of place are found before the digits
are counted, and the digits are counted before what follows them is looked at. -/
def toInt (s : String) : Except EntryError Int :=
  let (negative, body) := sign ((s.toList.dropWhile isMargin).map plainDigit)
  let (run, rest) := digitRun body
  match ungroup? false run with
  | none => .error .unreadable
  | some digits =>
    if maxDigits < digits.length then .error (.oversized digits.length)
    else if digits.isEmpty || !rest.all isMargin then .error .unreadable
    else .ok (if negative then -Text.ofDecimal digits else Text.ofDecimal digits)

/-- The number that digits, perhaps with a point and an exponent, denote. At least one digit must
stand beside the point. -/
def toFinite? (negative : Bool) (cs : List Char) : Option Float :=
  let (whole, afterWhole) := Numeral.digits cs
  let (fraction, afterFraction) := match afterWhole with
    | '.' :: rest => Numeral.digits rest
    | rest => ([], rest)
  let (exponent, rest) := Numeral.scanExponent afterFraction
  if (whole.isEmpty && fraction.isEmpty) || !rest.isEmpty then none
  else some (Numeral.toFloat ⟨negative, whole, some fraction, exponent⟩)

/-- The words for the values that are not finite, in small letters. -/
def words : List (List Char × Float) :=
  [("inf".toList, 1.0 / 0.0), ("infinity".toList, 1.0 / 0.0), ("nan".toList, 0.0 / 0.0)]

/-- The number that a text in ASCII digits denotes. -/
def ofPlain? (cs : List Char) : Option Float :=
  let (negative, magnitude) := sign cs
  match List.lookup (magnitude.map Char.toLower) words with
  | some x => some (if negative then -x else x)
  | none => toFinite? negative magnitude

/-- The number that was entered. -/
def toFloat? (s : String) : Option Float :=
  (plain? s).bind ofPlain?

end Entered

end FlowDraft.Decimal
