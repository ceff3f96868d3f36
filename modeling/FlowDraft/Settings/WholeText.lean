import FlowDraft.Decimal.Entered
import FlowDraft.Text.Search

/-!
# `FlowDraft.Settings.WholeText`: whole numbers in the texts of settings

A setting that is a whole number may be given as a text. White space may stand around the number, a
sign and zeros in front of it, low lines between its digits, and a point with zeros behind it. Low
lines among the zeros in front count for nothing, and behind these zeros a minus sign may stand.

A text in plain form, a minus sign if need be and digits, is read at once. Any other text is brought
into plain form and read then.
-/

set_option autoImplicit false

namespace FlowDraft.Settings

/-- What is wrong with a field. -/
inductive Problem where
  | notText
  | notWhole
  | hasFraction
  | notFinite
  | unreadableWhole
  | oversizedWhole
  | notNumber
  | unreadableNumber
  | tooSmall
  | tooLarge
deriving Repr, DecidableEq

/-- The text without its low lines, as long as each of them stands between two other characters. -/
def ungrouped (cs : List Char) : List Char :=
  if cs.head? = some '_' || cs.getLast? = some '_' || Text.occursIn ['_', '_'] cs then cs
  else cs.filter (· != '_')

namespace WholeText

/-- A digit other than zero, or a minus sign. -/
def isOpening (c : Char) : Bool :=
  (c.isDigit && c != '0') || c == '-'

/-- What is left of a text behind a zero, which is its last character so far. A point keeps the
character in front of it, and so does the end. -/
def afterZero? (last : Char) : List Char → Option (List Char)
  | [] => some [last]
  | c :: cs =>
    if c == '0' || c == '_' then afterZero? c cs
    else if isOpening c then some (c :: cs)
    else if c == '.' then some (last :: c :: cs)
    else none

/-- A number without the zeros in front of it. -/
def dropZeros? : List Char → Option (List Char)
  | [] => none
  | c :: cs =>
    if c == '0' then afterZero? c cs else if isOpening c then some (c :: cs) else none

/-- A number without a point that only zeros follow. -/
def dropFraction (cs : List Char) : List Char :=
  match Text.cutAt ['.'] cs with
  | some (whole, zeros) => if !zeros.isEmpty && zeros.all (· == '0') then whole else cs
  | none => cs

/-- The sign of a number, true for a minus, and what follows it. Two signs are none. -/
def cutSign? (cs : List Char) : Option (Bool × List Char) :=
  let (negative, rest) := Decimal.Numeral.scanSign cs
  if rest.length < cs.length && rest.head? = some '-' then none else some (negative, rest)

/-- A whole number in its plain form: a minus sign if it is negative, and digits. -/
def plain? (s : String) : Option (List Char) := do
  let (negative, body) ← cutSign? (Decimal.Entered.trimMargin s.toList)
  let magnitude ← dropZeros? body
  let digits := ungrouped (dropFraction magnitude)
  pure (if negative then '-' :: digits else digits)

/-- The number that a text in plain form denotes. The digits are counted before it is looked at what
follows them. -/
def ofPlain (cs : List Char) : Except Problem Int :=
  let (negative, body) := match cs with
    | '-' :: rest => (true, rest)
    | _ => (false, cs)
  match Decimal.Numeral.scanWhole? body with
  | none => .error .unreadableWhole
  | some (digits, rest) =>
    if Decimal.maxDigits < digits.length then .error .oversizedWhole
    else if !rest.isEmpty then .error .unreadableWhole
    else .ok (if negative then -Text.ofDecimal digits else Text.ofDecimal digits)

/-- The whole number that a text denotes. Only a text that begins with a plain form can have too
many digits: of one that has to be brought into it first, nothing is told but that it is not
read. -/
def read (s : String) : Except Problem Int :=
  match ofPlain (Decimal.Entered.trimMargin s.toList) with
  | .error .unreadableWhole => ((plain? s).elim (.error .unreadableWhole) ofPlain).mapError fun _ =>
    .unreadableWhole
  | answer => answer

end WholeText

end FlowDraft.Settings
