import FlowDraft.Text.Digit

/-!
# `FlowDraft.Decimal.Numeral`: written numbers

A numeral is a sign, digits, digits behind a point and an exponent of ten. `Numeral.scan?` takes
the longest numeral of the document format off a text, and `Numeral.toFloat` is the binary64
number nearest to what a numeral denotes.
-/

set_option autoImplicit false

namespace FlowDraft.Decimal

/-- The number nearest to `digits * 10 ^ exponent`. Numbers beyond the range of finite numbers are
infinite, and numbers too small for the least unit are zero; both are told by the position of the
first digit, so that no huge power is computed. -/
def nearest (negative : Bool) (digits : List Char) (exponent : Int) : Float :=
  let significant := digits.dropWhile (· == '0')
  let lead := (significant.length : Int) + exponent
  let magnitude : Float :=
    if significant.isEmpty || lead < -330 then 0.0
    else if 310 < lead then 1.0 / 0.0
    else Float.ofScientific (Text.ofDecimal significant) (exponent < 0) exponent.natAbs
  if negative then -magnitude else magnitude

/-- The most digits that a whole number may have. -/
def maxDigits : Nat := 4300

/-- What is reported for a whole number with too many digits. -/
def oversizedMessage (digits : Nat) : String :=
  "Exceeds the limit (" ++ toString maxDigits ++ " digits) for integer string conversion: " ++
    "value has " ++ toString digits ++
    " digits; use sys.set_int_max_str_digits() to increase the limit"

/-- A numeral of the document format. -/
structure Numeral where
  negative : Bool
  whole : List Char
  /-- The digits behind the point. -/
  fraction : Option (List Char)
  /-- The sign of the exponent, true for a minus, and its digits. -/
  exponent : Option (Bool × List Char)
deriving Repr, DecidableEq

namespace Numeral

/-- The digits at the start of a text and what follows them. -/
def digits (cs : List Char) : List Char × List Char :=
  (cs.takeWhile Char.isDigit, cs.dropWhile Char.isDigit)

/-- The whole part: a single zero, or digits that do not start with one. -/
def scanWhole? : List Char → Option (List Char × List Char)
  | [] => none
  | c :: cs =>
    if c == '0' then some (['0'], cs)
    else if c.isDigit then some (digits (c :: cs))
    else none

/-- A point with at least one digit behind it. -/
def scanFraction : List Char → Option (List Char) × List Char
  | [] => (none, [])
  | c :: cs =>
    match digits cs with
    | ([], _) => (none, c :: cs)
    | (ds, rest) => if c == '.' then (some ds, rest) else (none, c :: cs)

/-- The sign of an exponent, true for a minus, and what follows it. -/
def scanSign : List Char → Bool × List Char
  | [] => (false, [])
  | c :: cs => if c == '-' then (true, cs) else if c == '+' then (false, cs) else (false, c :: cs)

/-- The letter E, perhaps a sign, and at least one digit. -/
def scanExponent : List Char → Option (Bool × List Char) × List Char
  | [] => (none, [])
  | c :: cs =>
    let (negative, body) := scanSign cs
    match digits body with
    | ([], _) => (none, c :: cs)
    | (ds, rest) =>
      if c == 'e' || c == 'E' then (some (negative, ds), rest) else (none, c :: cs)

/-- The longest numeral at the start of a text and what follows it. -/
def scan? (cs : List Char) : Option (Numeral × List Char) :=
  let (negative, body) := match cs with
    | '-' :: r => (true, r)
    | _ => (false, cs)
  (scanWhole? body).map fun (whole, afterWhole) =>
    let (fraction, afterFraction) := scanFraction afterWhole
    let (exponent, rest) := scanExponent afterFraction
    (⟨negative, whole, fraction, exponent⟩, rest)

/-- A numeral without a point and without an exponent denotes a whole number. -/
def isWhole (n : Numeral) : Bool :=
  n.fraction.isNone && n.exponent.isNone

/-- The whole number that a numeral without point and exponent denotes. -/
def toInt (n : Numeral) : Int :=
  let magnitude : Int := Text.ofDecimal n.whole
  if n.negative then -magnitude else magnitude

/-- The number nearest to what a numeral denotes. -/
def toFloat (n : Numeral) : Float :=
  let fraction := n.fraction.getD []
  let exponent : Int := match n.exponent with
    | none => 0
    | some (true, ds) => -Text.ofDecimal ds
    | some (false, ds) => Text.ofDecimal ds
  nearest n.negative (n.whole ++ fraction) (exponent - fraction.length)

end Numeral

end FlowDraft.Decimal
