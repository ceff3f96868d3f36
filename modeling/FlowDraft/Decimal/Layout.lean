import FlowDraft.Decimal.Binary
import FlowDraft.Decimal.Shortest

/-!
# `FlowDraft.Decimal.Layout`: how numbers are written

The shortest decimal of a number fixes its digits. A layout fixes the rest: where positional
notation ends, how the exponent looks and which words stand for the values that are not finite.
The library has two layouts, which differ in those words only: `Layout.plain` for reports and
`Layout.json` for documents.
-/

set_option autoImplicit false

namespace FlowDraft.Decimal

/-- The decisions that the digits leave open. -/
structure Layout where
  /-- The least exponent of the leading digit that is written positionally. -/
  least : Int
  /-- The least exponent of the leading digit that is no longer written positionally. -/
  bound : Int
  /-- The least number of digits of an exponent. -/
  exponentWidth : Nat
  nan : String
  infinity : String

/-- Reports: positional from 0.0001 up to sixteen digits before the point, otherwise an exponent
of at least two digits. -/
def Layout.plain : Layout := ⟨-4, 16, 2, "nan", "inf"⟩

/-- Documents: like reports, with the words of the document format. -/
def Layout.json : Layout := ⟨-4, 16, 2, "NaN", "Infinity"⟩

/-- The digits with zeros in front of them up to `width`. -/
def padLeft (width : Nat) (digits : List Char) : List Char :=
  List.replicate (width - digits.length) '0' ++ digits

/-- Digits in positional notation, the first of them standing for `10 ^ lead`. There is always a
digit on both sides of the point. -/
def positional (digits : List Char) (lead : Int) : List Char :=
  if lead < 0 then '0' :: '.' :: (List.replicate (-lead - 1).toNat '0' ++ digits)
  else
    let whole := lead.toNat + 1
    if digits.length ≤ whole then
      digits ++ List.replicate (whole - digits.length) '0' ++ ['.', '0']
    else digits.take whole ++ '.' :: digits.drop whole

/-- Digits with one of them before the point and the exponent of ten behind. -/
def scientific (width : Nat) (digits : List Char) (lead : Int) : List Char :=
  let fraction := if digits.length ≤ 1 then [] else '.' :: digits.drop 1
  let sign := if lead < 0 then '-' else '+'
  digits.take 1 ++ fraction ++ 'e' :: sign :: padLeft width (Text.decimal lead.natAbs)

namespace Layout

/-- A decimal without its sign. -/
def magnitude (l : Layout) (d : Scaled) : List Char :=
  let digits := Text.decimal d.coefficient
  let lead := d.exponent + (digits.length - 1)
  if l.least ≤ lead ∧ lead < l.bound then positional digits lead
  else scientific l.exponentWidth digits lead

/-- The sign in front of a number. -/
def signed (negative : Bool) (text : List Char) : List Char :=
  if negative then '-' :: text else text

/-- A number taken apart, as text. -/
def binary (l : Layout) : Binary → List Char
  | .nan => l.nan.toList
  | .infinite negative => signed negative l.infinity.toList
  | .finite negative units power =>
    if units = 0 then signed negative ['0', '.', '0']
    else signed negative (l.magnitude (shortest units power Binary.leastPower))

/-- A number as text. -/
def render (l : Layout) (x : Float) : List Char :=
  l.binary (.ofFloat x)

end Layout

/-- A number as text in reports. -/
def text (x : Float) : String :=
  String.ofList (Layout.plain.render x)

end FlowDraft.Decimal
