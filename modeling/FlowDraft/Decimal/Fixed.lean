import FlowDraft.Decimal.Layout

/-!
# `FlowDraft.Decimal.Fixed`: a fixed number of places

A number with a fixed number of digits behind the point is its exact value rounded to that grid.
A half goes to the even neighbour.
-/

set_option autoImplicit false

namespace FlowDraft.Decimal

/-- The whole number nearest to a quotient. A half goes to the even neighbour. -/
def roundHalfEven (numerator denominator : Nat) : Nat :=
  let below := numerator / denominator
  let rest := numerator % denominator
  if 2 * rest < denominator then below
  else if denominator < 2 * rest then below + 1
  else if below % 2 = 0 then below else below + 1

/-- A whole number of units of `10 ^ -places`, with a point before the last `places` digits. -/
def pointed (places n : Nat) : List Char :=
  let digits := padLeft (places + 1) (Text.decimal n)
  let whole := digits.length - places
  digits.take whole ++ (if places = 0 then [] else '.' :: digits.drop whole)

/-- A number with `places` digits behind the point. -/
def fixed (places : Nat) (x : Float) : List Char :=
  match Binary.ofFloat x with
  | .nan => Layout.plain.nan.toList
  | .infinite negative => Layout.signed negative Layout.plain.infinity.toList
  | .finite negative units power =>
    let numerator := (units <<< power.toNat) * Nat.pow 10 places
    Layout.signed negative (pointed places (roundHalfEven numerator (1 <<< (-power).toNat)))

end FlowDraft.Decimal
