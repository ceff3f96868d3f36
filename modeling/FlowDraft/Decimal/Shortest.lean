import FlowDraft.Decimal.Binary
import FlowDraft.Text.Digit

/-!
# `FlowDraft.Decimal.Shortest`: the fewest digits that read back

The reals that round to a given binary number form an interval around it. The shortest decimal of
the number is the one with the fewest digits inside that interval, and the nearest of those. On a
grid of decimals only the two neighbours of the number can be the nearest, so each grid is tried
with these two, from one digit up to seventeen.
-/

set_option autoImplicit false

namespace FlowDraft.Decimal

/-- The decimal `coefficient * 10 ^ exponent`. -/
structure Scaled where
  coefficient : Nat
  exponent : Int
deriving Repr, DecidableEq

/-- The interval of the reals that round to a number, in quarters of the number's unit. The ends
belong to it when `closed` holds, and the quarter is `2 ^ power`. -/
structure Interval where
  low : Nat
  mid : Nat
  high : Nat
  closed : Bool
  power : Int
deriving Repr

namespace Interval

/-- The interval around `units * 2 ^ power`. Below a power of two the numbers lie twice as close,
unless the unit is the least one. -/
def around (units : Nat) (power leastPower : Int) : Interval where
  low := if units = Binary.hiddenUnits ∧ leastPower < power then 4 * units - 1 else 4 * units - 2
  mid := 4 * units
  high := 4 * units + 2
  closed := units % 2 == 0
  power := power - 2

/-- The factor that a coefficient of the grid `10 ^ s` takes when both sides are made whole. -/
def gridFactor (i : Interval) (s : Int) : Nat :=
  Nat.pow 10 s.toNat <<< (-i.power).toNat

/-- The factor that a number of quarters takes when both sides are made whole. -/
def quarterFactor (i : Interval) (s : Int) : Nat :=
  Nat.pow 10 (-s).toNat <<< i.power.toNat

/-- The decimal `c * 10 ^ s` lies in the interval. -/
def holds (i : Interval) (s : Int) (c : Nat) : Bool :=
  let x := c * i.gridFactor s
  let low := i.low * i.quarterFactor s
  let high := i.high * i.quarterFactor s
  if i.closed then low ≤ x && x ≤ high else low < x && x < high

/-- The coefficient on the grid `10 ^ s` that lies in the interval and is nearest to the number.
Of two at the same distance the even one is taken. -/
def nearest? (i : Interval) (s : Int) : Option Nat :=
  let step := i.gridFactor s
  let mid := i.mid * i.quarterFactor s
  let below := mid / step
  let above := below + 1
  match i.holds s below, i.holds s above with
  | false, false => none
  | true, false => some below
  | false, true => some above
  | true, true =>
    let down := mid - below * step
    let up := above * step - mid
    if down < up then some below
    else if up < down then some above
    else if below % 2 == 0 then some below else some above

end Interval

/-- The power of ten of the leading digit of `units * 2 ^ power`, for a positive number. -/
def leadingExponent (units : Nat) (power : Int) : Int :=
  let numerator := units <<< power.toNat
  let denominator := 1 <<< (-power).toNat
  if denominator ≤ numerator then (Text.decimal (numerator / denominator)).length - 1
  else
    match (List.range 400).find? fun j => denominator ≤ numerator * Nat.pow 10 j with
    | some j => -j
    | none => -400

/-- The same decimal without zeros at the end of its coefficient, at most `fuel` of them. -/
def Scaled.dropZeros : (fuel : Nat) → Scaled → Scaled
  | 0, d => d
  | fuel + 1, d =>
    if d.coefficient ≠ 0 ∧ d.coefficient % 10 = 0 then
      dropZeros fuel ⟨d.coefficient / 10, d.exponent + 1⟩
    else d

/-- The shortest decimal that reads back as `units * 2 ^ power`, for a positive number. Seventeen
digits always suffice. -/
def shortest (units : Nat) (power leastPower : Int) : Scaled :=
  let lead := leadingExponent units power
  let interval := Interval.around units power leastPower
  let found := (List.range 17).findSome? fun (k : Nat) =>
    (interval.nearest? (lead - k)).map fun c => Scaled.mk c (lead - k)
  (found.getD ⟨0, 0⟩).dropZeros 17

end FlowDraft.Decimal
