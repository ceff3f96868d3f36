/-!
# `FlowDraft.Decimal.Binary`: a floating-point number taken apart

A finite binary64 number is a whole number of units of a power of two. `Binary.ofFloat` reads the
sign, the number of units and the power off the bits.
-/

set_option autoImplicit false

namespace FlowDraft.Decimal

/-- What a binary64 number stands for: `units * 2 ^ power` when it is finite. -/
inductive Binary where
  | nan
  | infinite (negative : Bool)
  | finite (negative : Bool) (units : Nat) (power : Int)
deriving Repr, DecidableEq

namespace Binary

/-- The least power of two that a finite number has units of. -/
def leastPower : Int := -1074

/-- The units that the hidden leading bit stands for: two to the power of fifty-two. -/
def hiddenUnits : Nat := 4503599627370496

/-- The number that a bit pattern stands for: a sign bit, eleven bits of exponent, fifty-two bits
of fraction. A zero exponent has no hidden leading bit, and an exponent of ones is not finite. -/
def ofBits (bits : Nat) : Binary :=
  let negative := (bits >>> 63) % 2 == 1
  let exponent : Nat := (bits >>> 52) % 2048
  let fraction := bits % hiddenUnits
  if exponent = 2047 then
    if fraction = 0 then .infinite negative else .nan
  else if exponent = 0 then .finite negative fraction leastPower
  else .finite negative (fraction + hiddenUnits) (leastPower + ((exponent : Int) - 1))

/-- The number taken apart. -/
def ofFloat (x : Float) : Binary :=
  ofBits x.toBits.toNat

/-- A number without infinity and without the value that is no number. -/
def isFinite : Binary → Bool
  | .finite .. => true
  | _ => false

end Binary

end FlowDraft.Decimal
