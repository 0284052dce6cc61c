/-!
The exact value of a double: a sign, a whole number and a power of two.
-/

namespace Flowchart.Decimal

/-- The number `mantissa * 2 ^ exponent`, negated if `negative`. -/
structure Binary where
  negative : Bool
  mantissa : Nat
  exponent : Int
deriving Repr, Inhabited, DecidableEq

/-- The smallest exponent of a double: that of the subnormal numbers. -/
def leastExponent : Int := -1074

/-- The mantissa of the smallest number of a binade. -/
def leastNormalMantissa : Nat := Nat.pow 2 52

/-- The exact value of a finite double. -/
def Binary.ofFloat (x : Float) : Binary :=
  let bits := x.toBits.toNat
  let fraction := bits % leastNormalMantissa
  let biased := bits / leastNormalMantissa % 2048
  { negative := Nat.pow 2 63 ≤ bits
    mantissa := if biased = 0 then fraction else leastNormalMantissa + fraction
    exponent := leastExponent + ((biased - 1 : Nat) : Int) }

/-- The whole part of a finite double. -/
def wholePart (x : Float) : Int :=
  let binary := Binary.ofFloat x
  let size :=
    if 0 ≤ binary.exponent then binary.mantissa * Nat.pow 2 binary.exponent.toNat
    else binary.mantissa / Nat.pow 2 (-binary.exponent).toNat
  if binary.negative then -(size : Int) else size

end Flowchart.Decimal
