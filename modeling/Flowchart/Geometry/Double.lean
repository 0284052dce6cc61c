import Flowchart.Decimal.Binary
import Flowchart.Geometry.Scalar

/-!
Doubles as scalars. The length of a vector is the exact square root of the sum of squares, rounded
once.
-/

namespace Flowchart

namespace Decimal

/-- The double nearest to `mantissa * 2 ^ exponent`, for mantissas of up to 64 bits. -/
def ofMantissa (mantissa : Nat) (exponent : Int) : Float :=
  mantissa.toUInt64.toFloat.scaleB exponent

/-- The nearest double to the square root of `square * 2 ^ (2 * exponent)`. The root is taken with
more digits than a double has, and its last digit tells whether anything is left below it. -/
def roundedRoot (square : Nat) (exponent : Int) : Float :=
  let shift := (60 - square.log2 / 2 : Nat)
  let scaled := square * Nat.pow 4 shift
  let root := Nat.sqrt scaled
  if root < Nat.pow 2 62 then
    ofMantissa (2 * root + if root * root = scaled then 0 else 1) (exponent - shift - 1)
  else
    let drop := root.log2 - 61
    let rest := root % Nat.pow 2 drop
    ofMantissa (2 * (root / Nat.pow 2 drop) + if rest = 0 ∧ root * root = scaled then 0 else 1)
      (exponent - shift + drop - 1)

/-- The length of the vector with two components. -/
def hypotenuse (dx dy : Float) : Float :=
  if dx.isInf || dy.isInf then 1.0 / 0.0
  else if dx.isNaN || dy.isNaN then 0.0 / 0.0
  else
    let x := Binary.ofFloat dx
    let y := Binary.ofFloat dy
    let exponent := min x.exponent y.exponent
    let a := x.mantissa * Nat.pow 2 (x.exponent - exponent).toNat
    let b := y.mantissa * Nat.pow 2 (y.exponent - exponent).toNat
    if a * a + b * b = 0 then 0.0 else roundedRoot (a * a + b * b) exponent

end Decimal

instance : Scalar Float where
  ofNat n := Float.ofNat n
  decideLT _ _ := inferInstance
  decideLE _ _ := inferInstance
  shorter dx dy length := Decimal.hypotenuse dx dy < length
  isBounded x := x < 1.0 / 0.0

end Flowchart
