import Flowchart.Decimal.Binary

/-!
The shortest decimal that reads back as a given double.

A decimal reads back as a double when it lies between the midpoints to the two neighboring
doubles; a midpoint itself reads back as the neighbor with the even mantissa. The search goes
from coarse decimal grids to fine ones. On each grid only the two points around the double have to
be looked at, because if any point of a grid lies between the midpoints, one of these two does.
-/

namespace Flowchart.Decimal

/-- The number `digits * 10 ^ exponent`. -/
structure Scientific where
  digits : Nat
  exponent : Int
deriving Repr, Inhabited, DecidableEq

/-- A positive double and the midpoints to its neighbors, as fractions over one denominator. -/
structure Target where
  low : Nat
  value : Nat
  high : Nat
  denominator : Nat
  /-- Whether the midpoints read back as this double. -/
  closed : Bool

/-- The double `mantissa * 2 ^ exponent` with its midpoints. Below the first double of a binade
the neighbor is only half as far away. -/
def Target.ofBinary (b : Binary) : Target :=
  let below := if b.mantissa = leastNormalMantissa ∧ leastExponent < b.exponent then 1 else 2
  let scale := Nat.pow 2 (b.exponent - 2).toNat
  { low := (4 * b.mantissa - below) * scale
    value := 4 * b.mantissa * scale
    high := (4 * b.mantissa + 2) * scale
    denominator := Nat.pow 2 (2 - b.exponent).toNat
    closed := b.mantissa % 2 = 0 }

/-- Whether the fraction `numerator / denominator` reads back as the double, both sides having
been brought to one denominator. -/
def Target.accepts (t : Target) (numerator low high : Nat) : Bool :=
  if t.closed then low ≤ numerator && numerator ≤ high else low < numerator && numerator < high

/-- The point of the grid of step `10 ^ exponent` that reads back as the double. Of two such
points it is the nearer, and of two equally near ones the even. -/
def Target.onGrid? (t : Target) (exponent : Int) : Option Nat :=
  let step := t.denominator * Nat.pow 10 exponent.toNat
  let scale := Nat.pow 10 (-exponent).toNat
  let value := t.value * scale
  let below := value / step
  let fitsBelow := 0 < below && t.accepts (below * step) (t.low * scale) (t.high * scale)
  let fitsAbove := t.accepts ((below + 1) * step) (t.low * scale) (t.high * scale)
  let rest := value % step
  if fitsBelow && fitsAbove then
    if 2 * rest < step || (2 * rest = step && below % 2 = 0) then some below else some (below + 1)
  else if fitsBelow then some below
  else if fitsAbove then some (below + 1)
  else none

/-- Try grids from the given one on, each ten times finer than the one before. -/
def Target.search (t : Target) : Nat → Int → Scientific
  | 0, exponent => ⟨t.value / t.denominator, exponent⟩
  | steps + 1, exponent =>
    match t.onGrid? exponent with
    | some digits => ⟨digits, exponent⟩
    | none => t.search steps (exponent - 1)

/-- The decimal of fewest digits that reads back as a positive double, and of those the nearest.
Seventeen digits always suffice; the start of the search is a bound on the decimal logarithm. -/
def shortest (b : Binary) : Scientific :=
  let binaryLogarithm : Int := b.mantissa.log2 + b.exponent
  (Target.ofBinary b).search 24 (Int.fdiv (binaryLogarithm * 30103) 100000 + 2)

end Flowchart.Decimal
