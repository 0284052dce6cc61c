import Flowchart.Decimal.Written

/-!
Decimals of a given number of places or digits: the nearest one to a double, and of two equally
near ones the one whose last digit is even.
-/

namespace Flowchart.Decimal

/-- A quotient rounded to the nearest whole number, a half to the even one. -/
def roundedQuotient (numerator denominator : Nat) : Nat :=
  let below := numerator / denominator
  let rest := numerator % denominator
  if 2 * rest < denominator || (2 * rest = denominator && below % 2 = 0) then below else below + 1

namespace Binary

/-- The size of a number times `10 ^ places`, as a numerator and a denominator. -/
def scaled (b : Binary) (places : Int) : Nat × Nat :=
  (b.mantissa * Nat.pow 2 b.exponent.toNat * Nat.pow 10 places.toNat,
    Nat.pow 2 (-b.exponent).toNat * Nat.pow 10 (-places).toNat)

/-- The size of a number in units of `10 ^ -places`, rounded. -/
def rounded (b : Binary) (places : Int) : Nat :=
  let (numerator, denominator) := b.scaled places
  roundedQuotient numerator denominator

/-- The exponent of the greatest power of ten that is not above the size of a number; zero for the
number zero. The binary logarithm leaves two exponents to choose from. -/
def magnitude (b : Binary) : Int :=
  if b.mantissa = 0 then 0
  else
    let least := Int.fdiv (((b.mantissa.log2 : Nat) + b.exponent) * 30103) 100000
    let (numerator, denominator) := b.scaled (-(least + 1))
    if denominator ≤ numerator then least + 1 else least

end Binary

/-- Digits before the point and after it, and the exponent that follows them, if any. -/
structure Numeral where
  whole : List Char
  fraction : List Char
  exponent : Option Int := none
deriving Repr, Inhabited, DecidableEq

namespace Numeral

/-- A whole number of units of `10 ^ -places`. At least one digit stands before the point. -/
def ofUnits (units places : Nat) : Numeral :=
  let digits := natDigits units
  let padded := List.replicate (places + 1 - digits.length) '0' ++ digits
  let place := padded.length - places
  { whole := padded.take place, fraction := padded.drop place }

/-- A number with the given number of digits after the point. -/
def positional (places : Nat) (b : Binary) : Numeral :=
  ofUnits (b.rounded places) places

/-- A number with one digit before the point, the given number of digits after it, and an exponent.
Rounding may bring a number up to the next power of ten. -/
def scientific (places : Nat) (b : Binary) : Numeral :=
  let magnitude := b.magnitude
  let units := b.rounded (places - magnitude)
  if units < Nat.pow 10 (places + 1) then { ofUnits units places with exponent := some magnitude }
  else { ofUnits (units / 10) places with exponent := some (magnitude + 1) }

/-- A number with the given number of digits, in scientific form only if the positional one would
need zeros after the digits or many before them. -/
def general (digits : Nat) (b : Binary) : Numeral :=
  let long := scientific (digits - 1) b
  match long.exponent with
  | some magnitude =>
    if -4 ≤ magnitude ∧ magnitude < digits then positional (digits - 1 - magnitude).toNat b
    else long
  | none => long

/-- A numeral without the zeros at its end. -/
def trimmed (n : Numeral) : Numeral :=
  { n with fraction := (n.fraction.reverse.dropWhile (· == '0')).reverse }

/-- A numeral as text. A point that nothing follows is left out, unless it is asked for. -/
def text (withPoint : Bool) (n : Numeral) : List Char :=
  n.whole ++ (if n.fraction.isEmpty && !withPoint then [] else '.' :: n.fraction) ++
    (match n.exponent with
      | some exponent => exponentText exponent
      | none => [])

end Numeral

end Flowchart.Decimal
