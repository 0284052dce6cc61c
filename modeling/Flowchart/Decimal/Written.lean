import Flowchart.Decimal.Shortest

/-!
Decimal text: how numbers are written, and which texts are numbers.
-/

namespace Flowchart.Decimal

/-- How a double is written out. -/
structure Style where
  /-- Magnitudes from `10 ^ positionalFrom` on and below `10 ^ positionalBelow` are written
  without an exponent. -/
  positionalFrom : Int := -4
  positionalBelow : Int := 16
  notANumber : String
  infinity : String

/-- Numbers in a document. -/
def documentStyle : Style where
  notANumber := "NaN"
  infinity := "Infinity"

/-- Numbers in running text. -/
def textStyle : Style where
  notANumber := "nan"
  infinity := "inf"

/-- The digits of a natural number. -/
def natDigits (n : Nat) : List Char :=
  Nat.toDigits 10 n

/-- A natural number as text. -/
def natText (n : Nat) : String :=
  String.ofList (natDigits n)

/-- A whole number as text. -/
def intText (n : Int) : String :=
  if n < 0 then "-" ++ natText n.natAbs else natText n.natAbs

/-- The digits with a point after the first `place` of them; zeros fill the gap when the point
stands outside the digits, and at least one digit stands on either side of it. -/
def positional (digits : List Char) (place : Int) : List Char :=
  if place ≤ 0 then '0' :: '.' :: (List.replicate (-place).toNat '0' ++ digits)
  else
    let whole := digits.take place.toNat
    let fraction := digits.drop place.toNat
    whole ++ List.replicate (place.toNat - whole.length) '0' ++
      '.' :: (if fraction.isEmpty then ['0'] else fraction)

/-- An exponent of at least two digits with its sign. -/
def exponentText (exponent : Int) : List Char :=
  let power := natDigits exponent.natAbs
  'e' :: (if exponent < 0 then '-' else '+') :: (if power.length < 2 then '0' :: power else power)

/-- One digit, the others after a point, and an exponent. -/
def withExponent (digits : List Char) (exponent : Int) : List Char :=
  let mantissa := match digits with
    | first :: second :: rest => first :: '.' :: second :: rest
    | _ => digits
  mantissa ++ exponentText exponent

/-- A double in the fewest digits that read back. -/
def floatText (style : Style) (x : Float) : String :=
  if x.isNaN then style.notANumber
  else
    let binary := Binary.ofFloat x
    let sign := if binary.negative then "-" else ""
    if x.isInf then sign ++ style.infinity
    else if binary.mantissa = 0 then sign ++ "0.0"
    else
      let decimal := shortest binary
      let digits := natDigits decimal.digits
      let magnitude := decimal.exponent + digits.length - 1
      sign ++ String.ofList
        (if style.positionalFrom ≤ magnitude ∧ magnitude < style.positionalBelow then
          positional digits (magnitude + 1)
        else withExponent digits magnitude)

/-- The double nearest to `digits * 10 ^ exponent`. Exponents far outside the range of doubles
are decided without computing the power. -/
def toFloat (digits : Nat) (exponent : Int) : Float :=
  let magnitude := exponent + (natDigits digits).length
  if digits = 0 then 0.0
  else if 310 < magnitude then Float.ofScientific 1 false 400
  else if magnitude < -330 then 0.0
  else if 0 ≤ exponent then Float.ofScientific digits false exponent.toNat
  else Float.ofScientific digits true exponent.natAbs

/-- The double nearest to a whole number. -/
def intToFloat (n : Int) : Float :=
  if n < 0 then -(toFloat n.natAbs 0) else toFloat n.natAbs 0

/-- The least double that is not below a whole number. A double is below the one exactly if it is
below the other. -/
def intToFloatAbove (n : Int) : Float :=
  let nearest := intToFloat n
  if nearest.isInf then if n < 0 then -(Float.ofBits 0x7fefffffffffffff) else nearest
  else if n ≤ wholePart nearest then nearest
  else if n < 0 then Float.ofBits (nearest.toBits - 1)
  else Float.ofBits (nearest.toBits + 1)

/-- The natural number that decimal digits spell. -/
def ofDigits (digits : List Nat) : Nat :=
  digits.foldl (fun n digit => 10 * n + digit) 0

end Flowchart.Decimal
