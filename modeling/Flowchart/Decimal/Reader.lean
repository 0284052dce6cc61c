import Flowchart.Decimal.Written
import Flowchart.Text.Digit
import Flowchart.Text.Search

/-!
Reading numbers that people write. A whole number has a sign and digits; any number may also have a
point and an exponent, or be one of the words for infinity and for no number.

A text may hold the digits of any script and underscores between digits; `plainDigits?` brings it
into the ASCII form that the readers take.
-/

namespace Flowchart.Decimal

open Text (run digitValue?)

/-- The value of ASCII digits. -/
def asciiDigits (digits : List Char) : Nat :=
  ofDigits (digits.map fun c => c.toNat - '0'.toNat)

/-- A sign and what follows it; no sign is a positive one. -/
def readSign : List Char → Bool × List Char
  | '-' :: rest => (true, rest)
  | '+' :: rest => (false, rest)
  | text => (false, text)

/-- A whole number: a sign and at least one digit. -/
def readInt? (text : List Char) : Option Int :=
  let (negative, digits) := readSign text
  if digits.isEmpty || !digits.all Char.isDigit then none
  else
    let size : Int := asciiDigits digits
    some (if negative then -size else size)

/-- The exponent that a text consists of, zero for no text. -/
def readExponent? : List Char → Option Int
  | [] => some 0
  | mark :: rest => if mark = 'e' ∨ mark = 'E' then readInt? rest else none

/-- Digits, with a point before, among or after them, and an exponent. -/
def readDigits? (text : List Char) : Option Float :=
  let (whole, rest) := run Char.isDigit text
  let (fraction, rest) := match rest with
    | '.' :: rest => run Char.isDigit rest
    | _ => ([], rest)
  if whole.isEmpty && fraction.isEmpty then none
  else (readExponent? rest).map fun exponent =>
    toFloat (asciiDigits (whole ++ fraction)) (exponent - fraction.length)

/-- A number without its sign: digits, or a word in any case. -/
def readUnsigned? (text : List Char) : Option Float :=
  let word := text.map Char.toLower
  if word = "inf".toList ∨ word = "infinity".toList then some (1.0 / 0.0)
  else if word = "nan".toList then some (0.0 / 0.0)
  else readDigits? text

/-- A number. -/
def readFloat? (text : List Char) : Option Float :=
  let (negative, unsigned) := readSign text
  (readUnsigned? unsigned).map fun size => if negative then -size else size

/-- A digit of any script as the ASCII digit of the same value; other characters stay. -/
def plainDigit (c : Char) : Char :=
  match digitValue? c with
  | some value => Char.ofNat ('0'.toNat + value)
  | none => c

/-- A text without its underscores, unless one of them does not stand between two digits. -/
def dropUnderscores? (afterDigit : Bool) : List Char → Option (List Char)
  | [] => some []
  | '_' :: rest =>
    match rest with
    | next :: _ => if afterDigit && next.isDigit then dropUnderscores? false rest else none
    | [] => none
  | c :: rest => (dropUnderscores? c.isDigit rest).map (c :: ·)

/-- The number that a text spells, without white space, underscores and digits of other scripts. -/
def plainDigits? (text : String) : Option (List Char) :=
  dropUnderscores? false ((Text.trimSpacing text.toList).map plainDigit)

end Flowchart.Decimal
