import Flowchart.Decimal.Written

/-!
What the machine that a program runs on allows: how long numbers and texts may be, and how deep
values may be nested.
-/

namespace Flowchart

/-- Limits of the machine. None stands for no limit. -/
structure Limits where
  /-- The digits of a whole number that is read from its digits or written with them. -/
  digits : Option Nat := none
  /-- The arrays and objects that may stand inside one another in a document that is read. -/
  reading : Option Nat := none
  /-- The same in a value that is shown in running text. -/
  showing : Option Nat := none
  /-- The same in a document that is printed. -/
  printing : Option Nat := none
  /-- How often something can be repeated. -/
  repetitions : Option Nat := none
  /-- The characters of a text that memory holds. -/
  characters : Option Nat := none
deriving Repr, Inhabited, DecidableEq

namespace Limits

/-- No limits at all. -/
def unlimited : Limits := {}

/-- The usual limits. Those on nesting leave room for what runs already when a document is read or
printed, and memory differs from machine to machine. -/
def standard : Limits where
  digits := some 4300
  reading := some 980
  showing := some 980
  printing := some 970
  repetitions := some (Nat.pow 2 63 - 1)
  characters := some (Nat.pow 2 32)

end Limits

/-- Whether a number is above a limit. -/
def exceeds (limit : Option Nat) (count : Nat) : Bool :=
  limit.any (· < count)

/-- What can be nested too deep. -/
inductive Nesting where
  | readArray
  | readObject
  | shown
  | printed
deriving Repr, Inhabited, DecidableEq

/-- How a value goes beyond the limits. -/
inductive Excess where
  /-- A whole number has too many digits. How many is only told when it is read. -/
  | digits (limit : Nat) (found : Option Nat)
  | nesting (kind : Nesting)
deriving Repr, Inhabited, DecidableEq

/-- What is going on when something turns out to be nested too deep. -/
def Nesting.activity : Nesting → String
  | readArray => "while decoding a JSON array from a unicode string"
  | readObject => "while decoding a JSON object from a unicode string"
  | shown => "while getting the repr of an object"
  | printed => "while encoding a JSON object"

/-- The wording of an excess. -/
def Excess.message : Excess → String
  | digits limit found =>
    let value := match found with
      | some count => ": value has " ++ Decimal.natText count ++ " digits"
      | none => ""
    "Exceeds the limit (" ++ Decimal.natText limit ++
      " digits) for integer string conversion" ++ value ++
      "; use sys.set_int_max_str_digits() to increase the limit"
  | nesting kind => "maximum recursion depth exceeded " ++ kind.activity

/-- The excess of a whole number with so many digits. -/
def Limits.digitExcess? (limits : Limits) (count : Nat) (told : Bool) : Option Excess :=
  limits.digits.bind fun most =>
    if most < count then some (.digits most (if told then some count else none)) else none

end Flowchart
