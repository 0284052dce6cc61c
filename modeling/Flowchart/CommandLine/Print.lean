import Flowchart.Json.Escaped
import Flowchart.Json.Printer

/-!
Printing documents, and why it can fail.

Main definition: `Json.print`.
-/

namespace Flowchart

/-- Why a document cannot be printed. -/
inductive PrintError where
  /-- The indent is a number of blanks that nothing can be repeated. -/
  | indentTooLarge
  | outOfMemory
  | excess (cause : Excess)
  /-- A string holds half of a surrogate pair, which no encoding has. -/
  | notEncodable
deriving Repr, Inhabited, DecidableEq

/-- The wording of a print error. -/
def PrintError.message : PrintError → String
  | indentTooLarge => "cannot fit 'int' into an index-sized integer"
  | outOfMemory => ""
  | excess cause => cause.message
  | notEncodable => "surrogates not allowed"

namespace Json

/-- The width of an indent; none for a document on one line. One below zero has no width, but starts
new lines all the same. -/
def indentWidth (indent : Int) : Option Nat :=
  if indent = 0 then none else some indent.toNat

/-- Whether a number can say how often something is to be repeated. -/
def isCount (limits : Limits) (number : Int) : Bool :=
  !exceeds limits.repetitions (if number < 0 then number.natAbs - 1 else number.natAbs)

/-- A document as it is printed. The indent is made first, and the whole text is encoded last. -/
def print (limits : Limits) (indent : Int) (value : Json) : Except PrintError String :=
  if !isCount limits indent then .error .indentTooLarge
  else if exceeds limits.characters indent.toNat then .error .outOfMemory
  else
    match value.excess? limits .printed limits.printing with
    | some cause => .error (.excess cause)
    | none =>
      let text := value.render (indentWidth indent)
      if exceeds limits.characters text.length then .error .outOfMemory
      else if value.encodable then .ok text
      else .error .notEncodable

end Json

end Flowchart
