import Flowchart.Keyed
import Flowchart.Decimal.Written

/-!
Values of documents: what graphs are exchanged in, what comments attach to nodes, and what error
contexts and log records hold.
-/

namespace Flowchart

/-- A document value. Whole numbers are kept apart from doubles, and the fields of an object keep
their order. -/
inductive Json where
  | null
  | bool (value : Bool)
  | int (value : Int)
  | float (value : Float)
  | str (value : String)
  | arr (items : List Json)
  | obj (fields : List (String × Json))
  /-- An object that a comment attaches to a node, if some string in it holds half of a surrogate
  pair. Half a pair is no character, so all strings in the object are in escaped form. It is
  carried along with the node, and nothing in it is looked at. -/
  | escaped (fields : List (String × Json))
deriving Repr, Inhabited

namespace Json

/-- The name of the type of a value. -/
def typeName : Json → String
  | null => "NoneType"
  | bool _ => "bool"
  | int _ => "int"
  | float _ => "float"
  | str _ => "str"
  | arr _ => "list"
  | obj _ | escaped _ => "dict"

/-- Whether a value counts as absent: null, false, zero, and everything empty. -/
def isVoid : Json → Bool
  | null => true
  | bool value => !value
  | int value => value == 0
  | float value => value == 0.0
  | str value => value.isEmpty
  | arr items => items.isEmpty
  | obj fields | escaped fields => fields.isEmpty

/-- The value, unless it counts as absent. -/
def given? (value : Json) : Option Json :=
  if value.isVoid then none else some value

/-- A text, or null for none. -/
def ofText? : Option String → Json
  | some text => str text
  | none => null

/-- The text of a string value. -/
def text? : Json → Option String
  | str text => some text
  | _ => none

/-- Whether a value is an object. -/
def isObject : Json → Bool
  | obj _ | escaped _ => true
  | _ => false

/-- A field of an object; any other value has none. -/
def field? (key : String) : Json → Option Json
  | obj fields => Keyed.find? key fields
  | _ => none

/-- A field of an object, null if it is missing. -/
def field (key : String) (value : Json) : Json :=
  (value.field? key).getD null

end Json

/-- Two doubles are the same number, or both are no number. -/
def sameFloat (x y : Float) : Bool :=
  x == y || (x.isNaN && y.isNaN)

mutual

/-- Equality of values, field by field in order. -/
def Json.same : Json → Json → Bool
  | .null, .null => true
  | .bool x, .bool y => x == y
  | .int x, .int y => x == y
  | .float x, .float y => sameFloat x y
  | .str x, .str y => x == y
  | .arr xs, .arr ys => Json.sameItems xs ys
  | .obj xs, .obj ys => Json.sameFields xs ys
  | .escaped xs, .escaped ys => Json.sameFields xs ys
  | _, _ => false

/-- Equality of arrays. -/
def Json.sameItems : List Json → List Json → Bool
  | [], [] => true
  | x :: xs, y :: ys => Json.same x y && Json.sameItems xs ys
  | _, _ => false

/-- Equality of objects, which have the same keys in the same order. -/
def Json.sameFields : List (String × Json) → List (String × Json) → Bool
  | [], [] => true
  | (key, x) :: xs, (other, y) :: ys => key == other && Json.same x y && Json.sameFields xs ys
  | _, _ => false

end

instance : BEq Json := ⟨Json.same⟩

end Flowchart
