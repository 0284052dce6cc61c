import Flowchart.Json.Basic
import Flowchart.Text.Letter

/-!
Checking documents against the records they should hold. Every fault of a record is reported, in
the order in which its fields are declared.
-/

namespace Flowchart

/-- A step on the way to a value inside a document. -/
inductive Place where
  | field (name : String)
  | index (position : Nat)
deriving Repr, Inhabited, DecidableEq

/-- What can be wrong with a value. -/
inductive FaultKind where
  | missing
  | notText
  | emptyText
  | notList
  | notRecord
  | notInstance
  | unreadableTruth
  | notTruth
  | unreadableNumber
  | belowMinimum
deriving Repr, Inhabited, DecidableEq

/-- The name under which a fault is reported. -/
def FaultKind.code : FaultKind → String
  | missing => "missing"
  | notText => "string_type"
  | emptyText => "string_too_short"
  | notList => "list_type"
  | notRecord => "model_attributes_type"
  | notInstance => "model_type"
  | unreadableTruth => "bool_parsing"
  | notTruth => "bool_type"
  | unreadableNumber => "float_parsing"
  | belowMinimum => "greater_than_equal"

/-- A fault and where it is. -/
structure Fault where
  kind : FaultKind
  path : List Place
deriving Repr, Inhabited, DecidableEq

/-- A fault with its path inside a larger document. -/
def Fault.under (place : Place) (fault : Fault) : Fault :=
  { fault with path := place :: fault.path }

/-- A step of a path as text. -/
def Place.text : Place → String
  | field name => name
  | index position => Decimal.natText position

/-- A step of a path as a value. -/
def Place.toJson : Place → Json
  | field name => .str name
  | index position => .int position

/-- A fault as a value. -/
def Fault.toJson (fault : Fault) : Json :=
  .obj [("type", .str fault.kind.code), ("loc", .arr (fault.path.map Place.toJson))]

/-- A checked value, or all its faults. -/
abbrev Checked (α : Type) := Except (List Fault) α

namespace Checked

/-- The faults of a checked value. -/
def faults {α : Type} : Checked α → List Fault
  | .ok _ => []
  | .error faults => faults

/-- A checked value at a place of a larger document. -/
def under {α : Type} (place : Place) : Checked α → Checked α
  | .ok value => .ok value
  | .error faults => .error (faults.map (Fault.under place))

/-- The values of a list, or the faults of all its items. -/
def all {α : Type} (items : List (Checked α)) : Checked (List α) :=
  match items.flatMap faults with
  | [] => .ok (items.filterMap Except.toOption)
  | fault :: more => .error (fault :: more)

/-- A fault at the value itself. -/
def fault {α : Type} (kind : FaultKind) : Checked α :=
  .error [⟨kind, []⟩]

/-- A text. -/
def plainText : Json → Checked String
  | .str value => .ok value
  | _ => fault .notText

/-- A text with at least one character. -/
def nonEmptyText : Json → Checked String
  | .str value => if value.isEmpty then fault .emptyText else .ok value
  | _ => fault .notText

/-- A text, or null for none. -/
def optionalText : Json → Checked (Option String)
  | .null => .ok none
  | value => (plainText value).map some

/-- The truth value that a word stands for, in any case. -/
def truthOfWord? (word : String) : Option Bool :=
  let lowered := Text.lowerForKeywords word
  if ["1", "on", "t", "true", "y", "yes"].contains lowered then some true
  else if ["0", "off", "f", "false", "n", "no"].contains lowered then some false
  else none

/-- A truth value: itself, one of the numbers zero and one, or a word for it. -/
def truth : Json → Checked Bool
  | .bool value => .ok value
  | .int value =>
    if value = 0 then .ok false else if value = 1 then .ok true else fault .unreadableTruth
  | .float value =>
    if value == 0.0 then .ok false else if value == 1.0 then .ok true else fault .notTruth
  | .str word =>
    match truthOfWord? word with
    | some value => .ok value
    | none => fault .unreadableTruth
  | _ => fault .notTruth

/-- A list of checked items. -/
def listOf {α : Type} (item : Json → Checked α) : Json → Checked (List α)
  | .arr items => all (items.mapIdx fun position value => (item value).under (.index position))
  | _ => fault .notList

/-- A field that has to be present. -/
def requiredField {α : Type} (check : Json → Checked α) (fields : Keyed Json) (name : String) :
    Checked α :=
  (match Keyed.find? name fields with
    | some value => check value
    | none => fault .missing).under (.field name)

/-- A field with a value for its absence. -/
def fieldOr {α : Type} (check : Json → Checked α) (absent : α) (fields : Keyed Json)
    (name : String) : Checked α :=
  match Keyed.find? name fields with
  | some value => (check value).under (.field name)
  | none => .ok absent

end Checked

end Flowchart
