import Flowchart.Json.Basic
import Flowchart.Text.Quoted

/-!
Strings in escaped form.

An escape in a document may give half of a surrogate pair, which is no character. So documents are
read with all their strings in a form in which every backslash is doubled; a single one marks such
a half, written by its number. As long as there is none, the form can be undone.

Main definitions: `Json.plain?`, and `Attached`, an object in one form or the other.
-/

namespace Flowchart

namespace Json

/-- A character in escaped form. -/
def doubled (c : Char) : List Char :=
  if c = '\\' then ['\\', '\\'] else [c]

/-- Half of a surrogate pair in escaped form. -/
def escapedHalf (unit : Nat) : List Char :=
  '\\' :: 'u' :: Text.hexadecimal 4 unit

/-- The characters of an escaped form, unless half of a surrogate pair is among them. -/
def undoubled? : List Char → Option (List Char)
  | [] => some []
  | '\\' :: '\\' :: rest => (undoubled? rest).map ('\\' :: ·)
  | c :: rest => if c = '\\' then none else (undoubled? rest).map (c :: ·)

/-- The text of an escaped form. -/
def plainText? (text : String) : Option String :=
  (undoubled? text.toList).map String.ofList

mutual

/-- A value whose strings are in escaped form with the strings themselves. -/
def plain? : Json → Option Json
  | str text => (plainText? text).map str
  | arr items => (plainItems? items).map arr
  | obj fields => (plainFields? fields).map obj
  | escaped _ => none
  | value => some value

/-- The items of an array with the strings themselves. -/
def plainItems? : List Json → Option (List Json)
  | [] => some []
  | item :: items =>
    match plain? item, plainItems? items with
    | some item, some items => some (item :: items)
    | _, _ => none

/-- The fields of an object with the strings themselves. -/
def plainFields? : List (String × Json) → Option (List (String × Json))
  | [] => some []
  | (key, value) :: fields =>
    match plainText? key, plain? value, plainFields? fields with
    | some key, some value, some fields => some ((key, value) :: fields)
    | _, _, _ => none

end

mutual

/-- Whether the strings in a value can be encoded: no object in it is in escaped form. -/
def encodable : Json → Bool
  | arr items => itemsEncodable items
  | obj fields => fieldsEncodable fields
  | escaped _ => false
  | null | bool _ | int _ | float _ | str _ => true

/-- Whether the strings in the items of an array can be encoded. -/
def itemsEncodable : List Json → Bool
  | [] => true
  | item :: items => encodable item && itemsEncodable items

/-- Whether the strings in the fields of an object can be encoded. -/
def fieldsEncodable : List (String × Json) → Bool
  | [] => true
  | (_, value) :: fields => encodable value && fieldsEncodable fields

end

end Json

/-- An object as the metadata of a node: with its own strings, or, if one of them holds half of a
surrogate pair, with all of them in escaped form. -/
inductive Attached where
  | plain (fields : Keyed Json)
  | escaped (fields : Keyed Json)
deriving Repr, Inhabited

namespace Attached

/-- The object whose strings are in escaped form. -/
def ofEscaped (fields : Keyed Json) : Attached :=
  match Json.plainFields? fields with
  | some fields => plain fields
  | none => escaped fields

/-- An object as a value. -/
def toJson : Attached → Json
  | plain fields => .obj fields
  | escaped fields => .escaped fields

/-- Equality of objects, field by field in order. -/
def same : Attached → Attached → Bool
  | plain xs, plain ys => Json.sameFields xs ys
  | escaped xs, escaped ys => Json.sameFields xs ys
  | _, _ => false

end Attached

/-- A value as metadata, if it is an object. -/
def Json.attached? : Json → Option Attached
  | .obj fields => some (.plain fields)
  | .escaped fields => some (.escaped fields)
  | _ => none

end Flowchart
