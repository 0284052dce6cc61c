import Flowchart.Json.Basic
import Flowchart.Limits
import Flowchart.Text.Quoted

/-!
Writing values: as a document, on one line or indented, and as running text.

Main definitions: `Json.render`, `Json.display`, and `Json.toText`, which fails where a value is
beyond the limits.
-/

namespace Flowchart.Json

/-- One character of a string in a document. Only quotes, backslashes and controls are escaped. -/
def escapeChar (c : Char) : List Char :=
  if c = '"' ∨ c = '\\' then ['\\', c]
  else if c = '\n' then ['\\', 'n']
  else if c = '\r' then ['\\', 'r']
  else if c = '\t' then ['\\', 't']
  else if c.toNat = 0x08 then ['\\', 'b']
  else if c.toNat = 0x0C then ['\\', 'f']
  else if c.toNat < 0x20 then '\\' :: 'u' :: Text.hexadecimal 4 c.toNat
  else [c]

/-- A string of a document. -/
def stringText (text : String) : String :=
  String.ofList ('"' :: (text.toList.flatMap escapeChar ++ ['"']))

/-- The parts of an array or object between their brackets: nothing if there are none, else all
on one line, or one line each when the width of an indent is given. -/
def bracketed (left right : String) (indent : Option Nat) (depth : Nat) (parts : List String) :
    String :=
  if parts.isEmpty then left ++ right
  else match indent with
    | none => left ++ String.intercalate ", " parts ++ right
    | some width =>
      let newline := fun (level : Nat) => "\n" ++ String.ofList (List.replicate (width * level) ' ')
      left ++ newline (depth + 1) ++ String.intercalate ("," ++ newline (depth + 1)) parts ++
        newline depth ++ right

mutual

/-- A value at a depth of nesting. -/
def renderAt (indent : Option Nat) (depth : Nat) : Json → String
  | null => "null"
  | bool true => "true"
  | bool false => "false"
  | int value => Decimal.intText value
  | float value => Decimal.floatText Decimal.documentStyle value
  | str text => stringText text
  | arr items => bracketed "[" "]" indent depth (renderItems indent (depth + 1) items)
  | obj fields | escaped fields =>
    bracketed "\x7b" "\x7d" indent depth (renderFields indent (depth + 1) fields)

/-- The items of an array. -/
def renderItems (indent : Option Nat) (depth : Nat) : List Json → List String
  | [] => []
  | item :: items => renderAt indent depth item :: renderItems indent depth items

/-- The fields of an object. -/
def renderFields (indent : Option Nat) (depth : Nat) : List (String × Json) → List String
  | [] => []
  | (key, value) :: fields =>
    (stringText key ++ ": " ++ renderAt indent depth value) :: renderFields indent depth fields

end

/-- A value as a document. Without an indent it is one line. -/
def render (indent : Option Nat) (value : Json) : String :=
  renderAt indent 0 value

mutual

/-- A value inside running text: strings are in quotes, and the words for null and truth are
capitalized. -/
def displayWith (quote : String → String) : Json → String
  | null => "None"
  | bool true => "True"
  | bool false => "False"
  | int value => Decimal.intText value
  | float value => Decimal.floatText Decimal.textStyle value
  | str text => quote text
  | arr items => bracketed "[" "]" none 0 (displayItems quote items)
  | obj fields => bracketed "\x7b" "\x7d" none 0 (displayFields quote fields)
  | escaped fields =>
    bracketed "\x7b" "\x7d" none 0 (displayFields Text.quotedEscaped fields)

/-- The items of an array inside running text. -/
def displayItems (quote : String → String) : List Json → List String
  | [] => []
  | item :: items => displayWith quote item :: displayItems quote items

/-- The fields of an object inside running text. -/
def displayFields (quote : String → String) : List (String × Json) → List String
  | [] => []
  | (key, value) :: fields =>
    (quote key ++ ": " ++ displayWith quote value) :: displayFields quote fields

end

/-- A value inside running text. -/
def display (value : Json) : String :=
  displayWith Text.quoted value

/-! ### Limits -/

mutual

/-- The first thing in a value that is beyond the limits, arrays and objects being allowed inside
one another as often as there is room. -/
def excess? (limits : Limits) (kind : Nesting) (room : Option Nat) : Json → Option Excess
  | int value => limits.digitExcess? (Decimal.natDigits value.natAbs).length false
  | arr items =>
    if room = some 0 then some (.nesting kind)
    else itemsExcess? limits kind (room.map (· - 1)) items
  | obj fields | escaped fields =>
    if room = some 0 then some (.nesting kind)
    else fieldsExcess? limits kind (room.map (· - 1)) fields
  | null | bool _ | float _ | str _ => none

/-- The first thing in the items of an array that is beyond the limits. -/
def itemsExcess? (limits : Limits) (kind : Nesting) (room : Option Nat) :
    List Json → Option Excess
  | [] => none
  | item :: items =>
    (excess? limits kind room item).or (itemsExcess? limits kind room items)

/-- The first thing in the fields of an object that is beyond the limits. -/
def fieldsExcess? (limits : Limits) (kind : Nesting) (room : Option Nat) :
    List (String × Json) → Option Excess
  | [] => none
  | (_, value) :: fields =>
    (excess? limits kind room value).or (fieldsExcess? limits kind room fields)

end

/-- A value inside running text, if it is within the limits. -/
def shown (limits : Limits) (quote : String → String) (value : Json) : Except Excess String :=
  match value.excess? limits .shown limits.showing with
  | some cause => .error cause
  | none => .ok (value.displayWith quote)

/-- A value as a text of its own: a string is itself, anything else is shown as in running text. -/
def toText (limits : Limits) : Json → Except Excess String
  | str text => .ok text
  | value => value.shown limits Text.quoted

end Flowchart.Json
