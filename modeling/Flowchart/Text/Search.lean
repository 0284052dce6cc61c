import Flowchart.Text.Blank

/-!
Reading from the front of a text, searching it, and replacing what is found.

A recognizer reads something from the front of a text and returns it with what is left. An
occurrence test only says what is left after the thing it looks for.
-/

namespace Flowchart.Text

/-- Reads a value from the front of a text, or refuses. -/
abbrev Recognizer (α : Type) := List Char → Option (α × List Char)

/-- What is left of a text after the given characters, if it starts with them. -/
def afterLiteral : List Char → List Char → Option (List Char)
  | [], text => some text
  | _ :: _, [] => none
  | expected :: literal, c :: rest =>
    if c = expected then afterLiteral literal rest else none

/-- `afterLiteral`, where a letter of the text may be any one that `fold` maps to the expected
small letter. -/
def afterCaseless (fold : Char → Char) : List Char → List Char → Option (List Char)
  | [], text => some text
  | _ :: _, [] => none
  | expected :: literal, c :: rest =>
    if fold c = expected then afterCaseless fold literal rest else none

/-- The longest run of characters of a class, and what is left. -/
def run (belongs : Char → Bool) (text : List Char) : List Char × List Char :=
  (text.takeWhile belongs, text.dropWhile belongs)

/-- A run of at least one character. -/
def run1 (belongs : Char → Bool) : Recognizer (List Char)
  | [] => none
  | c :: rest => if belongs c then some (run belongs (c :: rest)) else none

/-- A text without its leading spaces and tabs. -/
def skipInline (text : List Char) : List Char :=
  text.dropWhile isInlineBlank

/-- As many values as can be read one after the other. A value that takes nothing from the text
ends the reading. -/
def many {α : Type} (item : Recognizer α) (text : List Char) : List α × List Char :=
  match item text with
  | some (value, rest) =>
    if rest.length < text.length then
      let (values, left) := many item rest
      (value :: values, left)
    else ([], text)
  | none => ([], text)
termination_by text.length

/-- The first of several recognizers that accepts. -/
def firstOf {α : Type} (choices : List (Recognizer α)) : Recognizer α := fun text =>
  choices.findSome? fun choice => choice text

/-- Whether the given characters occur somewhere in a text. -/
def occursIn (literal : List Char) : List Char → Bool
  | [] => literal.isEmpty
  | c :: rest => literal.isPrefixOf (c :: rest) || occursIn literal rest

/-- What is left after the first occurrence of the given characters. -/
def afterFirst (literal : List Char) : List Char → Option (List Char)
  | [] => afterLiteral literal []
  | c :: rest => (afterLiteral literal (c :: rest)).orElse fun _ => afterFirst literal rest

/-- Every occurrence, from left to right and without overlap, is replaced by a text that may depend
on its length. The test `occurrence` says what is left after an occurrence at the front; one that
takes no character does not count. -/
def replaceAllWith (occurrence : List Char → Option (List Char)) (replacement : Nat → List Char) :
    List Char → List Char
  | [] => []
  | c :: rest =>
    match occurrence (c :: rest) with
    | some after =>
      if after.length ≤ rest.length then
        replacement (rest.length + 1 - after.length) ++
          replaceAllWith occurrence replacement after
      else c :: replaceAllWith occurrence replacement rest
    | none => c :: replaceAllWith occurrence replacement rest
termination_by text => text.length

/-- Every occurrence, from left to right and without overlap, is replaced by the same text. -/
def replaceAll (occurrence : List Char → Option (List Char)) (replacement : List Char)
    (text : List Char) : List Char :=
  replaceAllWith occurrence (fun _ => replacement) text

/-- Everything a recognizer finds, from left to right and without overlap, is replaced by a text
for the value it has read. -/
def replaceFound {α : Type} (item : Recognizer α) (replacement : α → List Char) :
    List Char → List Char
  | [] => []
  | c :: rest =>
    match item (c :: rest) with
    | some (value, left) =>
      if left.length ≤ rest.length then replacement value ++ replaceFound item replacement left
      else c :: replaceFound item replacement rest
    | none => c :: replaceFound item replacement rest
termination_by text => text.length

/-- A stretch of a text, from its first position to the one after its last. -/
structure Span where
  start : Nat
  stop : Nat
deriving Repr, Inhabited, DecidableEq

/-- Whether two stretches share a position. -/
def Span.overlaps (left right : Span) : Bool :=
  left.start < right.stop && right.start < left.stop

/-- Everything a recognizer finds in a text, from left to right and without overlap, with the
stretches it was read from. Positions count from the given one. -/
def findAll {α : Type} (item : Recognizer α) (position : Nat) : List Char → List (Span × α)
  | [] => []
  | c :: rest =>
    match item (c :: rest) with
    | some (value, left) =>
      if left.length ≤ rest.length then
        let stop := position + (rest.length + 1 - left.length)
        (⟨position, stop⟩, value) :: findAll item stop left
      else findAll item (position + 1) rest
    | none => findAll item (position + 1) rest
termination_by text => text.length

end Flowchart.Text
