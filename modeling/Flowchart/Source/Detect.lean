import Flowchart.Source.Clean

/-!
Telling diagram text from prose, by a few marks that only diagrams use.
-/

namespace Flowchart.Source

open Flowchart.Text

/-- What a text seems to be. -/
inductive TextKind where
  | diagram
  | prose
deriving Repr, Inhabited, DecidableEq

/-- The name of a kind of text. -/
def TextKind.name : TextKind → String
  | diagram => "mermaid"
  | prose => "natural"

/-- The words that start a diagram, in small letters. -/
def declarationWords : List (List Char) :=
  ["flowchart", "graph", "sequencediagram", "classdiagram", "statediagram"].map String.toList

/-- Whether some tail of a text, the text itself and the empty tail included, passes a test. -/
def anyTail (test : List Char → Bool) : List Char → Bool
  | [] => test []
  | c :: rest => test (c :: rest) || anyTail test rest

/-- Whether a line holds the first mark and, after it, the second. -/
def encloses (left right : String) (line : List Char) : Bool :=
  match afterFirst left.toList line with
  | some rest => occursIn right.toList rest
  | none => false

/-- Whether a text shows any mark of a diagram: a line that starts with a declaration word, a
link, a compound or curly bracket closed on its line, or the word that opens a block. -/
def looksLikeDiagram (text : List Char) : Bool :=
  let lines := splitLines text
  lines.any (fun line => declarationWords.any fun word =>
      (afterCaseless foldLetterDotted word line).isSome) ||
    occursIn "-->".toList text ||
    occursIn "---".toList text ||
    lines.any (fun line => encloses "[[" "]]" line || encloses "((" "))" line ||
      encloses "\x7b" "\x7d" line) ||
    anyTail (fun tail => (afterCaseless foldLetterDotted "subgraph".toList tail).isSome) text

/-- What a text seems to be. -/
def detect (text : String) : TextKind :=
  if looksLikeDiagram text.toList then .diagram else .prose

end Flowchart.Source
