/-!
Lines: a text is split at line feeds only, and nothing else is removed.
-/

namespace Flowchart.Text

/-- The first line of a text, and the lines after it. -/
def cutLines : List Char → List Char × List (List Char)
  | [] => ([], [])
  | c :: rest =>
    let (line, lines) := cutLines rest
    if c = '\n' then ([], line :: lines) else (c :: line, lines)

/-- The pieces between line feeds. A text without line feed is one line, even the empty text. -/
def splitLines (text : List Char) : List (List Char) :=
  (cutLines text).1 :: (cutLines text).2

/-- Every carriage return, alone or before a line feed, becomes one line feed. -/
def normalizeLineEnds : List Char → List Char
  | [] => []
  | '\r' :: '\n' :: rest => '\n' :: normalizeLineEnds rest
  | c :: rest => (if c = '\r' then '\n' else c) :: normalizeLineEnds rest

end Flowchart.Text
