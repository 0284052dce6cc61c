import Flowchart.Text.Lines
import Flowchart.Text.Markup
import Flowchart.Text.Word

/-!
Cleaning diagram source: code fences, configuration directives and line-break tags are removed,
and line ends are made uniform, before anything reads the text.
-/

namespace Flowchart.Source

open Flowchart.Text

/-- Three backticks. -/
def fenceMark : List Char := "```".toList

/-- A text without the fence line that opens it: blanks, the mark, the name of the language if it
is given, and the rest of the line if that is empty. -/
def dropOpeningFence (text : List Char) : List Char :=
  match afterLiteral fenceMark (trimLeft text) with
  | none => text
  | some rest =>
    let named := (afterCaseless foldLetterDotted "mermaid".toList rest).getD rest
    match skipInline named with
    | '\n' :: left => left
    | left => left

/-- A text without the fence that closes it: the mark, the blanks after it and one line feed
before it. -/
def dropClosingFence (text : List Char) : List Char :=
  match afterLiteral fenceMark (trimRight text).reverse with
  | none => text
  | some ('\n' :: before) => before.reverse
  | some before => before.reverse

/-- What is left after a configuration directive: `init` and a colon in braces between doubled
percent signs. It ends at the first closing mark. -/
def afterDirective (text : List Char) : Option (List Char) := do
  let opened ← afterLiteral "%%\x7b".toList text
  let named ← afterLiteral "init".toList (opened.dropWhile isBlank)
  let body ← afterLiteral [':'] (named.dropWhile isBlank)
  afterFirst "\x7d%%".toList body

/-- The characters of a cleaned source. -/
def cleanChars (text : List Char) : List Char :=
  let body := dropClosingFence (dropOpeningFence text)
  let plain := breaksToSpaces (replaceAll afterDirective [] body)
  trim (normalizeLineEnds plain)

/-- Source text as the readers of diagrams see it. -/
def clean (source : String) : String :=
  String.ofList (cleanChars source.toList)

/-- The lines of a source, each without leading and trailing blanks. -/
def trimmedLines (source : List Char) : List (List Char) :=
  (splitLines source).map trim

/-- A line that no reader of diagrams takes into account: an empty line or a comment. -/
def isSilent (line : List Char) : Bool :=
  line.isEmpty || "%%".toList.isPrefixOf line

/-- Whether a keyword, in any case, stands at the front of a line as a whole word. What follows it
is returned. -/
def afterKeyword (isWord : Char → Bool) (fold : Char → Char) (keyword : List Char)
    (line : List Char) : Option (List Char) := do
  let rest ← afterCaseless fold keyword line
  match rest with
  | c :: _ => if isWord c then none else some rest
  | [] => some rest

/-- Whether a line declares a diagram: its first word is one of the two keywords. -/
def isDeclaration (line : List Char) : Bool :=
  ["flowchart".toList, "graph".toList].any fun keyword =>
    (afterKeyword isNameChar foldLetterDotted keyword (trim line)).isSome

end Flowchart.Source
