import Flowchart.Text.Letter
import Flowchart.Text.Search

/-!
Markup inside diagram text: line-break tags and tags in general, and labels without them.

Main definition: `cleanLabel`, which leaves no tag, no leading or trailing blank, and single
spaces between words.
-/

namespace Flowchart.Text

/-- What is left after a line-break tag, written `<br>` or `<br />` in any case. -/
def afterLineBreak (text : List Char) : Option (List Char) := do
  let rest := (← afterCaseless foldLetterDotted "<br".toList text).dropWhile isBlank
  match rest with
  | '/' :: '>' :: left => some left
  | '>' :: left => some left
  | _ => none

/-- What is left after a tag: everything from a `<` to the next `>`. -/
def afterTag : List Char → Option (List Char)
  | '<' :: rest => afterFirst ['>'] rest
  | _ => none

/-- Line-break tags become spaces. -/
def breaksToSpaces (text : List Char) : List Char :=
  replaceAll afterLineBreak [' '] text

/-- A text without its tags. -/
def dropTags (text : List Char) : List Char :=
  replaceAll afterTag [] text

/-- The characters of a label without markup and with its blanks collapsed. -/
def cleanLabelChars (text : List Char) : List Char :=
  trim (collapseBlanks (dropTags (breaksToSpaces text)))

/-- A label without markup and with its blanks collapsed. -/
def cleanLabel (label : String) : String :=
  String.ofList (cleanLabelChars label.toList)

end Flowchart.Text
