/-!
Blank characters: which characters separate words, how a text is trimmed, and how inner runs of
blanks collapse.
-/

namespace Flowchart.Text

/-- White space proper: the characters that Unicode gives the property of the same name. -/
def isSpacing (c : Char) : Bool :=
  let n := c.toNat
  (0x09 ≤ n && n ≤ 0x0D) || n == 0x20 || n == 0x85 || n == 0xA0 || n == 0x1680 ||
    (0x2000 ≤ n && n ≤ 0x200A) || n == 0x2028 || n == 0x2029 || n == 0x202F || n == 0x205F ||
    n == 0x3000

/-- Blank characters: white space and the four information separators U+001C to U+001F. -/
def isBlank (c : Char) : Bool :=
  isSpacing c || (0x1C ≤ c.toNat && c.toNat ≤ 0x1F)

/-- The two blanks that stand inside a statement. -/
def isInlineBlank (c : Char) : Bool :=
  c == ' ' || c == '\t'

/-- A text without its leading blanks. -/
def trimLeft (text : List Char) : List Char :=
  text.dropWhile isBlank

/-- A text without its trailing blanks. -/
def trimRight (text : List Char) : List Char :=
  (text.reverse.dropWhile isBlank).reverse

/-- A text without leading and trailing blanks. -/
def trim (text : List Char) : List Char :=
  trimRight (trimLeft text)

/-- A text without the white space proper around it. -/
def trimSpacing (text : List Char) : List Char :=
  ((text.dropWhile isSpacing).reverse.dropWhile isSpacing).reverse

/-- Every run of blanks becomes one space. -/
def collapseBlanks : List Char → List Char
  | [] => []
  | c :: rest =>
    if isBlank c then
      match rest with
      | next :: _ => if isBlank next then collapseBlanks rest else ' ' :: collapseBlanks rest
      | [] => [' ']
    else c :: collapseBlanks rest

/-- `trim` on strings. -/
def strip (text : String) : String :=
  String.ofList (trim text.toList)

end Flowchart.Text
