import Flowchart.Settings.Reference
import Flowchart.Text.Lines

/-!
Settings files. A line assigns a value to a name, or mentions a name without value, which takes the
value away. Values may be quoted, over several lines too; what follows a number sign after a blank
is a comment. References in values are replaced by what they refer to.

Main definition: `SettingsFile.read`.
-/

namespace Flowchart.SettingsFile

open Text (Recognizer isBlank run)

/-- Whether a character ends a line. -/
def isLineEnd (c : Char) : Bool :=
  c == '\n' || c == '\r'

/-- Whether a character is a blank inside a line. -/
def isInnerBlank (c : Char) : Bool :=
  isBlank c && !isLineEnd c

/-- What follows the blanks of a line. -/
def skipInner (text : List Char) : List Char :=
  text.dropWhile isInnerBlank

/-- What follows the word `export` and at least one blank, or else the whole text. -/
def afterExport (text : List Char) : List Char :=
  match Text.afterLiteral "export".toList text with
  | some (c :: rest) => if isInnerBlank c then skipInner rest else text
  | _ => text

/-- A text up to its closing quote. The character after a backslash never closes it. -/
def readQuoted (quote : Char) : Recognizer (List Char)
  | [] => none
  | '\\' :: c :: rest =>
    (readQuoted quote rest).map fun read => ('\\' :: c :: read.1, read.2)
  | c :: rest =>
    if c = quote then some ([], rest)
    else (readQuoted quote rest).map fun read => (c :: read.1, read.2)

/-- The character that an escape stands for. Single quotes know fewer escapes. -/
def escaped? (quote c : Char) : Option Char :=
  if c = '\\' ∨ c = '\'' then some c
  else if quote = '\'' then none
  else
    match c with
    | '"' => some '"'
    | 'a' => some '\x07'
    | 'b' => some '\x08'
    | 'f' => some '\x0c'
    | 'n' => some '\n'
    | 'r' => some '\r'
    | 't' => some '\t'
    | 'v' => some '\x0b'
    | _ => none

/-- A quoted text with its escapes replaced. -/
def unescape (quote : Char) : List Char → List Char
  | '\\' :: c :: rest =>
    match escaped? quote c with
    | some meant => meant :: unescape quote rest
    | none => '\\' :: unescape quote (c :: rest)
  | c :: rest => c :: unescape quote rest
  | [] => []
termination_by text => text.length

/-- A text up to the blanks before its first number sign. -/
def beforeComment : List Char → List Char
  | [] => []
  | c :: rest =>
    if isBlank c && (rest.dropWhile isBlank).head? == some '#' then []
    else c :: beforeComment rest

/-- A value without quotes: the rest of the line, up to a comment and without the blanks around
it. -/
def readPlain (text : List Char) : List Char × List Char :=
  let (value, left) := run (fun c => !isLineEnd c) text
  (Text.trimRight (skipInner (beforeComment value)), left)

/-- A value, after the blanks before it. -/
def readValue : Recognizer (List Char) := fun text =>
  match skipInner text with
  | '\'' :: rest => (readQuoted '\'' rest).map fun read => (unescape '\'' read.1, read.2)
  | '"' :: rest => (readQuoted '"' rest).map fun read => (unescape '"' read.1, read.2)
  | _ => some (readPlain text)

/-- A name: quoted, or everything up to a blank, an equals sign or a number sign. -/
def readName : Recognizer (List Char)
  | '\'' :: rest =>
    match run (· != '\'') rest with
    | (c :: name, _ :: left) => some (c :: name, left)
    | _ => none
  | text => Text.run1 (fun c => !isBlank c && c != '=' && c != '#') text

/-- What follows the end of a line, after a comment and blanks, if nothing else stands before it. -/
def afterLine? (text : List Char) : Option (List Char) :=
  let rest := skipInner text
  let rest := match rest with
    | '#' :: comment => comment.dropWhile fun c => !isLineEnd c
    | _ => rest
  match rest with
  | [] => some []
  | c :: left => if isLineEnd c then some left else none

/-- What follows the present line. -/
def dropLine (text : List Char) : List Char :=
  (text.dropWhile fun c => !isLineEnd c).tail

/-- A name and the value assigned to it, if any is. -/
abbrev Assignment := String × Option (List Char)

/-- What an equals sign assigns. Without one, nothing is read and nothing assigned. -/
def readAssigned : Recognizer (Option (List Char))
  | '=' :: rest => (readValue rest).map fun read => (some read.1, read.2)
  | text => some (none, text)

/-- One line, with its assignment, and what follows it. Comments and lines that cannot be read
assign nothing. -/
def readLine (text : List Char) : Option Assignment × List Char :=
  match text with
  | '#' :: _ => (none, dropLine text)
  | _ =>
    match readName (afterExport text) with
    | none => (none, dropLine text)
    | some (name, rest) =>
      let rest := skipInner rest
      match readAssigned rest with
      | none => (none, dropLine rest)
      | some (value, rest) =>
        match afterLine? rest with
        | some left => (some (String.ofList name, value), left)
        | none => (none, dropLine rest)

/-- All assignments of a file in order. -/
def readAssignments (text : List Char) : List Assignment :=
  match _shape : text.dropWhile isBlank with
  | [] => []
  | c :: rest =>
    let (assignment, left) := readLine (c :: rest)
    if left.length ≤ rest.length then assignment.toList ++ readAssignments left
    else assignment.toList
termination_by text.length
decreasing_by
  have shorter := (List.dropWhile_suffix isBlank (l := text)).length_le
  rw [_shape, List.length_cons] at shorter
  omega

/-- The assignments of a file. Line ends of all kinds are the same. -/
def assignments (text : String) : List Assignment :=
  readAssignments (Text.normalizeLineEnds text.toList)

/-- The names that the values of a file refer to. -/
def referredNames (text : String) : List String :=
  (assignments text).flatMap fun assignment =>
    match assignment.2 with
    | some value => (Reference.all value).map Reference.name
    | none => []

/-- The values after further assignments. A value may refer to the values before it and to the
environment. -/
def assign (environment : Keyed String) (known : Keyed (Option String)) :
    List Assignment → Keyed (Option String)
  | [] => known
  | (name, value) :: later =>
    let value := value.map fun value => String.ofList (Reference.replaceAll environment known value)
    assign environment (Keyed.put name value known) later

/-- The names of a file with their values. A name may be left without one. -/
def read (environment : Keyed String) (text : String) : Keyed (Option String) :=
  assign environment [] (assignments text)

end Flowchart.SettingsFile
