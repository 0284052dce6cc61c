import Flowchart.Source.Clean
import Flowchart.Statement.Basic

/-!
Reading statements.

Each kind of statement is tried in a fixed order and the first that fits decides; what it leaves
of the line is not tried again with another kind. The same holds inside a statement for shapes and
links. A line is read only if nothing but blanks and one semicolon is left.

Main definition: `Statement.ofLine?`.
-/

namespace Flowchart.Statement

open Flowchart.Text
open Flowchart.Source (afterKeyword)

/-! ### Words -/

/-- What is left after a keyword in any case. -/
def afterCaselessWord (word : String) (text : List Char) : Option (List Char) :=
  afterKeyword isWordChar foldLetter word.toList text

/-- What is left after a keyword in exactly this case. -/
def afterExactWord (word : String) (text : List Char) : Option (List Char) :=
  afterKeyword isWordChar id word.toList text

/-- A hyphen and a run of word characters. -/
def hyphenSegment : Recognizer (List Char)
  | '-' :: rest => (run1 isWordChar rest).map fun segment => ('-' :: segment.1, segment.2)
  | _ => none

/-- An identifier: runs of word characters joined by single hyphens. -/
def identifier : Recognizer String := fun text => do
  let (first, rest) ← run1 isWordChar text
  let (segments, left) := many hyphenSegment rest
  some (String.ofList (first ++ segments.flatten), left)

/-- Whether only blanks, with at most one semicolon among them, are left of a line. -/
def atLineEnd (text : List Char) : Bool :=
  match skipInline text with
  | ';' :: rest => (skipInline rest).isEmpty
  | rest => rest.isEmpty

/-! ### Texts -/

/-- A text in double quotes, the quotes included. It may hold anything but a quote. -/
def quotedText : Recognizer (List Char)
  | '"' :: rest =>
    match rest.dropWhile (· != '"') with
    | quote :: left => some ('"' :: (rest.takeWhile (· != '"') ++ [quote]), left)
    | [] => none
  | _ => none

/-- A text in quotes, or else characters of the line up to a stop. -/
def bodyText (stop : Char) : Recognizer (List Char) :=
  firstOf [quotedText, run1 fun c => c != stop && c != '\n']

/-- A text without the blanks around it, without the quotes that enclose it, and without the blanks
inside those. -/
def unquote (text : List Char) : String :=
  match trim text with
  | '"' :: rest =>
    match rest.reverse with
    | '"' :: inner => String.ofList (trim inner.reverse)
    | _ => String.ofList ('"' :: rest)
  | trimmed => String.ofList trimmed

/-! ### Nodes -/

/-- The shapes in the order in which their brackets are tried: longer brackets before those they
start with. -/
def shapeOrder : List Shape :=
  [.cylinder, .stadium, .subroutine, .doublecircle, .circle, .hexagon, .diamond, .asymmetric,
    .square, .round]

/-- The character that ends the text inside a shape's brackets when it is not quoted. -/
def shapeStop (shape : Shape) : Char :=
  shape.closing.headD ']'

/-- One shape with its text. -/
def shapeBody (shape : Shape) : Recognizer (Shape × String) := fun text => do
  let (body, rest) ← bodyText (shapeStop shape) (← afterLiteral shape.opening text)
  let left ← afterLiteral shape.closing rest
  some ((shape, unquote body), left)

/-- The first shape that fits. -/
def anyShape : Recognizer (Shape × String) :=
  firstOf (shapeOrder.map shapeBody)

/-- A style class after a node. -/
def afterClassSuffix (text : List Char) : Option (List Char) := do
  let (_, rest) ← run1 (fun c => isWordChar c || c == '-') (← afterLiteral ":::".toList text)
  some rest

/-- A node with its shape and style class, as far as they are given. Blanks may stand before the
shape. -/
def nodeRef : Recognizer NodeRef := fun text => do
  let (id, rest) ← identifier text
  let (body, rest) := match anyShape (skipInline rest) with
    | some (body, left) => (some body, left)
    | none => (none, rest)
  some (⟨id, body⟩, (afterClassSuffix rest).getD rest)

/-- A further node of a group, after an ampersand. -/
def furtherRef : Recognizer NodeRef := fun text => do
  nodeRef (skipInline (← afterLiteral ['&'] (skipInline text)))

/-- Nodes joined by ampersands. -/
def nodeGroup : Recognizer (List NodeRef) := fun text => do
  let (first, rest) ← nodeRef text
  let (others, left) := many furtherRef rest
  some (first :: others, left)

/-! ### Links -/

/-- A run of one character, at least `least` of them with the given end after it, or at least one
more than `least` of them without it. -/
def lineToken (c : Char) (least : Nat) (text : List Char) : Option (List Char × List Char) :=
  let (line, rest) := run (· == c) text
  match rest with
  | '>' :: left =>
    if least ≤ line.length then some (line ++ ['>'], left) else none
  | _ => if least < line.length then some (line, rest) else none

/-- A line of hyphens, or of equals signs, with or without a head. -/
def solidToken : Recognizer (List Char) :=
  firstOf [lineToken '-' 2, lineToken '=' 2]

/-- A hyphen, dots and a hyphen, with or without a head. -/
def dottedToken : Recognizer (List Char)
  | '-' :: rest => do
    let (dots, rest) ← run1 (· == '.') rest
    match rest with
    | '-' :: '>' :: left => some ('-' :: (dots ++ ['-', '>']), left)
    | '-' :: left => some ('-' :: (dots ++ ['-']), left)
    | _ => none
  | _ => none

/-- An arrow, which may start with a tail. -/
def arrow : Recognizer (List Char) := fun text =>
  match text with
  | '<' :: rest =>
    (firstOf [solidToken, dottedToken] rest).map fun token => ('<' :: token.1, token.2)
  | _ => firstOf [solidToken, dottedToken] text

/-- The end of a dotted link around a text. -/
def dottedClosing : Recognizer (List Char)
  | '.' :: rest =>
    let (line, left) := run (· == '-') rest
    match line, left with
    | [], _ => none
    | _ :: _, '>' :: left => some ('.' :: (line ++ ['>']), left)
    | _ :: _, _ => some (['.', '-'], rest.tail)
  | _ => none

/-- The end of a link around a text. -/
def closingToken : Recognizer (List Char) :=
  firstOf [lineToken '-' 2, dottedClosing, lineToken '=' 2]

/-- The shortest text before the end of a link, that end, and what is left. The text may not
hold a pipe; blanks before the end belong to neither. -/
def untilClosing : List Char → Option (List Char × List Char × List Char)
  | [] => none
  | c :: rest =>
    match closingToken (skipInline (c :: rest)) with
    | some (token, left) => some ([], token, left)
    | none =>
      if c = '|' then none
      else (untilClosing rest).map fun found => (c :: found.1, found.2)

/-- Whether a character may start the text inside a link. -/
def startsLinkText (c : Char) : Bool :=
  !("-=.|>".toList.contains c || isSpacing c)

/-- A link with its text inside: the token that its two ends make, and the text. -/
def textLink : Recognizer (List Char × Option (List Char)) := fun text => do
  let (opening, rest) ← ["--", "-.", "=="].findSome? fun opening =>
    (afterLiteral opening.toList text).map fun rest => (opening.toList, rest)
  match skipInline rest with
  | c :: rest =>
    if startsLinkText c then
      let (inner, closing, left) ← untilClosing rest
      some ((opening ++ closing, some (trim (c :: inner))), left)
    else none
  | [] => none

/-- A label between pipes, without the blanks around it. -/
def pipeLabel : Recognizer (List Char) := fun text => do
  let rest ← afterLiteral ['|'] (skipInline text)
  let (label, rest) := run (fun c => c != '|' && c != '\n') rest
  some (trim label, ← afterLiteral ['|'] rest)

/-- The stroke that the characters of a link stand for. -/
def strokeOfToken (token : List Char) : Stroke :=
  if token.contains '.' then .dotted else if token.contains '=' then .thick else .normal

/-- The link that a token with a text stands for. An empty text is none. -/
def linkOfToken (token : List Char) (text : Option (List Char)) : Link where
  stroke := strokeOfToken token
  directed := token.getLast? == some '>'
  text := match text with
    | some (c :: rest) => some (String.ofList (c :: rest))
    | _ => none

/-- A link. A label between pipes replaces a text inside, even if it is empty. -/
def link : Recognizer Link := fun text => do
  let ((token, inner), rest) ← firstOf
    [textLink, fun text => (arrow text).map fun token => ((token.1, none), token.2)] text
  match pipeLabel rest with
  | some (label, left) => some (linkOfToken token (some label), left)
  | none => some (linkOfToken token inner, rest)

/-- A link and the group of nodes after it. -/
def hop : Recognizer Hop := fun text => do
  let (link, rest) ← link (skipInline text)
  let (targets, left) ← nodeGroup (skipInline rest)
  some (⟨link, targets⟩, left)

/-! ### Statements -/

/-- The directions that a diagram may declare. -/
def directionWords : List String :=
  ["TB", "TD", "BT", "RL", "LR"]

/-- A direction after at least one blank. -/
def headerDirection : Recognizer String := fun text => do
  let (_, rest) ← run1 isInlineBlank text
  directionWords.findSome? fun word =>
    (afterKeyword isWordChar foldLetter (word.toList.map Char.toLower) rest).map fun left =>
      (word, left)

/-- A declaration. -/
def headerStatement : Recognizer Statement := fun text => do
  let rest ← (afterCaselessWord "flowchart" text).orElse fun _ => afterCaselessWord "graph" text
  match headerDirection rest with
  | some (direction, left) => some (.header (some direction), left)
  | none => some (.header none, rest)

/-- The end of a block, which takes the rest of its line. -/
def blockEndStatement : Recognizer Statement := fun text => do
  let rest ← afterCaseless foldLetter "end".toList text
  if atLineEnd rest then some (.blockEnd, []) else none

/-- An id with a title in square brackets. -/
def bracketedHead : Recognizer (Option String × Option String) := fun text => do
  let (id, rest) ← identifier text
  let inner := skipInline (← afterLiteral ['['] (skipInline rest))
  let (title, rest) := (quotedText inner).getD (run (fun c => c != ']' && c != '\n') inner)
  let left ← afterLiteral [']'] (skipInline rest)
  some ((some id, some (unquote title)), left)

/-- A title in quotes. -/
def quotedHead : Recognizer (Option String × Option String) := fun text =>
  (quotedText text).map fun title => ((none, some (unquote title.1)), title.2)

/-- An id alone on its line. -/
def namedHead : Recognizer (Option String × Option String) := fun text => do
  let (id, rest) ← identifier text
  if atLineEnd rest then some ((some id, none), rest) else none

/-- Any text as a title. -/
def textHead : Recognizer (Option String × Option String) := fun text =>
  (run1 (fun c => c != ';' && c != '\n') text).map fun title =>
    ((none, some (String.ofList (trim title.1))), title.2)

/-- The start of a block. -/
def blockStartStatement : Recognizer Statement := fun text => do
  let rest := skipInline (← afterCaselessWord "subgraph" text)
  match firstOf [bracketedHead, quotedHead, namedHead, textHead] rest with
  | some ((id, title), left) => some (.blockStart id title, left)
  | none => some (.blockStart none none, rest)

/-- The words that start a line without bearing on the graph. -/
def ignoredWords : List String :=
  ["classDef", "class", "style", "linkStyle", "click", "direction"]

/-- A line about styling or interaction. -/
def ignoredStatement : Recognizer Statement := fun text => do
  let rest ← ignoredWords.findSome? fun word => afterExactWord word text
  some (.ignored, rest.dropWhile (· != '\n'))

/-- A chain of at least one link. -/
def edgesStatement : Recognizer Statement := fun text => do
  let (first, rest) ← nodeGroup text
  match many hop rest with
  | (step :: steps, left) => some (.edges first (step :: steps), left)
  | ([], _) => none

/-- Nodes alone on their line. -/
def nodesStatement : Recognizer Statement := fun text => do
  let (refs, rest) ← nodeGroup text
  if atLineEnd rest then some (.nodes refs, rest) else none

/-- The first kind of statement that fits. -/
def anyStatement : Recognizer Statement :=
  firstOf [headerStatement, blockEndStatement, blockStartStatement, ignoredStatement,
    edgesStatement, nodesStatement]

/-- The statement of a line. The outer `none` is a line that cannot be read, the inner one a line
that says nothing. -/
def ofLine? (line : List Char) : Option (Option Statement) :=
  let text := skipInline line
  match anyStatement text with
  | some (statement, rest) => if atLineEnd rest then some (some statement) else none
  | none => if atLineEnd text then some none else none

end Flowchart.Statement
