import Flowchart.Draft.Basic
import Flowchart.Source.Clean
import Flowchart.Statement.Basic

/-!
Reading a diagram forgivingly: lines are searched for anything that looks like a node with
brackets or like a link, and the rest is passed over.

On a line, the kinds of brackets and of links are searched one after the other, the more specific
first; what one kind has claimed is closed to the later ones. Brackets are replaced by the bare id
before links are searched, so that a node with brackets can be the end of a link.

Main definition: `Draft.scan`.
-/

namespace Flowchart.Scan

open Flowchart.Text
open Flowchart.Source (afterKeyword isDeclaration isSilent)

/-! ### Blocks and declarations -/

/-- What is left after a keyword in any case and the blanks after it, of which there must be
some. -/
def afterWordAndBlanks (word : String) (line : List Char) : Option (List Char) := do
  let (_, rest) ← run1 isBlank (← afterCaseless foldLetterDotted word.toList line)
  some rest

/-- A title in quotes and square brackets. -/
def quotedTitle (text : List Char) : Option (List Char) := do
  let opened ← afterLiteral ['['] (text.dropWhile isBlank)
  let (title, rest) ← run1 (· != '"') (← afterLiteral ['"'] (opened.dropWhile isBlank))
  let closed ← afterLiteral ['"'] rest
  let _ ← afterLiteral [']'] (closed.dropWhile isBlank)
  some title

/-- A title in square brackets. -/
def plainTitle (text : List Char) : Option (List Char) := do
  let (title, rest) ← run1 (· != ']') (← afterLiteral ['['] (text.dropWhile isBlank))
  let _ ← afterLiteral [']'] rest
  some title

/-- The block that a line opens. Its title is the id if it has no other. -/
def blockOfLine? (line : List Char) : Option Block := do
  let (word, rest) ← run1 isNameChar (← afterWordAndBlanks "subgraph" line)
  let id := String.ofList word
  let title := ((quotedTitle rest).orElse fun _ => plainTitle rest).getD word
  let cleaned := String.ofList (cleanLabelChars title)
  some ⟨id, some (if cleaned.isEmpty then id else cleaned), []⟩

/-- Whether a line closes a block. -/
def closesBlock (line : List Char) : Bool :=
  afterCaseless foldLetterDotted "end".toList line == some []

/-- The direction that a declaration gives. -/
def declaredDirection? (line : List Char) : Option String := do
  let rest ← (afterWordAndBlanks "flowchart" line).orElse fun _ =>
    afterWordAndBlanks "graph" line
  ["TB", "TD", "BT", "RL", "LR"].findSome? fun word =>
    (afterKeyword isNameChar foldLetterDotted (word.toList.map Char.toLower) rest).map fun _ => word

/-! ### Nodes with brackets -/

/-- The kinds of brackets that are searched, compound ones first. -/
def bracketShapes : List Shape :=
  [.cylinder, .stadium, .circle, .subroutine, .square, .round, .diamond]

/-- The words that are never ids. -/
def reservedWords : List String :=
  ["end", "subgraph", "flowchart", "graph"]

/-- Whether an id is reserved, in any case. -/
def isReserved (id : String) : Bool :=
  reservedWords.contains (lowerForKeywords id)

/-- A node with one kind of brackets: its id and the text inside. -/
def bracketed (shape : Shape) : Recognizer (List Char × List Char) := fun text => do
  let stop := shape.closing.headD ']'
  let (id, rest) ← run1 isNameChar text
  let (body, rest) ← run1 (· != stop) (← afterLiteral shape.opening (rest.dropWhile isBlank))
  some ((id, body), ← afterLiteral shape.closing rest)

/-- A node with brackets and where it stands. -/
structure Declaration where
  span : Span
  id : String
  text : String
  shape : Shape
deriving Repr, Inhabited, DecidableEq

/-- A text without the blanks around it and without the quotes that enclose it. -/
def unquoteOnce (text : List Char) : String :=
  match trim text with
  | '"' :: rest =>
    match rest.reverse with
    | '"' :: inner => String.ofList inner.reverse
    | _ => String.ofList ('"' :: rest)
  | trimmed => String.ofList trimmed

/-- What is left after a label between pipes. -/
def afterPipeLabel : List Char → Option (List Char)
  | '|' :: rest => afterFirst ['|'] rest
  | _ => none

/-- A line with spaces in the place of labels between pipes. -/
def maskPipeLabels (line : List Char) : List Char :=
  replaceAllWith afterPipeLabel (fun length => List.replicate length ' ') line

/-- The nodes with one kind of brackets. -/
def declarationsOf (shape : Shape) (line : List Char) : List Declaration :=
  (findAll (bracketed shape) 0 line).map fun found =>
    ⟨found.1, String.ofList found.2.1, unquoteOnce found.2.2, shape⟩

/-- Take a candidate unless its id is reserved or part of its text is claimed. -/
def claim (taken : List Declaration) (candidate : Declaration) : List Declaration :=
  if isReserved candidate.id || taken.any fun other => candidate.span.overlaps other.span then taken
  else taken ++ [candidate]

/-- The nodes with brackets on a line, in the order of the text. -/
def declarations (line : List Char) : List Declaration :=
  let masked := maskPipeLabels line
  let taken := (bracketShapes.flatMap fun shape => declarationsOf shape masked).foldl claim []
  taken.mergeSort fun left right => left.span.start ≤ right.span.start

/-- A line, from a position on, with the bare id in the place of each node with brackets. -/
def collapse (position : Nat) (line : List Char) : List Declaration → List Char
  | [] => line
  | declaration :: others =>
    line.take (declaration.span.start - position) ++ declaration.id.toList ++
      collapse declaration.span.stop (line.drop (declaration.span.stop - position)) others

/-! ### Links -/

/-- A kind of link: how it is drawn, and how its characters and its label are read. -/
structure Connector where
  stroke : Stroke := .normal
  directed : Bool := true
  body : Recognizer (Option (List Char))

/-- A link without label. -/
def bareBody (token : String) : Recognizer (Option (List Char)) := fun text => do
  some (none, ← afterLiteral token.toList text)

/-- A link with a label between pipes after it. -/
def pipedBody (token : String) : Recognizer (Option (List Char)) := fun text => do
  let rest ← afterLiteral ['|'] (← afterLiteral token.toList text)
  let (label, rest) := run (· != '|') rest
  some (some label, ← afterLiteral ['|'] rest)

/-- An arrow with a label inside, which holds no hyphen. -/
def labeledArrowBody : Recognizer (Option (List Char)) := fun text => do
  match (← afterLiteral "--".toList text).dropWhile isBlank with
  | c :: rest =>
    if c == '>' then none
    else
      let (label, rest) ← run1 (· != '-') (c :: rest)
      some (some (trimRight label), ← afterLiteral "-->".toList rest)
  | [] => none

/-- A dotted arrow with a label inside. -/
def labeledDottedBody : Recognizer (Option (List Char)) := fun text => do
  let (label, rest) ← run1 (fun c => c != '.' && c != '>') (← afterLiteral "-.".toList text)
  some (some label, ← afterLiteral ".->".toList rest)

/-- The kinds of links that are searched, the most specific first. -/
def connectors : List Connector :=
  [{ body := pipedBody "-->" },
    { body := pipedBody "-.->", stroke := .dotted },
    { body := labeledArrowBody },
    { body := bareBody "-.->", stroke := .dotted },
    { body := labeledDottedBody, stroke := .dotted },
    { body := bareBody "==>", stroke := .thick },
    { body := bareBody "-->" },
    { body := bareBody "---", directed := false }]

/-- A link with the words at its ends, and the part of the text that it claims. The word it leads
to is not part of the claim, so that it can be the source of the next link. -/
structure Connection where
  position : Nat
  claimed : Span
  source : String
  target : String
  label : Option String
  stroke : Stroke
  directed : Bool
deriving Repr, Inhabited, DecidableEq

/-- A link of one kind after a word: the word, the word it leads to, and the label. What is left
starts at the word it leads to. -/
def connected (connector : Connector) :
    Recognizer (List Char × List Char × Option (List Char)) := fun text => do
  let (source, rest) ← run1 isNameChar text
  let (label, rest) ← connector.body (rest.dropWhile isBlank)
  let left := rest.dropWhile isBlank
  let (target, _) ← run1 isNameChar left
  some ((source, target, label), left)

/-- The text of a label, unless nothing is left of it without markup. -/
def labelText? (label : Option (List Char)) : Option String :=
  match label.map cleanLabelChars with
  | some (c :: rest) => some (String.ofList (c :: rest))
  | _ => none

/-- The links of one kind on a line. -/
def connectionsOf (connector : Connector) (line : List Char) : List Connection :=
  (findAll (connected connector) 0 line).map fun (span, source, target, label) =>
    { position := span.start
      claimed := ⟨span.start + source.length, span.stop⟩
      source := String.ofList source
      target := String.ofList target
      label := labelText? label
      stroke := connector.stroke
      directed := connector.directed }

/-- Take a candidate unless part of its text is claimed. -/
def claimConnection (taken : List Connection) (candidate : Connection) : List Connection :=
  if taken.any fun other => candidate.claimed.overlaps other.claimed then taken
  else taken ++ [candidate]

/-- The links on a line, in the order of the text. -/
def connections (line : List Char) : List Connection :=
  let taken :=
    (connectors.flatMap fun connector => connectionsOf connector line).foldl claimConnection []
  taken.mergeSort fun left right => left.position ≤ right.position

/-! ### Diagrams -/

/-- What has been found so far. -/
structure Scanning where
  direction : Option String := none
  vertices : List Vertex := []
  arcs : List Arc := []
  blocks : List Block := []
  /-- Whether the last block is open. -/
  inBlock : Bool := false
deriving Repr, Inhabited, DecidableEq

/-- Enter an id into the last of several blocks. -/
def addToLast (id : String) : List Block → List Block
  | [] => []
  | [block] => [{ block with members := block.members ++ [id] }]
  | block :: blocks => block :: addToLast id blocks

/-- Enter a vertex, unless its id is known or that of a block. It belongs to the block that is
open. -/
def register (blockIds : List String) (state : Scanning) (vertex : Vertex) : Scanning :=
  if (state.vertices.any fun known => known.id == vertex.id) || blockIds.contains vertex.id then
    state
  else
    { state with
      vertices := state.vertices ++ [vertex]
      blocks := if state.inBlock then addToLast vertex.id state.blocks else state.blocks }

/-- The effect of a link. -/
def addConnection (blockIds : List String) (state : Scanning) (connection : Connection) :
    Scanning :=
  let arc : Arc :=
    ⟨connection.source, connection.target, connection.label, connection.stroke.name,
      connection.directed⟩
  let linked := { state with arcs := state.arcs ++ [arc] }
  register blockIds (register blockIds linked ⟨connection.source, none, none⟩)
    ⟨connection.target, none, none⟩

/-- The effect of a line of nodes and links. -/
def scanBody (blockIds : List String) (state : Scanning) (line : List Char) : Scanning :=
  let declared := declarations line
  let registered := declared.foldl (fun state declaration =>
    register blockIds state
      ⟨declaration.id, some declaration.text, some declaration.shape.name⟩) state
  (connections (collapse 0 line declared)).foldl (addConnection blockIds) registered

/-- The effect of a line. -/
def scanLine (blockIds : List String) (state : Scanning) (line : List Char) : Scanning :=
  if isSilent line then state
  else if isDeclaration line then
    { state with direction := state.direction.orElse fun _ => declaredDirection? line }
  else match blockOfLine? line with
    | some block => { state with blocks := state.blocks ++ [block], inBlock := true }
    | none =>
      if closesBlock line then { state with inBlock := false } else scanBody blockIds state line

/-- What the lines of a diagram hold. -/
def scanLines (lines : List (List Char)) : Scanning :=
  let blockIds := (lines.filterMap blockOfLine?).map Block.id
  lines.foldl (scanLine blockIds) {}

end Flowchart.Scan

namespace Flowchart

/-- The draft that can be found in a diagram. -/
def Draft.scan (source : String) : Draft :=
  let found := Scan.scanLines (Source.trimmedLines (Source.cleanChars source.toList))
  { direction := found.direction
    vertices := found.vertices
    arcs := found.arcs
    blocks := found.blocks }

end Flowchart
