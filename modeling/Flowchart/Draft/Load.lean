import Flowchart.Draft.Basic
import Flowchart.Draft.Error
import Flowchart.Keyed
import Flowchart.Statement.Reader

/-!
Reading a diagram strictly: its lines have to be statements, the first one a declaration, and its
blocks have to be closed.

Statements act on a `Loading`, which knows the blocks that are open. A vertex belongs to the
innermost open block at each of its mentions, and takes its text and shape from the last mention
that carries brackets.

Main definition: `Draft.load`.
-/

namespace Flowchart

open Flowchart.Text
open Flowchart.Source (isSilent)

/-- What has been read so far of a diagram whose declaration has been seen. -/
structure Loading where
  direction : Option String
  vertices : Keyed Vertex := []
  arcs : List Arc := []
  blocks : List Block := []
  /-- The positions of the open blocks in `blocks`, the innermost first. -/
  openBlocks : List Nat := []
deriving Repr, Inhabited, DecidableEq

namespace Loading

/-- Enter an id into a block that does not list it yet. -/
def addMember (id : String) (block : Block) : Block :=
  if block.members.contains id then block else { block with members := block.members ++ [id] }

/-- The vertex under an id after a mention: brackets replace its text and shape. -/
def mentioned (ref : NodeRef) (known : Option Vertex) : Vertex :=
  match ref.body with
  | some (shape, text) => ⟨ref.id, some text, some shape.name⟩
  | none => known.getD ⟨ref.id, none, none⟩

/-- A mention of a node. -/
def mention (loading : Loading) (ref : NodeRef) : Loading :=
  { loading with
    vertices := loading.vertices.put ref.id (mentioned ref (loading.vertices.find? ref.id))
    blocks := match loading.openBlocks with
      | [] => loading.blocks
      | innermost :: _ => loading.blocks.modify innermost (addMember ref.id) }

/-- Mentions one after the other. -/
def mentionAll (loading : Loading) (refs : List NodeRef) : Loading :=
  refs.foldl mention loading

/-- The arcs of one link: from every source to every target. -/
def arcsOf (sources targets : List NodeRef) (link : Link) : List Arc :=
  sources.flatMap fun source => targets.map fun target =>
    ⟨source.id, target.id, link.text, link.stroke.name, link.directed⟩

/-- The links of a chain, each from the group before it. -/
def addHops (loading : Loading) (sources : List NodeRef) : List Hop → Loading
  | [] => loading
  | hop :: hops =>
    let reached := loading.mentionAll hop.targets
    addHops { reached with arcs := reached.arcs ++ arcsOf sources hop.targets hop.link }
      hop.targets hops

/-- The id of a block that has none of its own: its number among all blocks. -/
def generatedId (number : Nat) : String :=
  "subGraph" ++ Decimal.natText number

/-- Open a block. -/
def openBlock (loading : Loading) (id title : Option String) : Loading :=
  let id := id.getD (generatedId loading.blocks.length)
  let title := match title with
    | some text => if text.isEmpty then id else text
    | none => id
  { loading with
    blocks := loading.blocks ++ [⟨id, some title, []⟩]
    openBlocks := loading.blocks.length :: loading.openBlocks }

/-- The effect of a statement after the declaration. -/
def apply (loading : Loading) (lineNumber : Nat) : Statement → Except ParseError Loading
  | .header _ => .error (.duplicateDeclaration lineNumber)
  | .blockStart id title => .ok (loading.openBlock id title)
  | .blockEnd =>
    match loading.openBlocks with
    | [] => .error (.unmatchedEnd lineNumber)
    | _ :: outer => .ok { loading with openBlocks := outer }
  | .ignored => .ok loading
  | .nodes refs => .ok (loading.mentionAll refs)
  | .edges first hops => .ok ((loading.mentionAll first).addHops first hops)

/-- What has been found so far. -/
def toDraft (loading : Loading) : Draft where
  direction := loading.direction
  vertices := loading.vertices.values
  arcs := loading.arcs
  blocks := loading.blocks

end Loading

/-- The effect of one line; `none` stands for a diagram whose declaration is still to come. -/
def Draft.loadLine (state : Option Loading) (lineNumber : Nat) (line : List Char) :
    Except ParseError (Option Loading) :=
  if isSilent line then .ok state
  else match Statement.ofLine? line with
    | none => .error (.unrecognizedStatement (String.ofList line))
    | some none => .ok state
    | some (some statement) =>
      match state, statement with
      | none, .header direction => .ok (some { direction })
      | none, _ => .error (.missingDeclaration lineNumber (String.ofList line))
      | some loading, _ => (loading.apply lineNumber statement).map some

/-- The effect of lines from a given line number on. -/
def Draft.loadLines (state : Option Loading) (lineNumber : Nat) :
    List (List Char) → Except ParseError (Option Loading)
  | [] => .ok state
  | line :: lines =>
    match Draft.loadLine state lineNumber line with
    | .ok next => Draft.loadLines next (lineNumber + 1) lines
    | .error cause => .error cause

/-- The draft at the end of a diagram, which must have been declared and have no open block. -/
def Draft.finish : Option Loading → Except ParseError Draft
  | none => .error .emptyDiagram
  | some loading =>
    match loading.openBlocks with
    | [] => .ok loading.toDraft
    | innermost :: _ =>
      .error (.unclosedBlock ((loading.blocks[innermost]?.map Block.id).getD ""))

/-- The draft of a diagram. -/
def Draft.load (source : String) : Except ParseError Draft :=
  match Draft.loadLines none 1 (Source.trimmedLines source.toList) with
  | .ok state => Draft.finish state
  | .error cause => .error cause

/-- The statement that one line makes, if any. -/
def Statement.ofText (line : String) : Except ParseError (Option Statement) :=
  match Statement.ofLine? line.toList with
  | some statement => .ok statement
  | none => .error (.unrecognizedStatement line)

end Flowchart
