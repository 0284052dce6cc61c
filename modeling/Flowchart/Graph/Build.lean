import Flowchart.Draft.Basic
import Flowchart.Graph.Classify
import Flowchart.Graph.Palette
import Flowchart.Source.Metadata
import Flowchart.Text.Markup
import Flowchart.Text.Uppercase

/-!
Graphs from drafts.

Blocks become groups and come first; of several blocks or vertices with one id the first counts,
and a vertex with the id of a block is that block. A vertex belongs to the first block that lists
it. Edges keep their position in the draft in their id, and those without both ends are dropped.

Main definition: `Graph.ofDraft`.
-/

namespace Flowchart

open Flowchart.Source (Metadata)
open Flowchart.Text (cleanLabel)

/-- The items whose key is not among the seen ones, each key once and at its first item. -/
def firstByKey {α : Type} (key : α → String) : List String → List α → List α
  | _, [] => []
  | seen, item :: items =>
    if seen.contains (key item) then firstByKey key seen items
    else item :: firstByKey key (key item :: seen) items

/-- The label that a text gives: the text without markup, or the id if nothing is left. -/
def labelOr (id : String) (text : Option String) : String :=
  let label := cleanLabel (text.getD "")
  if label.isEmpty then id else label

/-- The direction of a graph: in capitals, and with the one name that flow from top to bottom has
left. -/
def graphDirection (direction : Option String) : Option String :=
  match direction with
  | none => none
  | some text =>
    if text.isEmpty then none
    else
      let capitals := Text.uppercase text
      some (if capitals = "TD" then "TB" else capitals)

namespace Draft

/-- The blocks that become groups. -/
def distinctBlocks (draft : Draft) : List Block :=
  firstByKey Block.id [] draft.blocks

/-- The vertices that become nodes. -/
def distinctVertices (draft : Draft) : List Vertex :=
  firstByKey Vertex.id draft.blockIds draft.vertices

/-- The first block that lists an id. -/
def blockOf? (draft : Draft) (id : String) : Option Block :=
  draft.blocks.find? fun block => block.members.contains id

/-- The label of the group that a block id stands for. -/
def groupLabel (draft : Draft) (id : String) : String :=
  labelOr id ((draft.blocks.find? fun block => block.id == id).bind Block.title)

/-- The ids of all nodes of the graph. -/
def nodeIds (draft : Draft) : List String :=
  draft.distinctBlocks.map Block.id ++ draft.distinctVertices.map Vertex.id

/-- Whether both ends of an arc are nodes of the graph. -/
def keeps (draft : Draft) (arc : Arc) : Bool :=
  draft.nodeIds.contains arc.source && draft.nodeIds.contains arc.target

/-- The vertices that are left out because their id is in use, in order. -/
def skippedVertices (draft : Draft) : List Vertex :=
  go draft.blockIds draft.vertices
where
  /-- The vertices whose id is among the seen ones. -/
  go : List String → List Vertex → List Vertex
    | _, [] => []
    | seen, vertex :: vertices =>
      if seen.contains vertex.id then vertex :: go seen vertices
      else go (vertex.id :: seen) vertices

/-- The arcs that are left out because an end is missing, in order. -/
def danglingArcs (draft : Draft) : List Arc :=
  draft.arcs.filter fun arc => !draft.keeps arc

end Draft

variable {K : Type} [Scalar K]

/-- The group of a block. -/
def Node.ofBlock (metadata : Metadata) (palette : Palette) (position : Nat) (block : Block) :
    Node K :=
  let label := labelOr block.id block.title
  { id := block.id
    kind := .group
    label
    category := groupCategory label
    metadata := metadata.find? block.id
    color := some (.str (palette.color position))
    x := Scalar.zero
    y := Scalar.zero }

/-- The node of a vertex. -/
def Node.ofVertex (draft : Draft) (metadata : Metadata) (vertex : Vertex) : Node K :=
  let label := labelOr vertex.id vertex.text
  let parent := (draft.blockOf? vertex.id).map Block.id
  let resolved := resolveCategory (classify label vertex.shape) label
    (parent.map draft.groupLabel)
  { id := vertex.id
    kind := resolved.1
    label
    category := resolved.2
    parent
    shape := vertex.shape.map Json.str
    metadata := metadata.find? vertex.id
    x := Scalar.zero
    y := Scalar.zero }

/-- The id of the edge at a position. -/
def edgeId (source target : String) (position : Nat) : String :=
  "e" ++ source ++ "-" ++ target ++ "-" ++ Decimal.natText position

/-- The edge of the arc at a position. -/
def Edge.ofArc (position : Nat) (arc : Arc) : Edge :=
  let label := cleanLabel (arc.text.getD "")
  { id := edgeId arc.source arc.target position
    source := arc.source
    target := arc.target
    label := if label.isEmpty then none else some (.str label)
    stroke := (Stroke.ofName? arc.stroke).getD .normal
    directed := arc.directed }

/-- The graph of a draft. -/
def Graph.ofDraft (draft : Draft) (metadata : Metadata) (palette : Palette) : Graph K where
  nodes := draft.distinctBlocks.mapIdx (Node.ofBlock metadata palette) ++
    draft.distinctVertices.map (Node.ofVertex draft metadata)
  edges := (draft.arcs.zipIdx.filter fun arc => draft.keeps arc.1).map fun arc =>
    Edge.ofArc arc.2 arc.1
  direction := graphDirection draft.direction

/-- The graph of a draft with colors from a list. Without any color a draft with blocks has no
graph. -/
def Graph.ofDraft? (draft : Draft) (metadata : Metadata) (colors : List String) :
    Option (Graph K) :=
  match Palette.ofList? colors with
  | some palette => some (Graph.ofDraft draft metadata palette)
  | none => if draft.blocks.isEmpty then some (Graph.ofDraft draft metadata .standard) else none

end Flowchart
