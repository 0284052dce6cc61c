import Mathlib.Data.List.Perm.Basic
import Flowchart.Diagram
import Flowchart.Proofs.Graph.Canonical

/-!
Drafts that stand for the same graph.

The graph of a draft does not depend on the order of the vertices, but for the order of its nodes,
and not on the members of the blocks, but for the block that each vertex belongs to. Two drafts that
agree up to this have the same edges and groups, and the same nodes in some order.

Main definitions: `Draft.Agrees`, `Graph.Agrees`. Main statement: `agrees_ofDraft`.
-/

namespace Flowchart

open Flowchart.Source (Metadata)

variable {K : Type} [Scalar K]

/-- The same graph, but for the order of the nodes that are no groups. -/
structure Graph.Agrees {K : Type} (left right : Graph K) : Prop where
  direction : left.direction = right.direction
  edges : left.edges = right.edges
  groups : left.groups = right.groups
  nodes : left.nodes.Perm right.nodes

theorem Graph.Agrees.refl {K : Type} (graph : Graph K) : graph.Agrees graph :=
  ⟨rfl, rfl, rfl, .refl _⟩

/-- The same graph, but for the order of nodes, or the same mistake. -/
inductive SameOutcome {K : Type} :
    Except DiagramError (Graph K) → Except DiagramError (Graph K) → Prop where
  | graph {left right : Graph K} (agree : left.Agrees right) : SameOutcome (.ok left) (.ok right)
  | mistake (cause : DiagramError) : SameOutcome (.error cause) (.error cause)

theorem SameOutcome.refl {K : Type} (outcome : Except DiagramError (Graph K)) :
    SameOutcome outcome outcome := by
  cases outcome with
  | ok graph => exact .graph (.refl graph)
  | error cause => exact .mistake cause

/-- A block without its members. -/
def Block.outline (block : Block) : Block :=
  { block with members := [] }

/-- The id of the first block that lists an id. -/
def Draft.home (draft : Draft) (id : String) : Option String :=
  (draft.blockOf? id).map Block.id

/-- Drafts that differ in the order of vertices and in members that make no difference. -/
structure Draft.Agrees (left right : Draft) : Prop where
  direction : left.direction = right.direction
  arcs : left.arcs = right.arcs
  outlines : left.blocks.map Block.outline = right.blocks.map Block.outline
  vertices : left.distinctVertices.Perm right.distinctVertices
  homes : ∀ vertex ∈ left.distinctVertices, left.home vertex.id = right.home vertex.id

/-! ### Blocks -/

/-- Whether a block is kept does not depend on its members. -/
theorem outline_firstByKey (seen : List String) (blocks : List Block) :
    (firstByKey Block.id seen blocks).map Block.outline =
      firstByKey Block.id seen (blocks.map Block.outline) :=
  (firstByKey_map Block.outline (fun _ => rfl) seen blocks).symm

theorem find?_outline (id : String) (blocks : List Block) :
    (blocks.find? fun block => block.id == id).bind Block.title =
      ((blocks.map Block.outline).find? fun block => block.id == id).bind Block.title := by
  rw [List.find?_map]
  change _ = ((blocks.find? fun block => block.id == id).map Block.outline).bind Block.title
  cases blocks.find? fun block => block.id == id <;> rfl

namespace Draft.Agrees

variable {left right : Draft}

/-- Drafts that agree have the same blocks. -/
theorem blockIds (agree : left.Agrees right) : left.blockIds = right.blockIds := by
  have ids : ∀ blocks : List Block,
      blocks.map Block.id = (blocks.map Block.outline).map Block.id := by
    intro blocks
    rw [List.map_map]
    rfl
  rw [Draft.blockIds, Draft.blockIds, ids, agree.outlines, ← ids]

/-- In drafts that agree groups have the same labels. -/
theorem groupLabel (agree : left.Agrees right) : left.groupLabel = right.groupLabel := by
  funext id
  rw [Draft.groupLabel, Draft.groupLabel, find?_outline, agree.outlines, ← find?_outline]

/-- In drafts that agree the same blocks come first under their ids. -/
theorem distinctBlocks (agree : left.Agrees right) :
    left.distinctBlocks.map Block.outline = right.distinctBlocks.map Block.outline := by
  rw [Draft.distinctBlocks, Draft.distinctBlocks, outline_firstByKey, outline_firstByKey,
    agree.outlines]

/-- The groups are the same. -/
theorem groupNodes (agree : left.Agrees right) (metadata : Metadata) (palette : Palette) :
    left.distinctBlocks.mapIdx (Node.ofBlock (K := K) metadata palette) =
      right.distinctBlocks.mapIdx (Node.ofBlock metadata palette) := by
  have outlined : ∀ blocks : List Block, blocks.mapIdx (Node.ofBlock (K := K) metadata palette) =
      (blocks.map Block.outline).mapIdx (Node.ofBlock metadata palette) := by
    intro blocks
    refine List.ext_getElem? fun position => ?_
    rw [List.getElem?_mapIdx, List.getElem?_mapIdx, List.getElem?_map, Option.map_map]
    rfl
  rw [outlined, agree.distinctBlocks, ← outlined]

/-- A vertex stands for the same node in both drafts. -/
theorem ofVertex (agree : left.Agrees right) (metadata : Metadata) {vertex : Vertex}
    (member : vertex ∈ left.distinctVertices) :
    Node.ofVertex (K := K) left metadata vertex = Node.ofVertex right metadata vertex := by
  have home : (left.blockOf? vertex.id).map Block.id = (right.blockOf? vertex.id).map Block.id :=
    agree.homes vertex member
  rw [Node.ofVertex, Node.ofVertex, home, agree.groupLabel]

/-- The other nodes are the same in some order. -/
theorem vertexNodes (agree : left.Agrees right) (metadata : Metadata) :
    (left.distinctVertices.map (Node.ofVertex (K := K) left metadata)).Perm
      (right.distinctVertices.map (Node.ofVertex right metadata)) := by
  have same : left.distinctVertices.map (Node.ofVertex (K := K) left metadata) =
      left.distinctVertices.map (Node.ofVertex right metadata) :=
    List.map_congr_left fun _ member => agree.ofVertex metadata member
  rw [same]
  exact agree.vertices.map _

/-- The same arcs have both ends. -/
theorem keeps (agree : left.Agrees right) (arc : Arc) : left.keeps arc = right.keeps arc := by
  have groups : left.distinctBlocks.map Block.id = right.distinctBlocks.map Block.id := by
    rw [map_id_distinctBlocks, map_id_distinctBlocks, agree.blockIds]
  have listed : ∀ id, left.nodeIds.contains id = right.nodeIds.contains id := by
    intro id
    have vertices := (agree.vertices.map Vertex.id).mem_iff (a := id)
    rw [Bool.eq_iff_iff, List.contains_iff_mem, List.contains_iff_mem, Draft.nodeIds,
      Draft.nodeIds, List.mem_append, List.mem_append, groups, vertices]
  rw [Draft.keeps, Draft.keeps, listed, listed]

end Draft.Agrees

/-! ### Graphs -/

/-- The groups of a graph are its blocks. -/
theorem groups_ofDraft (draft : Draft) (metadata : Metadata) (palette : Palette) :
    (Graph.ofDraft draft metadata palette : Graph K).groups =
      draft.distinctBlocks.mapIdx (Node.ofBlock metadata palette) := by
  have kept : (draft.distinctBlocks.mapIdx (Node.ofBlock (K := K) metadata palette)).filter
      Node.isGroup = draft.distinctBlocks.mapIdx (Node.ofBlock metadata palette) := by
    rw [List.filter_eq_self]
    intro node member
    obtain ⟨position, inside, rfl⟩ := List.mem_mapIdx.mp member
    exact isGroup_ofBlock metadata palette position _
  have dropped : (draft.distinctVertices.map (Node.ofVertex (K := K) draft metadata)).filter
      Node.isGroup = [] := by
    rw [List.filter_eq_nil_iff]
    intro node member
    obtain ⟨vertex, _, rfl⟩ := List.mem_map.mp member
    simp [isGroup_ofVertex]
  rw [Graph.groups, Graph.ofDraft, List.filter_append, kept, dropped, List.append_nil]

/-- Drafts that agree have graphs that agree. -/
theorem agrees_ofDraft {left right : Draft} (agree : left.Agrees right) (metadata : Metadata)
    (palette : Palette) :
    (Graph.ofDraft left metadata palette : Graph K).Agrees
      (Graph.ofDraft right metadata palette) where
  direction := congrArg graphDirection agree.direction
  edges := by
    have kept : (fun arc : Arc × Nat => left.keeps arc.1) = fun arc => right.keeps arc.1 :=
      funext fun arc => agree.keeps arc.1
    rw [Graph.ofDraft, Graph.ofDraft, agree.arcs, kept]
  groups := by
    rw [groups_ofDraft, groups_ofDraft, agree.groupNodes]
  nodes := by
    rw [Graph.ofDraft, Graph.ofDraft, agree.groupNodes]
    exact (agree.vertexNodes metadata).append_left _

/-- Drafts that agree have the same outcome with every list of colors. -/
theorem sameOutcome_build {left right : Draft} (agree : left.Agrees right) (limits : Limits)
    (cleaned : String) (colors : List String) :
    SameOutcome (Diagram.build (K := K) limits cleaned colors left)
      (Diagram.build limits cleaned colors right) := by
  have length : left.blocks.isEmpty = right.blocks.isEmpty := by
    have same := congrArg List.isEmpty agree.outlines
    rwa [List.isEmpty_map, List.isEmpty_map] at same
  rw [Diagram.build, Diagram.build]
  cases Source.metadata limits cleaned with
  | error cause => exact .mistake _
  | ok metadata =>
      simp only [Graph.ofDraft?, length]
      cases Palette.ofList? colors with
      | some palette => exact .graph (agrees_ofDraft agree _ palette)
      | none =>
          cases right.blocks.isEmpty with
          | true => exact .graph (agrees_ofDraft agree _ .standard)
          | false => exact .mistake _

end Flowchart
