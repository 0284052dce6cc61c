import Flowchart.Proofs.Graph.Canonical
import Flowchart.Proofs.Keyed

/-!
Graphs without defaults.

A group takes the color at its position modulo the number of colors, and a node the title of its
parent and the kind that belongs to the category of this title. The graph of a draft is built here
with lookups that have no result where there is no such color, title or kind. It is the graph of the
draft: every parent has a title, every category that a title speaks for has a kind, and a color is
missing only if there are groups and no colors at all.

Main definition: `Draft.graph?`. Main statement: `graph?_eq_ofDraft?`.
-/

namespace Flowchart

open Flowchart.Source (Metadata)
open Flowchart.Text (cleanLabel)

/-- The labels of the groups, under their ids. -/
def Draft.groupTitles (draft : Draft) : Keyed String :=
  draft.distinctBlocks.map fun block => (block.id, labelOr block.id block.title)

/-! ### Lookups -/

/-- The kind of a node in a category. A plain node has none if the category has none. -/
def NodeKind.upgrade? (kind : NodeKind) (category : Category) : Option NodeKind :=
  match kind with
  | plain => category.kind?
  | _ => some kind

/-- The kind and category of a node, if the category that the title of its group speaks for has a
kind. -/
def resolveCategory? (kind : NodeKind) (label : String) (groupTitle : Option String) :
    Option (NodeKind × Category) :=
  match groupTitle.bind categoryFromTitle with
  | some category => (kind.upgrade? category).map fun upgraded => (upgraded, category)
  | none => some (resolveCategory kind label none)

section Lookups

variable {K : Type} [Scalar K]

/-- The group of a block, if there is a color for it. -/
def Node.ofBlock? (metadata : Metadata) (colors : List String) (position : Nat) (block : Block) :
    Option (Node K) := do
  let label := labelOr block.id block.title
  let color ← colors[position % colors.length]?
  some {
    id := block.id
    kind := .group
    label
    category := groupCategory label
    metadata := metadata.find? block.id
    color := some (.str color)
    x := Scalar.zero
    y := Scalar.zero }

/-- The node of a vertex, if its parent has a title and this title a kind, or it has no parent. -/
def Node.ofVertex? (draft : Draft) (metadata : Metadata) (vertex : Vertex) : Option (Node K) := do
  let label := labelOr vertex.id vertex.text
  let parent := (draft.blockOf? vertex.id).map Block.id
  let title ← parent.mapM fun id => draft.groupTitles.find? id
  let resolved ← resolveCategory? (classify label vertex.shape) label title
  some {
    id := vertex.id
    kind := resolved.1
    label
    category := resolved.2
    parent
    shape := vertex.shape.map Json.str
    metadata := metadata.find? vertex.id
    x := Scalar.zero
    y := Scalar.zero }

/-- The graph of a draft, if all its nodes can be made. -/
def Draft.graph? (draft : Draft) (metadata : Metadata) (colors : List String) :
    Option (Graph K) := do
  let groups ← draft.distinctBlocks.zipIdx.mapM fun entry =>
    Node.ofBlock? metadata colors entry.2 entry.1
  let inner ← draft.distinctVertices.mapM (Node.ofVertex? draft metadata)
  some {
    nodes := groups ++ inner
    edges := (draft.arcs.zipIdx.filter fun arc => draft.keeps arc.1).map fun arc =>
      Edge.ofArc arc.2 arc.1
    direction := graphDirection draft.direction }

end Lookups

/-! ### Titles and colors -/

/-- Every block has a title under its id, that of the group it belongs to. -/
theorem find?_groupTitles {draft : Draft} {block : Block} (listed : block ∈ draft.blocks) :
    draft.groupTitles.find? block.id = some (draft.groupLabel block.id) := by
  obtain ⟨first, kept, sameId, label⟩ := exists_distinctBlock listed
  have distinct : (Keyed.keys draft.groupTitles).Nodup := by
    rw [Keyed.keys, Draft.groupTitles, List.map_map]
    exact nodup_map_firstByKey Block.id [] draft.blocks
  rw [label, ← sameId]
  exact Keyed.find?_of_mem distinct (List.mem_map_of_mem kept)

/-- A category that a title speaks for has a kind. -/
theorem exists_kind {title : String} {category : Category}
    (spoken : categoryFromTitle title = some category) : ∃ kind, category.kind? = some kind := by
  obtain ⟨rule, found, rfl⟩ := Option.map_eq_some_iff.mp spoken
  have all : ∀ rule ∈ categoryRules, rule.1.kind?.isSome := by decide
  exact Option.isSome_iff_exists.mp (all rule (List.mem_of_find?_eq_some found))

/-- A category is always found, whichever rule is asked. -/
theorem resolveCategory?_eq_some (kind : NodeKind) (label : String) (groupTitle : Option String) :
    resolveCategory? kind label groupTitle = some (resolveCategory kind label groupTitle) := by
  cases spoken : groupTitle.bind categoryFromTitle with
  | none => simp only [resolveCategory?, resolveCategory, spoken, Option.bind_none]
  | some category =>
      obtain ⟨title, -, named⟩ := Option.bind_eq_some_iff.mp spoken
      obtain ⟨own, isOwn⟩ := exists_kind named
      have upgraded : kind.upgrade? category = some (kind.upgrade category) := by
        cases kind <;> simp [NodeKind.upgrade?, NodeKind.upgrade, isOwn]
      simp only [resolveCategory?, resolveCategory, spoken, upgraded, Option.map_some]

section Nodes

variable {K : Type} [Scalar K]

/-- The group of a block is always made, if the palette has a color. -/
theorem ofBlock?_eq_some (metadata : Metadata) (palette : Palette) (position : Nat)
    (block : Block) :
    (Node.ofBlock? metadata palette.colors position block : Option (Node K)) =
      some (Node.ofBlock metadata palette position block) := by
  rw [Node.ofBlock?, getElem?_colors_mod]
  rfl

/-- The node of a vertex is always made. -/
theorem ofVertex?_eq_some (draft : Draft) (metadata : Metadata) (vertex : Vertex) :
    (Node.ofVertex? draft metadata vertex : Option (Node K)) =
      some (Node.ofVertex draft metadata vertex) := by
  have title : ((draft.blockOf? vertex.id).map Block.id).mapM
      (fun id => draft.groupTitles.find? id) =
        some (((draft.blockOf? vertex.id).map Block.id).map draft.groupLabel) := by
    cases found : draft.blockOf? vertex.id with
    | none => rfl
    | some block =>
        have listed : block ∈ draft.blocks := List.mem_of_find?_eq_some found
        simp [find?_groupTitles listed]
  rw [Node.ofVertex?, title]
  simp only [resolveCategory?_eq_some, Option.bind_eq_bind, Option.bind_some]
  rfl

/-- Whatever the colors, the graph with all lookups is the one without. -/
theorem graph?_eq_ofDraft? (draft : Draft) (metadata : Metadata) (colors : List String) :
    (draft.graph? metadata colors : Option (Graph K)) =
      Graph.ofDraft? draft metadata colors := by
  have inner : draft.distinctVertices.mapM (Node.ofVertex? draft metadata) =
      some (draft.distinctVertices.map (Node.ofVertex draft metadata : Vertex → Node K)) :=
    mapM_eq_pure fun vertex _ => ofVertex?_eq_some draft metadata vertex
  cases colors with
  | cons first others =>
      have groups : (draft.distinctBlocks.zipIdx.mapM fun entry =>
          Node.ofBlock? metadata (first :: others) entry.2 entry.1) =
            some (draft.distinctBlocks.mapIdx
              (Node.ofBlock metadata ⟨first, others⟩ : Nat → Block → Node K)) := by
        rw [List.mapIdx_eq_zipIdx_map]
        exact mapM_eq_pure fun entry _ => ofBlock?_eq_some metadata ⟨first, others⟩ _ _
      rw [Draft.graph?, groups, inner]
      rfl
  | nil =>
      rw [Draft.graph?, Graph.ofDraft?, inner]
      cases listed : draft.blocks with
      | nil =>
          have none : draft.distinctBlocks = [] := by rw [Draft.distinctBlocks, listed, firstByKey]
          rw [none, Graph.ofDraft, none]
          rfl
      | cons block others =>
          have some : draft.distinctBlocks = block :: firstByKey Block.id [block.id] others := by
            rw [Draft.distinctBlocks, listed]
            rfl
          rw [some]
          rfl

end Nodes

end Flowchart
