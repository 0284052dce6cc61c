import Flowchart.Proofs.Graph.Canonical

/-!
Arcs with both ends.

A graph has an edge for every arc of its draft if each end of an arc is the id of a vertex or of a
block. In particular the arcs of a vertex that gives way to a block of the same id are kept.

Main statement: `edges_ofDraft`.
-/

namespace Flowchart

open Flowchart.Source (Metadata)

/-- Every end of an arc is the id of a vertex or of a block. -/
structure Draft.Attached (draft : Draft) : Prop where
  sources : ∀ arc ∈ draft.arcs,
    arc.source ∈ draft.vertices.map Vertex.id ∨ arc.source ∈ draft.blockIds
  targets : ∀ arc ∈ draft.arcs,
    arc.target ∈ draft.vertices.map Vertex.id ∨ arc.target ∈ draft.blockIds

variable {K : Type} [Scalar K] {draft : Draft}

/-- The nodes of the graph carry the ids of the vertices and blocks, and no others. -/
theorem mem_nodeIds {id : String} :
    id ∈ draft.nodeIds ↔ id ∈ draft.vertices.map Vertex.id ∨ id ∈ draft.blockIds := by
  rw [Draft.nodeIds, List.mem_append, map_id_distinctBlocks, map_id_distinctVertices,
    List.mem_eraseDups, List.mem_eraseDups, List.mem_filter]
  by_cases isBlock : id ∈ draft.blockIds
  · simp [isBlock]
  · simp [isBlock]

theorem Draft.Attached.keeps (attached : draft.Attached) {arc : Arc}
    (member : arc ∈ draft.arcs) : draft.keeps arc = true := by
  have source : arc.source ∈ draft.nodeIds := mem_nodeIds.mpr (attached.sources arc member)
  have target : arc.target ∈ draft.nodeIds := mem_nodeIds.mpr (attached.targets arc member)
  rw [Draft.keeps, Bool.and_eq_true, List.contains_iff_mem, List.contains_iff_mem]
  exact ⟨source, target⟩

/-- No arc is left out of the graph. -/
theorem Draft.Attached.edges_ofDraft (attached : draft.Attached) (metadata : Metadata)
    (palette : Palette) :
    (Graph.ofDraft draft metadata palette : Graph K).edges =
      draft.arcs.zipIdx.map fun arc => Edge.ofArc arc.2 arc.1 := by
  have all : draft.arcs.zipIdx.filter (fun arc => draft.keeps arc.1) = draft.arcs.zipIdx := by
    rw [List.filter_eq_self]
    intro arc member
    exact attached.keeps (List.fst_mem_of_mem_zipIdx member)
  rw [Graph.ofDraft, all]

end Flowchart
