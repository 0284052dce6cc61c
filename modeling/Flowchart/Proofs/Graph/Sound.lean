import Flowchart.Graph.Basic

/-!
Graphs that refer to nothing outside of themselves.

Main definition: `Graph.Sound`.
-/

namespace Flowchart

variable {K : Type}

/-- A graph whose nodes can be told apart by their ids, and whose parents and edges are among
them. -/
structure Graph.Sound (graph : Graph K) : Prop where
  distinct : (graph.nodes.map Node.id).Nodup
  named : ∀ node ∈ graph.nodes, node.id ≠ ""
  /-- Groups have no parent, and the parent of another node is a group. -/
  parents : ∀ node ∈ graph.nodes, ∀ parent ∈ node.parent,
    node.isGroup = false ∧ parent ≠ node.id ∧
      ∃ group ∈ graph.nodes, group.isGroup = true ∧ group.id = parent
  sources : ∀ edge ∈ graph.edges, edge.source ∈ graph.nodes.map Node.id
  targets : ∀ edge ∈ graph.edges, edge.target ∈ graph.nodes.map Node.id

end Flowchart
