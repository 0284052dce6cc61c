/-!
Breaking cycles. A depth-first walk along the edges finds those that lead back to a vertex it is
still below; turned around, they leave no cycle.
-/

namespace Flowchart.Layout.Layered

/-- The positions of the edges that leave a vertex. -/
def outgoing (edges : List (Nat × Nat)) (vertex : Nat) : List Nat :=
  (List.range edges.length).filter fun position => (edges[position]?.map Prod.fst) == some vertex

/-- The number of steps that a walk still has to take on the edges it has met. -/
def pendingSteps : List (Nat × List Nat) → Nat
  | [] => 0
  | frame :: below => 1 + frame.2.length + pendingSteps below

/-- Taking out a member makes a list shorter. -/
theorem length_erase_lt {vertex : Nat} {vertices : List Nat} (h : vertex ∈ vertices) :
    (vertices.erase vertex).length < vertices.length := by
  have positive := List.length_pos_of_mem h
  rw [List.length_erase_of_mem h]
  omega

/-- A depth-first walk from the starting vertices, each in turn unless it has been visited. The
stack holds the vertices that the walk is below, each with the edges it has yet to follow. The
result lists the edges that lead back to a vertex on the stack. -/
def backEdges (edges : List (Nat × Nat)) (starts unvisited : List Nat)
    (stack : List (Nat × List Nat)) : List Nat :=
  match stack, starts with
  | [], [] => []
  | [], start :: starts =>
    if start ∈ unvisited then
      backEdges edges starts (unvisited.erase start) [(start, outgoing edges start)]
    else backEdges edges starts unvisited []
  | (_, []) :: below, starts => backEdges edges starts unvisited below
  | (vertex, edge :: later) :: below, starts =>
    let target := (edges.getD edge (vertex, vertex)).2
    if target ∈ unvisited then
      backEdges edges starts (unvisited.erase target)
        ((target, outgoing edges target) :: (vertex, later) :: below)
    else if (vertex :: below.map Prod.fst).contains target then
      edge :: backEdges edges starts unvisited ((vertex, later) :: below)
    else backEdges edges starts unvisited ((vertex, later) :: below)
termination_by (unvisited.length, pendingSteps stack + starts.length)
decreasing_by
  · exact Prod.Lex.left _ _ (length_erase_lt ‹_›)
  · exact Prod.Lex.right _ (by simp [pendingSteps])
  · exact Prod.Lex.right _ (by simp only [pendingSteps]; omega)
  · exact Prod.Lex.left _ _ (length_erase_lt ‹_›)
  · exact Prod.Lex.right _ (by simp only [pendingSteps, List.length_cons]; omega)
  · exact Prod.Lex.right _ (by simp only [pendingSteps, List.length_cons]; omega)

/-- The vertices that no edge enters. -/
def sources (count : Nat) (edges : List (Nat × Nat)) : List Nat :=
  (List.range count).filter fun vertex => edges.all fun edge => edge.2 != vertex

/-- The edges with every edge that closes a cycle turned around. The walk starts at the vertices
that no edge enters. -/
def withoutCycles (count : Nat) (edges : List (Nat × Nat)) : List (Nat × Nat) :=
  let vertices := List.range count
  let back := backEdges edges (sources count edges ++ vertices) vertices []
  edges.mapIdx fun position edge => if back.contains position then (edge.2, edge.1) else edge

end Flowchart.Layout.Layered
