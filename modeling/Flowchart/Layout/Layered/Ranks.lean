import Flowchart.Geometry.Scalar
import Flowchart.Layout.Layered.Feedback

/-!
Ranks. Every vertex stands one rank below its lowest predecessor. An edge over several ranks is led
through a bend in each rank between its ends, so that neighbors always stand in adjacent ranks.
-/

namespace Flowchart.Layout.Layered

/-! ### Rows of vertices -/

/-- The start vertices of the edges that enter a vertex. -/
def predecessors (edges : List (Nat × Nat)) (vertex : Nat) : List Nat :=
  (edges.filter fun edge => edge.2 == vertex).map Prod.fst

/-- The end vertices of the edges that leave a vertex. -/
def successors (edges : List (Nat × Nat)) (vertex : Nat) : List Nat :=
  (edges.filter fun edge => edge.1 == vertex).map Prod.snd

/-- Append the vertices that the finished ones make ready, each once. -/
def addReady (edges : List (Nat × Nat)) (finished : List Nat) (next : List Nat) :
    List Nat → List Nat
  | [] => next
  | vertex :: vertices =>
    let ready := (predecessors edges vertex).all fun other => finished.contains other
    addReady edges finished
      (if ready && !next.contains vertex then next ++ [vertex] else next) vertices

/-- Finish the vertices of a row one by one. The result is the row below it, in the order in which
its vertices become ready, and everything finished so far. -/
def finishRow (edges : List (Nat × Nat)) (finished next : List Nat) :
    List Nat → List Nat × List Nat
  | [] => (next, finished)
  | vertex :: row =>
    let finished := vertex :: finished
    finishRow edges finished (addReady edges finished next (successors edges vertex)) row

/-- The rows from a given one on, at most as many as the bound says. -/
def rowsFrom (edges : List (Nat × Nat)) : Nat → List Nat → List Nat → List (List Nat)
  | 0, _, _ => []
  | _ + 1, _, [] => []
  | bound + 1, finished, row =>
    let (next, finished) := finishRow edges finished [] row
    row :: rowsFrom edges bound finished next

/-! ### Bends -/

/-- A vertex of the layered drawing: a box, or a bend of an edge. -/
structure Vertex (K : Type) where
  rank : Nat
  size : Size K
  isBend : Bool
deriving Repr, Inhabited

/-- An edge with the vertices it runs through, from its upper to its lower end, and the rank of its
upper end. -/
structure Chain where
  ends : Nat × Nat
  top : Nat
  stops : List Nat
deriving Repr, Inhabited

/-- Whether a vertex is an end of the chain. -/
def Chain.touches (chain : Chain) (vertex : Nat) : Bool :=
  chain.ends.1 == vertex || chain.ends.2 == vertex

/-- The vertex of the chain at a rank. -/
def Chain.stopAt? (chain : Chain) (rank : Nat) : Option Nat :=
  if rank < chain.top then none else chain.stops[rank - chain.top]?

/-- Vertices in rows, with the neighbors of each vertex in the rows above and below it. -/
structure Layering (K : Type) where
  vertices : Array (Vertex K)
  rows : List (List Nat)
  above : Array (List Nat)
  below : Array (List Nat)
deriving Repr, Inhabited

variable {K : Type} [Scalar K]

/-- The element in the middle of the sorted list. -/
def middle (numbers : List K) : K :=
  (Scalar.sorted numbers).getD (numbers.length / 2) Scalar.zero

/-- The chains of edges. Bends are numbered from the given number on, edge by edge from the top
down. -/
def chains (rankOf : Nat → Nat) : Nat → List (Nat × Nat) → List Chain
  | _, [] => []
  | fresh, edge :: edges =>
    let (upper, lower) := if rankOf edge.1 < rankOf edge.2 then edge else (edge.2, edge.1)
    let bends := List.range' fresh (rankOf lower - rankOf upper - 1)
    ⟨edge, rankOf upper, upper :: bends ++ [lower]⟩ :: chains rankOf (fresh + bends.length) edges

/-- The inner vertices of a chain, with their ranks. -/
def Chain.bends (chain : Chain) : List (Nat × Nat) :=
  (chain.stops.tail.dropLast).mapIdx fun position vertex => (chain.top + 1 + position, vertex)

/-- The neighbor that stands in for an end vertex of an edge: the vertex itself, if it has the
rank, or else the stop at that rank of the first edge between the two. -/
def standIn (rankOf : Nat → Nat) (chains : List Chain) (rank vertex other : Nat) : Nat :=
  if rankOf other = rank then other
  else
    match chains.find? fun chain => chain.touches vertex && chain.touches other with
    | some chain => (chain.stopAt? rank).getD other
    | none => other

/-- The first row: the vertices that no edge enters, and then those that none enters any more once
the edges form no cycle. -/
def firstRow (count : Nat) (edges acyclic : List (Nat × Nat)) : List Nat :=
  let entries := sources count edges
  entries ++ (sources count acyclic).filter fun vertex => !entries.contains vertex

/-- The layering of boxes and edges. Edges that close a cycle are turned around. -/
def layering (sizes : List (Size K)) (given : List (Nat × Nat)) : Layering K :=
  let count := sizes.length
  let edges := withoutCycles count given
  let rows := rowsFrom edges count [] (firstRow count given edges)
  let ranks : Array Nat := rows.zipIdx.foldl
    (fun ranks row => row.1.foldl (fun ranks vertex => ranks.setIfInBounds vertex row.2) ranks)
    (Array.replicate count 0)
  let rankOf := fun vertex => ranks.getD vertex 0
  let chains := chains rankOf count edges
  let bendSize : Size K := ⟨middle (sizes.map Size.width), middle (sizes.map Size.height)⟩
  let bends := chains.flatMap Chain.bends
  { vertices :=
      (sizes.mapIdx (fun position size => (⟨rankOf position, size, false⟩ : Vertex K)) ++
        bends.map fun bend => (⟨bend.1, bendSize, true⟩ : Vertex K)).toArray
    rows := rows.mapIdx fun rank row =>
      row ++ (bends.filter fun bend => bend.1 == rank).map Prod.snd
    above :=
      ((List.range count).map (fun vertex =>
          (predecessors edges vertex).map (standIn rankOf chains (rankOf vertex - 1) vertex)) ++
        chains.flatMap fun chain => (chain.stops.dropLast.dropLast).map fun stop => [stop]).toArray
    below :=
      ((List.range count).map (fun vertex =>
          (successors edges vertex).map (standIn rankOf chains (rankOf vertex + 1) vertex)) ++
        chains.flatMap fun chain => (chain.stops.tail.tail).map fun stop => [stop]).toArray }

end Flowchart.Layout.Layered
