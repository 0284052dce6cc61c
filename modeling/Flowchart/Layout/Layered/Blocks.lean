import Flowchart.Layout.Layered.Crossings

/-!
Vertical alignment. Vertices are tied into blocks that share one column: each to a middle one of its
neighbors in an adjacent row, as long as ties do not cross each other or an edge between two bends.
-/

namespace Flowchart.Layout.Layered

variable {K : Type} [Scalar K]

/-- One of the four ways to align: whether rows are read from the right, and whether they are tied
to the rows below. -/
structure Sweep where
  fromRight : Bool
  toBelow : Bool
deriving Repr, Inhabited, DecidableEq

namespace Sweep

/-- All ways to align. -/
def all : List Sweep :=
  [⟨false, false⟩, ⟨true, false⟩, ⟨false, true⟩, ⟨true, true⟩]

/-- A list in the reading order of rows. -/
def along {α : Type} (sweep : Sweep) (row : List α) : List α :=
  if sweep.fromRight then row.reverse else row

/-- A list of rows from the one that is tied to none on. -/
def across {α : Type} (sweep : Sweep) (rows : List α) : List α :=
  if sweep.toBelow then rows.reverse else rows

/-- The neighbors that vertices may be tied to. -/
def neighbors (sweep : Sweep) (layering : Layering K) : Array (List Nat) :=
  if sweep.toBelow then layering.below else layering.above

end Sweep

/-! ### Conflicts -/

/-- Whether a vertex is a bend. -/
def Layering.isBend (layering : Layering K) (vertex : Nat) : Bool :=
  (layering.vertices[vertex]?.map Vertex.isBend).getD false

/-- The upper neighbor of a bend, if that is a bend too. -/
def Layering.innerNeighbor? (layering : Layering K) (vertex : Nat) : Option Nat :=
  ((layering.above.getD vertex []).head?).filter layering.isBend

/-- The edges from the given vertices to places above them that lie outside an interval. -/
def outside (layering : Layering K) (arrangement : Arrangement K) (first last : Nat)
    (vertices : List Nat) : List (Nat × Nat) :=
  vertices.flatMap fun vertex =>
    ((layering.above.getD vertex []).filter fun upper =>
      arrangement.place upper < first || last < arrangement.place upper).map fun upper =>
        (upper, vertex)

/-- The edges of a row that cross an edge between two bends. Vertices wait until the next such edge
bounds the places above them. -/
def rowConflicts (layering : Layering K) (arrangement : Arrangement K) (width first : Nat)
    (waiting : List Nat) : List Nat → List (Nat × Nat)
  | [] => []
  | vertex :: row =>
    let waiting := waiting ++ [vertex]
    if !layering.isBend vertex then
      rowConflicts layering arrangement width first waiting row
    else
      match layering.innerNeighbor? vertex with
      | some inner =>
        let last := arrangement.place inner
        outside layering arrangement first last waiting ++
          rowConflicts layering arrangement width last [] row
      | none =>
        if row.isEmpty then outside layering arrangement first (width - 1) waiting
        else rowConflicts layering arrangement width first waiting row

/-- All edges that cross an edge between two bends, as pairs of the upper and the lower vertex. -/
def conflicts (layering : Layering K) (arrangement : Arrangement K) : List (Nat × Nat) :=
  let rows := arrangement.rows.toList
  (rows.zip rows.tail).flatMap fun adjacent =>
    rowConflicts layering arrangement adjacent.1.length 0 [] adjacent.2

/-! ### Ties -/

/-- Blocks of vertices. Each vertex knows the first vertex of its block, and the next vertex; the
last vertex is followed by the first. -/
structure Blocks where
  roots : Array Nat
  nexts : Array Nat
deriving Repr, Inhabited

namespace Blocks

/-- Every vertex on its own. -/
def single (count : Nat) : Blocks :=
  ⟨Array.range count, Array.range count⟩

/-- The first vertex of a block. -/
def root (blocks : Blocks) (vertex : Nat) : Nat :=
  blocks.roots.getD vertex vertex

/-- The vertex that follows in the block. -/
def next (blocks : Blocks) (vertex : Nat) : Nat :=
  blocks.nexts.getD vertex vertex

/-- Append a vertex to the block that ends with another one. -/
def tie (blocks : Blocks) (last vertex : Nat) : Blocks :=
  let root := blocks.root last
  ⟨blocks.roots.setIfInBounds vertex root,
    (blocks.nexts.setIfInBounds last vertex).setIfInBounds vertex root⟩

/-- The vertices of a block from the given one on, before the stop, at most as many as the bound
says. -/
def verticesFrom (blocks : Blocks) (stop : Nat) : Nat → Nat → List Nat
  | 0, vertex => [vertex]
  | bound + 1, vertex =>
    let following := blocks.next vertex
    if following = stop then [vertex] else vertex :: verticesFrom blocks stop bound following

/-- The vertices of the block of a first vertex. -/
def vertices (blocks : Blocks) (root : Nat) : List Nat :=
  blocks.verticesFrom root blocks.nexts.size root

end Blocks

/-- The one or two numbers in the middle of a sorted list. -/
def medians (numbers : List Nat) : List Nat :=
  (numbers.drop ((numbers.length - 1) / 2)).take (if numbers.length % 2 = 1 then 1 else 2)

/-- Whether a place lies further along the row than the last one used. -/
def Sweep.isFurther (sweep : Sweep) (used : Option Nat) (place : Nat) : Bool :=
  match used with
  | none => true
  | some last => if sweep.fromRight then place < last else last < place

/-- Tie a vertex to the first of the candidate places that is free. -/
def tieVertex (sweep : Sweep) (conflicts : List (Nat × Nat)) (facing : Array Nat) (vertex : Nat) :
    Blocks × Option Nat → List Nat → Blocks × Option Nat
  | state, [] => state
  | (blocks, used), place :: places =>
    let candidate := facing.getD place vertex
    let pair := if sweep.toBelow then (vertex, candidate) else (candidate, vertex)
    if blocks.next vertex = vertex ∧ !conflicts.contains pair ∧ sweep.isFurther used place then
      tieVertex sweep conflicts facing vertex (blocks.tie candidate vertex, some place) places
    else tieVertex sweep conflicts facing vertex (blocks, used) places

/-- Tie the vertices of a row to those of the row it faces. -/
def tieRow (layering : Layering K) (arrangement : Arrangement K) (conflicts : List (Nat × Nat))
    (sweep : Sweep) (blocks : Blocks) (facing row : List Nat) : Blocks :=
  ((sweep.along row).foldl (fun state vertex =>
    let places := ((sweep.neighbors layering).getD vertex []).map arrangement.place
    tieVertex sweep conflicts facing.toArray vertex state
      (medians (sweep.along (ascending places)))) (blocks, none)).1

/-- The blocks of one way to align. -/
def blocks (layering : Layering K) (arrangement : Arrangement K) (conflicts : List (Nat × Nat))
    (sweep : Sweep) : Blocks :=
  let rows := sweep.across arrangement.rows.toList
  (rows.zip rows.tail).foldl
    (fun blocks adjacent =>
      tieRow layering arrangement conflicts sweep blocks adjacent.1 adjacent.2)
    (Blocks.single layering.vertices.size)

end Flowchart.Layout.Layered
