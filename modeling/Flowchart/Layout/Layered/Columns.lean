import Flowchart.Layout.Layered.Blocks

/-!
Columns. The blocks of one alignment are pushed together, row by row, until they stand one spacing
apart. The column of a vertex is midway between the two middle ones of the four alignments.
-/

namespace Flowchart.Layout.Layered

variable {K : Type} [Scalar K]

/-- Columns while blocks are pushed together. A block belongs to the class of a sink; where two
classes meet, one of them is shifted as a whole. Everything is kept under first vertices. -/
structure Columns (K : Type) where
  columns : Array (Option K)
  sinks : Array Nat
  shifts : Array (Option K)
deriving Repr, Inhabited

namespace Columns

/-- Nothing pushed yet. -/
def unplaced (count : Nat) : Columns K :=
  ⟨Array.replicate count none, Array.range count, Array.replicate count none⟩

/-- The column of a block, if it has one. -/
def column? (state : Columns K) (root : Nat) : Option K :=
  (state.columns[root]?).join

/-- The column of a block. -/
def column (state : Columns K) (root : Nat) : K :=
  (state.column? root).getD Scalar.zero

/-- The sink of a block. -/
def sink (state : Columns K) (root : Nat) : Nat :=
  state.sinks.getD root root

/-- The shift of a class, if it is shifted at all. -/
def shift? (state : Columns K) (sink : Nat) : Option K :=
  (state.shifts[sink]?).join

/-- Enter the column of a block. -/
def setColumn (state : Columns K) (root : Nat) (column : K) : Columns K :=
  { state with columns := state.columns.setIfInBounds root (some column) }

/-- Enter the sink of a block. -/
def setSink (state : Columns K) (root sink : Nat) : Columns K :=
  { state with sinks := state.sinks.setIfInBounds root sink }

/-- Lower the shift of a class, if the number is below its present one. -/
def lowerShift (state : Columns K) (sink : Nat) (candidate : K) : Columns K :=
  let lowered := match state.shift? sink with
    | some shift => some (Scalar.least shift candidate)
    | none => if Scalar.isBounded candidate then some candidate else none
  { state with shifts := state.shifts.setIfInBounds sink lowered }

end Columns

/-- What a compaction goes by. -/
structure Compaction (K : Type) where
  layering : Layering K
  arrangement : Arrangement K
  blocks : Blocks
  sweep : Sweep
  spacing : K

namespace Compaction

/-- The width of a vertex. -/
def width (compaction : Compaction K) (vertex : Nat) : K :=
  (compaction.layering.vertices[vertex]?.map fun entry => entry.size.width).getD Scalar.zero

/-- The vertex before another one in the reading order of its row. -/
def before? (compaction : Compaction K) (vertex : Nat) : Option Nat := do
  let entry ← compaction.layering.vertices[vertex]?
  let row := compaction.arrangement.rows.getD entry.rank []
  let place := compaction.arrangement.place vertex
  if compaction.sweep.fromRight then row[place + 1]?
  else if place = 0 then none
  else row[place - 1]?

/-- Push a block against those before it, which are pushed first. No block is entered twice, so
that the number of vertices bounds the depth. -/
def pushBlock (compaction : Compaction K) : Nat → Columns K → Nat → Columns K
  | 0, state, _ => state
  | bound + 1, state, root =>
    if (state.column? root).isSome then state
    else
      (compaction.blocks.vertices root).foldl (fun state vertex =>
        match compaction.before? vertex with
        | none => state
        | some earlier =>
          let other := compaction.blocks.root earlier
          let state := pushBlock compaction bound state other
          let distance :=
            compaction.spacing + Scalar.half (compaction.width earlier + compaction.width vertex)
          let state :=
            if state.sink root = root then state.setSink root (state.sink other) else state
          let nearest := state.column other + distance
          if state.sink root = state.sink other then
            state.setColumn root (Scalar.greatest (state.column root) nearest)
          else state.lowerShift (state.sink other) (state.column root - nearest))
        (state.setColumn root Scalar.zero)

/-- Push all blocks together. -/
def pushAll (compaction : Compaction K) : Columns K :=
  let count := compaction.layering.vertices.size
  (compaction.sweep.across compaction.arrangement.rows.toList).foldl (fun state row =>
    (compaction.sweep.along row).foldl (fun state vertex =>
      if compaction.blocks.root vertex = vertex then
        pushBlock compaction (count + 1) state vertex
      else state) state) (Columns.unplaced count)

/-- The columns of all vertices. Rows read from the right have theirs counted from the right. -/
def columns (compaction : Compaction K) : Array K :=
  let state := pushAll compaction
  let turn : K → K := fun x => if compaction.sweep.fromRight then -x else x
  (Array.range compaction.layering.vertices.size).map fun vertex =>
    let root := compaction.blocks.root vertex
    let column := state.column root
    let column := if column == Scalar.zero then column else turn column
    match state.shift? (state.sink root) with
    | some shift => column + turn shift
    | none => column

end Compaction

/-- The mean of the two middle ones of four numbers. -/
def middleMean (numbers : List K) : K :=
  let sorted := Scalar.sorted numbers
  Scalar.half (sorted.getD 1 Scalar.zero + sorted.getD 2 Scalar.zero)

/-- The heights of the centers of the rows, each row as high as its highest vertex. -/
def rowCenters (spacing : K) : K → List (List K) → List K
  | _, [] => []
  | top, heights :: rows =>
    let reach : K := match heights.map Scalar.half with
      | [] => Scalar.zero
      | first :: others => Scalar.greatestOf first others
    (top + reach) :: rowCenters spacing (top + (Scalar.ofNat 2 * reach + spacing)) rows

end Flowchart.Layout.Layered
