import Flowchart.Layout.Layered.Ranks

/-!
Order within rows. Rows are sorted by the mean place of the neighbors in an adjacent row, and
adjacent vertices change places where that removes crossings; the sweeps go down, up and down again.
-/

namespace Flowchart.Layout.Layered

variable {K : Type} [Scalar K]

/-- The rows in their current order, with the place of every vertex in its row, counted and scaled
to the width of the row. -/
structure Arrangement (K : Type) where
  rows : Array (List Nat)
  places : Array Nat
  weights : Array K
deriving Repr, Inhabited

/-- The place of a vertex in its row. -/
def Arrangement.place (arrangement : Arrangement K) (vertex : Nat) : Nat :=
  arrangement.places.getD vertex 0

/-- The scaled place of a vertex. -/
def Arrangement.weight (arrangement : Arrangement K) (vertex : Nat) : K :=
  arrangement.weights.getD vertex Scalar.zero

/-- Enter a new order of a row. -/
def Arrangement.setRow (arrangement : Arrangement K) (rank : Nat) (row : List Nat) :
    Arrangement K :=
  let scale : K :=
    if 1 < row.length then Scalar.ofNat 1 / Scalar.ofNat (row.length - 1) else Scalar.ofNat 1
  { rows := arrangement.rows.setIfInBounds rank row
    places := row.zipIdx.foldl
      (fun places entry => places.setIfInBounds entry.1 entry.2) arrangement.places
    weights := row.zipIdx.foldl
      (fun weights entry => weights.setIfInBounds entry.1 (Scalar.ofNat entry.2 * scale))
      arrangement.weights }

/-- The rows as they were formed. -/
def Layering.arrangement (layering : Layering K) : Arrangement K :=
  layering.rows.zipIdx.foldl (fun arrangement row => arrangement.setRow row.2 row.1)
    { rows := layering.rows.toArray
      places := Array.replicate layering.vertices.size 0
      weights := Array.replicate layering.vertices.size Scalar.zero }

/-- Numbers from the smallest to the greatest. -/
def ascending (numbers : List Nat) : List Nat :=
  numbers.mergeSort fun x y => decide (x ≤ y)

/-- The number of pairs that stand in the wrong order. -/
def inversions : List Nat → Nat
  | [] => 0
  | number :: rest => rest.countP (fun later => decide (later < number)) + inversions rest

/-- The mean of numbers, if there are any. -/
def mean? (numbers : List K) : Option K :=
  if numbers.isEmpty then none
  else some (numbers.foldl (· + ·) Scalar.zero / Scalar.ofNat numbers.length)

/-- The number of pairs of a left and a right number that stand in the wrong order. -/
def wrongPairs (left : List K) : List K → Nat
  | [] => 0
  | y :: right => left.countP (fun x => decide (y < x)) + wrongPairs left right

/-- The crossings of the edges of two adjacent vertices, in this order and in the other one. -/
def pairCrossings (left right : List K) : Nat × Nat :=
  let crossing := wrongPairs left right
  (crossing, left.length * right.length - crossing)

/-- Go along a row and let adjacent vertices change places where that removes crossings. The result
is the row and the number of crossings that stay between adjacent vertices. -/
def exchangeAdjacent (weightsOf : Nat → List K) : Nat → List Nat → List Nat × Nat
  | left, [] => ([left], 0)
  | left, right :: row =>
    let (kept, exchanged) := pairCrossings (weightsOf left) (weightsOf right)
    if exchanged < kept then
      let (row, crossings) := exchangeAdjacent weightsOf left row
      (right :: row, exchanged + crossings)
    else
      let (row, crossings) := exchangeAdjacent weightsOf right row
      (left :: row, kept + crossings)

/-- Order one row by the neighbors of its vertices in an adjacent row, unless no edges cross. The
result says how many crossings were left. -/
def orderRow (neighbors : Array (List Nat)) (arrangement : Arrangement K) (rank : Nat) :
    Arrangement K × Nat :=
  let row := arrangement.rows.getD rank []
  let neighborsOf := fun vertex => neighbors.getD vertex []
  let crossings := inversions (row.flatMap fun vertex =>
    ascending ((neighborsOf vertex).map arrangement.place))
  if crossings = 0 then (arrangement, 0)
  else
    let weightsOf := fun vertex => (neighborsOf vertex).map arrangement.weight
    let weighted := row.map fun vertex =>
      (vertex, (mean? (weightsOf vertex)).getD (arrangement.weight vertex))
    let sorted := (weighted.mergeSort fun x y => !decide (y.2 < x.2)).map Prod.fst
    match sorted with
    | [] => (arrangement, 0)
    | first :: rest =>
      let (row, left) := exchangeAdjacent weightsOf first rest
      (arrangement.setRow rank row, left)

/-- Order rows one after the other, and count the crossings left. -/
def orderRows (neighbors : Array (List Nat)) (arrangement : Arrangement K) :
    List Nat → Arrangement K × Nat
  | [] => (arrangement, 0)
  | rank :: ranks =>
    let (arrangement, crossings) := orderRow neighbors arrangement rank
    let (arrangement, more) := orderRows neighbors arrangement ranks
    (arrangement, crossings + more)

/-- The final order of the rows: a sweep down, one up if the first left crossings, and a last one
down. -/
def Layering.ordered (layering : Layering K) : Arrangement K :=
  let downwards := List.range layering.rows.length
  let (arrangement, crossings) := orderRows layering.above layering.arrangement downwards
  let arrangement := if crossings = 0 then arrangement
    else (orderRows layering.below arrangement downwards.reverse).1
  (orderRows layering.above arrangement downwards).1

end Flowchart.Layout.Layered
