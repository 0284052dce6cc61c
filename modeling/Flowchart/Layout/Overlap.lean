import Flowchart.Geometry.Pairs
import Flowchart.Layout.Options

/-!
Removal of overlaps. Nodes that come too close are pushed apart, pair after pair and pass after
pass, until nothing moves any more or the passes are used up; then the whole drawing is moved into
the page.
-/

namespace Flowchart.Overlap

variable {K : Type} [Scalar K]

/-- A node's space on the page: its top left corner and its size. -/
structure Tile (K : Type) where
  corner : Point K
  size : Size K
deriving Repr, Inhabited, DecidableEq

/-- The space of a node. -/
def tileOf (node : Node K) : Tile K :=
  ⟨⟨node.x, node.y⟩, node.footprint⟩

/-- The space of every node that is no group. -/
def tiles (nodes : List (Node K)) : List (Tile K) :=
  (nodes.filter fun node => !node.isGroup).map tileOf

/-- How to push nodes apart. -/
structure Settings (K : Type) where
  maxPasses : Nat
  /-- The space to keep between nodes. -/
  padding : K
  /-- How much further than needed a node is pushed. -/
  pushMargin : K
  pageMargin : K
deriving Repr, Inhabited, DecidableEq

/-- The settings when none are given. -/
def Settings.standard : Settings K where
  maxPasses := 50
  padding := Scalar.ofNat 20
  pushMargin := Scalar.ofNat 1
  pageMargin := Page.margin

/-- How far two padded intervals overlap. -/
def extent (padding start length start' length' : K) : K :=
  Scalar.least (start + length + padding) (start' + length' + padding) -
    Scalar.greatest start start'

/-- How far two spaces overlap along the x axis. -/
def extentX (padding : K) (a b : Tile K) : K :=
  extent padding a.corner.x a.size.width b.corner.x b.size.width

/-- How far two spaces overlap along the y axis. -/
def extentY (padding : K) (a b : Tile K) : K :=
  extent padding a.corner.y a.size.height b.corner.y b.size.height

/-- Whether two spaces overlap on both axes. -/
def collide (padding : K) (a b : Tile K) : Bool :=
  decide (Scalar.zero < extentX padding a b) && decide (Scalar.zero < extentY padding a b)

/-- The number of pairs of nodes that overlap, groups left aside. -/
def count (padding : K) (nodes : List (Node K)) : Nat :=
  (pairs (tiles nodes)).countP fun pair => collide padding pair.1 pair.2

/-! ### Pushing -/

/-- Two coordinates moved apart by the same amount; of equal ones, the second becomes smaller. -/
def spread (push x y : K) : K × K :=
  if x < y then (x - push, y + push) else (x + push, y - push)

/-- Push two nodes apart along the axis on which they overlap less, if they overlap. -/
def pushPair (settings : Settings K) (a b : Tile K) : Option (Tile K × Tile K) :=
  let overlapX := extentX settings.padding a b
  let overlapY := extentY settings.padding a b
  if overlapX ≤ Scalar.zero ∨ overlapY ≤ Scalar.zero then none
  else if overlapX < overlapY then
    let (x, x') := spread (Scalar.half overlapX + settings.pushMargin) a.corner.x b.corner.x
    some ({ a with corner := ⟨x, a.corner.y⟩ }, { b with corner := ⟨x', b.corner.y⟩ })
  else
    let (y, y') := spread (Scalar.half overlapY + settings.pushMargin) a.corner.y b.corner.y
    some ({ a with corner := ⟨a.corner.x, y⟩ }, { b with corner := ⟨b.corner.x, y'⟩ })

/-- What is left of a row of nodes after some pushes, and whether anything was pushed. -/
structure Pushed (α K : Type) where
  head : α
  rest : List (Tile K)
  moved : Bool
deriving Repr, Inhabited

/-- Push one node and each later one apart, one after the other. -/
def pushHead (settings : Settings K) (a : Tile K) : List (Tile K) → Pushed (Tile K) K
  | [] => ⟨a, [], false⟩
  | b :: rest =>
    match pushPair settings a b with
    | none =>
      let pushed := pushHead settings a rest
      ⟨pushed.head, b :: pushed.rest, pushed.moved⟩
    | some (a, b) =>
      let pushed := pushHead settings a rest
      ⟨pushed.head, b :: pushed.rest, true⟩

/-- Pushing keeps the number of nodes. -/
theorem length_pushHead_rest (settings : Settings K) (a : Tile K) (rest : List (Tile K)) :
    (pushHead settings a rest).rest.length = rest.length := by
  fun_induction pushHead settings a rest with
  | case1 a => rfl
  | case2 a b rest h pushed ih => exact congrArg (· + 1) ih
  | case3 a b rest a' b' h pushed ih => exact congrArg (· + 1) ih

/-- One pass: every pair of nodes in order. The result tells whether anything was pushed. -/
def pushAll (settings : Settings K) (tiles : List (Tile K)) : List (Tile K) × Bool :=
  match tiles with
  | [] => ([], false)
  | a :: rest =>
    let pushed := pushHead settings a rest
    let (others, moved) := pushAll settings pushed.rest
    (pushed.head :: others, pushed.moved || moved)
termination_by tiles.length
decreasing_by
  rw [length_pushHead_rest]
  exact Nat.lt_succ_self _

/-- How a resolution ended. -/
structure Outcome (α : Type) where
  value : α
  passes : Nat
  converged : Bool
deriving Repr, Inhabited

/-- Pass after pass, until one pushes nothing or none are left. -/
def pushUntilStill (settings : Settings K) : Nat → List (Tile K) → Outcome (List (Tile K))
  | 0, tiles => ⟨tiles, 0, false⟩
  | passes + 1, tiles =>
    match pushAll settings tiles with
    | (tiles, false) => ⟨tiles, 1, true⟩
    | (tiles, true) =>
      let outcome := pushUntilStill settings passes tiles
      { outcome with passes := outcome.passes + 1 }

/-! ### Moving into the page -/

/-- Move everything so that the least coordinates stand at the margin, if one of them lies below
it. -/
def intoPage (margin : K) (tiles : List (Tile K)) : List (Tile K) :=
  match tiles with
  | [] => []
  | first :: others =>
    let minX := Scalar.leastOf first.corner.x (others.map fun tile => tile.corner.x)
    let minY := Scalar.leastOf first.corner.y (others.map fun tile => tile.corner.y)
    if minX < margin ∨ minY < margin then
      tiles.map fun tile =>
        { tile with corner := ⟨tile.corner.x + (margin - minX), tile.corner.y + (margin - minY)⟩ }
    else tiles

/-- The nodes with the positions of the given spaces, which are in the order of the nodes that are
no groups. -/
def restore : List (Node K) → List (Tile K) → List (Node K)
  | [], _ => []
  | node :: nodes, tiles =>
    if node.isGroup then node :: restore nodes tiles
    else match tiles with
      | [] => node :: nodes
      | tile :: tiles => node.movedTo tile.corner.x tile.corner.y :: restore nodes tiles

/-- The nodes pushed apart. Groups stay as they are. -/
def resolve (settings : Settings K) (nodes : List (Node K)) : Outcome (List (Node K)) :=
  let outcome := pushUntilStill settings settings.maxPasses (tiles nodes)
  { outcome with value := restore nodes (intoPage settings.pageMargin outcome.value) }

end Flowchart.Overlap
