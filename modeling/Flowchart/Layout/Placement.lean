import Flowchart.Geometry.Scalar
import Flowchart.Keyed
import Flowchart.Layout.Components
import Flowchart.Layout.Direction

/-!
Placement of boxes that edges connect. Each connected component is laid out on its own; the
components stand side by side across the direction of flow, and the whole drawing is moved to its
margins.
-/

namespace Flowchart.Layout

/-- A connected component to lay out: boxes, and edges between them by position. -/
structure Component (K : Type) where
  sizes : List (Size K)
  edges : List (Nat × Nat)
deriving Repr, Inhabited

/-- Finds the centers of the boxes of a component, for edges that point down the page, from the
spacing within a rank and the spacing between ranks. -/
abbrev ComponentLayout (K : Type) := Component K → K → K → List (Point K)

/-- How to place boxes. -/
structure PlacementOptions (K : Type) where
  direction : Direction
  nodeSpacing : K
  rankSpacing : K
  marginX : K
  marginY : K
deriving Repr, Inhabited

/-- The edges between different known ids, each once. -/
def properEdges (ids : List String) (edges : List (String × String)) : List (String × String) :=
  (edges.filter fun edge =>
    edge.1 != edge.2 && ids.contains edge.1 && ids.contains edge.2).eraseDups

variable {K : Type} [Scalar K]

/-- A size with width and height exchanged. -/
def turned (size : Size K) : Size K := ⟨size.height, size.width⟩

/-- A box with its id, center and size. -/
structure Box (K : Type) where
  id : String
  center : Point K
  size : Size K
deriving Repr, Inhabited

namespace Box

/-- The left edge of a box. -/
def left (box : Box K) : K := box.center.x - Scalar.half box.size.width

/-- The right edge of a box. -/
def right (box : Box K) : K := box.center.x + Scalar.half box.size.width

/-- The upper edge of a box. -/
def top (box : Box K) : K := box.center.y - Scalar.half box.size.height

end Box

/-- The smallest value of a function on a list, zero if the list is empty. -/
def smallest {α : Type} (value : α → K) : List α → K
  | [] => Scalar.zero
  | item :: items => Scalar.leastOf (value item) (items.map value)

/-- The greatest value of a function on a list, zero if the list is empty. -/
def largest {α : Type} (value : α → K) : List α → K
  | [] => Scalar.zero
  | item :: items => Scalar.greatestOf (value item) (items.map value)

/-- The boxes of a component where its layout puts them. A box that the layout leaves out stands at
the origin. -/
def componentBoxes (layout : ComponentLayout K) (sizes : Keyed (Size K))
    (edges : List (String × String)) (nodeSpacing rankSpacing : K) (ids : List String) :
    List (Box K) :=
  let sizeOf := fun id => (Keyed.find? id sizes).getD default
  let inside := edges.filter fun edge => ids.contains edge.1
  let centers := layout
    ⟨ids.map sizeOf, inside.map fun edge => (ids.idxOf edge.1, ids.idxOf edge.2)⟩
    nodeSpacing rankSpacing
  ids.mapIdx fun position id => ⟨id, centers.getD position ⟨Scalar.zero, Scalar.zero⟩, sizeOf id⟩

/-- Components side by side: each starts at the cursor, with its upper edge at zero, and the next
one starts after it and a gap. -/
def pack (gap : K) : K → List (List (Box K)) → List (String × Point K)
  | _, [] => []
  | cursor, boxes :: rest =>
    let left := smallest Box.left boxes
    let right := largest Box.right boxes
    let top := smallest Box.top boxes
    boxes.map (fun box => (box.id, ⟨box.center.x - left + cursor, box.center.y - top⟩)) ++
      pack gap (cursor + (right - left + gap)) rest

/-- A point of a drawing that grows downwards, in a drawing that grows in a direction. -/
def orient (direction : Direction) (point : Point K) : Point K :=
  match direction with
  | .down => point
  | .up => ⟨point.x, -point.y⟩
  | .right => ⟨point.y, point.x⟩
  | .left => ⟨-point.y, point.x⟩

/-- Move a drawing so that its left and upper edges stand at the margins. -/
def flush (marginX marginY : K) (sizes : Keyed (Size K)) (centers : List (String × Point K)) :
    Keyed (Point K) :=
  let boxes : List (Box K) := centers.map fun entry =>
    ⟨entry.1, entry.2, (Keyed.find? entry.1 sizes).getD default⟩
  let dx := marginX - smallest Box.left boxes
  let dy := marginY - smallest Box.top boxes
  centers.map fun entry => (entry.1, ⟨entry.2.x + dx, entry.2.y + dy⟩)

/-- The centers of all boxes. -/
def place (layout : ComponentLayout K) (options : PlacementOptions K) (sizes : Keyed (Size K))
    (edges : List (String × String)) : Keyed (Point K) :=
  let proper := properEdges sizes.keys edges
  let upright := if options.direction.isHorizontal
    then sizes.map fun entry => (entry.1, turned entry.2)
    else sizes
  let placed := (components proper sizes.keys).map
    (componentBoxes layout upright proper options.nodeSpacing options.rankSpacing)
  flush options.marginX options.marginY sizes
    ((pack options.nodeSpacing Scalar.zero placed).map fun entry =>
      (entry.1, orient options.direction entry.2))

end Flowchart.Layout
