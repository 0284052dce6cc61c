import Flowchart.Layout.Overlap
import Flowchart.Layout.Placement

/-!
Layout of graphs. Groups are stacked at the left margin of the page, each as large as its members
need, and the nodes outside of all groups stand in a column to their right. A graph without groups
is one drawing.

Main definition: `Graph.layout`. The layout of connected components is a parameter.
-/

namespace Flowchart

namespace Swimlane

open Layout (ComponentLayout)

variable {K : Type} [Scalar K]

/-! ### Placing nodes -/

/-- The edges with both ends among the given nodes. -/
def internalEdges (edges : List Edge) (members : List (Node K)) : List (String × String) :=
  let ids := members.map Node.id
  (edges.filter fun edge => ids.contains edge.source && ids.contains edge.target).map fun edge =>
    (edge.source, edge.target)

/-- Nodes placed by the edges between them, with the upper left corner of their drawing at a point.
A node without a center keeps its position. -/
def placeNodes (layout : ComponentLayout K) (options : LayoutOptions K) (edges : List Edge)
    (corner : Point K) (members : List (Node K)) : List (Node K) :=
  let sizes := Keyed.ofPairs (members.map fun node => (node.id, node.footprint))
  let centers := Layout.place layout
    ⟨options.direction, options.nodeSpacing, options.rankSpacing, corner.x, corner.y⟩ sizes
    (internalEdges edges members)
  members.map fun node =>
    match Keyed.find? node.id centers with
    | none => node
    | some center =>
      let size := (Keyed.find? node.id sizes).getD node.footprint
      node.movedTo (center.x - Scalar.half size.width) (center.y - Scalar.half size.height)

/-! ### Groups -/

/-- The size that a group needs, and its members at their positions inside it. -/
structure Lane (K : Type) where
  size : Size K
  members : List (Node K)
deriving Repr, Inhabited

/-- The lane of a group with the given members. -/
def lane (layout : ComponentLayout K) (options : LayoutOptions K) (edges : List Edge)
    (members : List (Node K)) : Lane K :=
  let least : Size K := Page.groupLeast
  if members.isEmpty then ⟨least, []⟩
  else
    let placed := placeNodes layout options edges ⟨Scalar.zero, Scalar.zero⟩ members
    let left := Layout.smallest Node.x placed
    let top := Layout.smallest Node.y placed
    let right := Layout.largest (fun node => node.x + node.footprint.width) placed
    let bottom := Layout.largest (fun node => node.y + node.footprint.height) placed
    let margins : K := Page.groupPadding * Scalar.ofNat 2
    { size :=
        ⟨Scalar.greatest (right - left + margins) least.width,
          Scalar.greatest (bottom - top + margins + Page.groupTitle) least.height⟩
      members := placed.map fun node =>
        node.movedTo (node.x - left + Page.groupPadding)
          (node.y - top + Page.groupPadding + Page.groupTitle) }

/-- The members of a group. -/
def membersOf (nodes : List (Node K)) (group : Node K) : List (Node K) :=
  nodes.filter fun node => !node.isGroup && node.parent == some group.id

/-- The nodes outside of all groups. -/
def orphans (groups nodes : List (Node K)) : List (Node K) :=
  nodes.filter fun node =>
    !node.isGroup && !groups.any fun group => node.parent == some group.id

/-- Groups with their lanes, stacked from a height on. -/
def stack : K → List (Node K × Lane K) → List (Node K)
  | _, [] => []
  | top, (group, lane) :: rest =>
    { group with
      x := Page.margin
      y := top
      width := some lane.size.width
      height := some lane.size.height } ::
      lane.members ++ stack (top + (lane.size.height + Page.groupGap)) rest

end Swimlane

namespace Graph

open Layout (ComponentLayout)

variable {K : Type} [Scalar K]

/-- A graph without groups, placed as one drawing at the margins of the page. -/
def placedFlat (layout : ComponentLayout K) (options : LayoutOptions K) (graph : Graph K) :
    List (Node K) :=
  Swimlane.placeNodes layout options graph.edges ⟨Page.margin, Page.margin⟩ graph.nodes

/-- The nodes of a graph with groups: each group followed by its members, then the other nodes. -/
def layoutLanes (layout : ComponentLayout K) (options : LayoutOptions K) (graph : Graph K) :
    List (Node K) :=
  let lanes := graph.groups.map fun group =>
    (group, Swimlane.lane layout options graph.edges (Swimlane.membersOf graph.nodes group))
  let widest := Scalar.greatestOf Scalar.zero (lanes.map fun lane => lane.2.size.width)
  let orphanX :=
    Page.margin + Scalar.greatest widest Page.groupLeast.width + Page.orphanGap
  Swimlane.stack Page.margin lanes ++
    Swimlane.placeNodes layout options graph.edges ⟨orphanX, Page.margin⟩
      (Swimlane.orphans graph.groups graph.nodes)

/-- A graph with all its nodes positioned. -/
def layout (layout : ComponentLayout K) (options : LayoutOptions K) (graph : Graph K) : Graph K :=
  if graph.nodes.isEmpty then graph
  else if graph.groups.isEmpty then
    let placed := placedFlat layout options graph
    { graph with
      nodes := if options.resolveOverlaps then (Overlap.resolve .standard placed).value
        else placed }
  else { graph with nodes := layoutLanes layout options graph }

/-! ### Events -/

/-- What there is to report about a layout. -/
inductive LayoutEvent where
  | resolverStopped (passes : Nat)
  | lanes (groups orphans : Nat)
deriving Repr, Inhabited, DecidableEq

/-- What there is to report about the layout of a graph. -/
def layoutEvents (layout : ComponentLayout K) (options : LayoutOptions K) (graph : Graph K) :
    List LayoutEvent :=
  if graph.nodes.isEmpty then []
  else if graph.groups.isEmpty then
    let outcome := Overlap.resolve .standard (placedFlat layout options graph)
    if options.resolveOverlaps && !outcome.converged then [.resolverStopped outcome.passes] else []
  else
    [.lanes graph.groups.length (Swimlane.orphans graph.groups graph.nodes).length]

end Graph

end Flowchart
