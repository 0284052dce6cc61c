import Flowchart.Geometry.Pairs
import Flowchart.Layout.Options

/-!
Diagnostics of a layout: how many edges cross, and which nodes stand too close together. Both are
measured on the page, where the members of a group stand at the group's position plus their own.
-/

namespace Flowchart.Metrics

variable {K : Type} [Scalar K]

/-- The position of a node on the page, by the groups of its graph. Of groups with the same id the
last one counts. -/
def pagePosition (groups : List (Node K)) (node : Node K) : Point K :=
  let parent := (node.parent.filter fun id => !id.isEmpty).bind fun id =>
    groups.reverse.find? fun group => group.id == id
  match parent with
  | some group =>
    if node.isGroup then ⟨node.x, node.y⟩ else ⟨group.x + node.x, group.y + node.y⟩
  | none => ⟨node.x, node.y⟩

/-- The top left corner of every node on the page. -/
def pagePositions (graph : Graph K) : Keyed (Point K) :=
  Keyed.ofPairs (graph.nodes.map fun node => (node.id, pagePosition graph.groups node))

/-- The space that a node takes on the page; groups say themselves how large they are. -/
def extent (node : Node K) : Size K :=
  if node.isGroup then ⟨node.width.getD Scalar.zero, node.height.getD Scalar.zero⟩
  else node.footprint

/-- The position under an id, the origin if there is none. -/
def position (positions : Keyed (Point K)) (id : String) : Point K :=
  (Keyed.find? id positions).getD ⟨Scalar.zero, Scalar.zero⟩

/-- The center of every node on the page. -/
def pageCenters (graph : Graph K) : Keyed (Point K) :=
  let positions := pagePositions graph
  Keyed.ofPairs (graph.nodes.map fun node =>
    let corner := position positions node.id
    let size := extent node
    (node.id, ⟨corner.x + Scalar.half size.width, corner.y + Scalar.half size.height⟩))

/-! ### Crossings -/

/-- Whether two points coincide. -/
def coincide (p q : Point K) : Bool :=
  p.x == q.x && p.y == q.y

/-- The straight line between two points. -/
structure Segment (K : Type) where
  start : Point K
  stop : Point K
deriving Repr, Inhabited

/-- Whether the way from the first point over the second to the third turns to the side of growing
angles. -/
def turns (a b c : Point K) : Bool :=
  decide ((b.y - a.y) * (c.x - a.x) < (c.y - a.y) * (b.x - a.x))

/-- Whether two segments that share no end point cross: the ends of each lie on different sides of
the other. -/
def cross (a b : Segment K) : Bool :=
  !(coincide a.start b.start || coincide a.start b.stop ||
      coincide a.stop b.start || coincide a.stop b.stop) &&
    turns a.start b.start b.stop != turns a.stop b.start b.stop &&
    turns a.start a.stop b.start != turns a.start a.stop b.stop

/-- The edges as segments from center to center. Edges without length are left out. -/
def segments (graph : Graph K) : List (Segment K) :=
  let centers := pageCenters graph
  graph.edges.filterMap fun edge =>
    match Keyed.find? edge.source centers, Keyed.find? edge.target centers with
    | some start, some stop => if coincide start stop then none else some ⟨start, stop⟩
    | _, _ => none

/-- The number of pairs of edges that cross. -/
def edgeCrossings (graph : Graph K) : Nat :=
  (pairs (segments graph)).countP fun pair => cross pair.1 pair.2

/-! ### Crowding -/

/-- The distance below which nodes crowd each other. -/
def crowdingDistance : K := Scalar.ofNat 100

/-- Whether two nodes are closer than a distance. -/
def crowd (positions : Keyed (Point K)) (threshold : K) (a b : Node K) : Bool :=
  let p := position positions a.id
  let q := position positions b.id
  Scalar.shorter (p.x - q.x) (p.y - q.y) threshold

/-- The ids of the nodes that are closer than a distance to another one, groups left aside. -/
def crowdedNodes (threshold : K) (graph : Graph K) : List String :=
  let positions := pagePositions graph
  let nodes := graph.nodes.filter fun node => !node.isGroup
  (((pairs nodes).filter fun pair => crowd positions threshold pair.1 pair.2).flatMap fun pair =>
    [pair.1.id, pair.2.id]).eraseDups

end Flowchart.Metrics
