import Mathlib.Data.List.Pairwise
import Flowchart.Proofs.Layout.Lanes

/-!
The page: groups below each other, and the other nodes to the right of all groups.

In exact arithmetic the groups of a layout are stacked with a gap between them, each holds its
members, and the nodes outside of all groups keep their distance from the widest group. So what
belongs to different groups, or to a group and to none, shares no point of the page, whatever the
layout of a component returns.

Main definitions: `Tile.Apart`, `Stacked`, `Graph.Partitioned`. Main statement:
`layout_partitioned`.
-/

namespace Flowchart

open Layout (ComponentLayout)
open Overlap (Tile tileOf)

/-! ### Spaces on the page -/

namespace Overlap.Tile

/-- A point lies inside a space or on its edge. -/
structure Covers (tile : Tile Rat) (point : Point Rat) : Prop where
  left : tile.corner.x ≤ point.x
  right : point.x ≤ tile.corner.x + tile.size.width
  top : tile.corner.y ≤ point.y
  bottom : point.y ≤ tile.corner.y + tile.size.height

/-- Two spaces share no point, not even on their edges. -/
def Apart (a b : Tile Rat) : Prop :=
  ∀ point, a.Covers point → ¬ b.Covers point

/-- A space lies inside another one. -/
def Within (a b : Tile Rat) : Prop :=
  ∀ point, a.Covers point → b.Covers point

variable {a b a' b' : Tile Rat}

theorem Apart.symm (apart : a.Apart b) : b.Apart a :=
  fun point inB inA => apart point inA inB

theorem Apart.mono (apart : a.Apart b) (inA : a'.Within a) (inB : b'.Within b) : a'.Apart b' :=
  fun point covered covered' => apart point (inA point covered) (inB point covered')

theorem Within.refl (a : Tile Rat) : a.Within a :=
  fun _ covered => covered

theorem apart_of_left (beside : a.corner.x + a.size.width < b.corner.x) : a.Apart b :=
  fun _ inA inB => absurd (le_trans inB.left inA.right) (not_le_of_gt beside)

theorem apart_of_above (above : a.corner.y + a.size.height < b.corner.y) : a.Apart b :=
  fun _ inA inB => absurd (le_trans inB.top inA.bottom) (not_le_of_gt above)

end Overlap.Tile

/-- The space of a group, of no extent if it has no size. -/
def Node.frame (group : Node Rat) : Tile Rat :=
  ⟨⟨group.x, group.y⟩, ⟨group.width.getD 0, group.height.getD 0⟩⟩

/-- Groups stand below each other at the left margin, from a height on and with gaps between
them. -/
inductive Stacked : Rat → List (Node Rat) → Prop where
  | nil (top : Rat) : Stacked top []
  | cons {top width height : Rat} {group : Node Rat} {groups : List (Node Rat)} (x : group.x = 60)
    (y : group.y = top) (hasWidth : group.width = some width) (wide : 300 ≤ width)
    (hasHeight : group.height = some height) (high : 200 ≤ height)
    (below : Stacked (top + height + 60) groups) : Stacked top (group :: groups)

namespace Graph

variable {K : Type}

/-- The group that a node belongs to: the first one that it names as its parent. -/
def laneOf? (graph : Graph K) (node : Node K) : Option (Node K) :=
  graph.groups.find? fun group => node.parent == some group.id

/-- The space of a node on the page. The position of a node in a group is added to that of the
group. -/
def pageTile (graph : Graph Rat) (node : Node Rat) : Tile Rat :=
  match graph.laneOf? node with
  | none => tileOf node
  | some group => ⟨⟨group.x + node.x, group.y + node.y⟩, node.footprint⟩

/-- A graph whose groups, and the nodes outside of them, take up parts of the page of their own. -/
structure Partitioned (graph : Graph Rat) : Prop where
  stacked : Stacked 60 graph.groups
  /-- The nodes outside of all groups stand to the right of the widest group. -/
  aside : ∀ orphan ∈ Swimlane.orphans graph.groups graph.nodes,
    60 ≤ orphan.y ∧ ∀ group ∈ graph.groups, ∀ width ∈ group.width, 60 + width + 100 ≤ orphan.x
  groups : graph.groups.Pairwise fun group other => group.frame.Apart other.frame
  orphans : ∀ orphan ∈ Swimlane.orphans graph.groups graph.nodes, ∀ group ∈ graph.groups,
    (tileOf orphan).Apart group.frame
  /-- Nodes of different groups, or of a group and of none. -/
  partitions : ∀ node ∈ graph.nodes, ∀ other ∈ graph.nodes, node.isGroup = false →
    other.isGroup = false → graph.laneOf? node ≠ graph.laneOf? other →
      (graph.pageTile node).Apart (graph.pageTile other)

end Graph

/-! ### Stacks -/

namespace Stacked

variable {top : Rat} {groups : List (Node Rat)}

/-- What a group in a stack has. -/
theorem of_mem (stacked : Stacked top groups) {group : Node Rat} (member : group ∈ groups) :
    group.x = 60 ∧ top ≤ group.y ∧ ∃ width height, group.width = some width ∧
      group.height = some height ∧ 300 ≤ width ∧ 200 ≤ height := by
  induction stacked with
  | nil => cases member
  | cons x y hasWidth wide hasHeight high below ih =>
      rcases List.mem_cons.mp member with rfl | later
      · exact ⟨x, y.ge, _, _, hasWidth, hasHeight, wide, high⟩
      · obtain ⟨atMargin, under, sized⟩ := ih later
        exact ⟨atMargin, by linarith, sized⟩

/-- Groups that are stacked share no point. -/
theorem pairwise_apart (stacked : Stacked top groups) :
    groups.Pairwise fun group other => group.frame.Apart other.frame := by
  induction stacked with
  | nil => exact .nil
  | cons x y hasWidth wide hasHeight high below ih =>
      refine .cons (fun other later => Overlap.Tile.apart_of_above ?_) ih
      obtain ⟨-, under, -⟩ := below.of_mem later
      simp only [Node.frame, y, hasHeight, Option.getD_some]
      linarith

end Stacked

namespace Swimlane

theorem stacked_shelve (top : Rat) {lanes : List (Node Rat × Lane Rat)}
    (sized : ∀ lane ∈ lanes, 300 ≤ lane.2.size.width ∧ 200 ≤ lane.2.size.height) :
    Stacked top ((shelve top lanes).map Prod.fst) := by
  induction lanes generalizing top with
  | nil => exact .nil top
  | cons first lanes ih =>
      rw [List.forall_mem_cons] at sized
      have below := ih (top + (first.2.size.height + 60)) sized.2
      rw [← add_assoc] at below
      refine .cons rfl rfl rfl sized.1.1 rfl sized.1.2 ?_
      rw [Page.groupGap_rat, ← add_assoc]
      exact below

/-- Also without members a lane has the least size of groups. -/
theorem least_le_lane (layout : ComponentLayout Rat) (options : LayoutOptions Rat)
    (edges : List Edge) (members : List (Node Rat)) :
    300 ≤ (lane layout options edges members).size.width ∧
      200 ≤ (lane layout options edges members).size.height := by
  by_cases empty : members = []
  · subst empty
    exact ⟨le_refl _, le_refl _⟩
  · have snug := lane_snug layout options edges empty
    exact ⟨snug.width.1.1, snug.height.1.1⟩

/-- The members of a snug lane lie inside its group. -/
theorem Lane.Snug.within {lane : Lane Rat} (snug : lane.Snug) (height : Rat) (group : Node Rat)
    {node : Node Rat} (member : node ∈ lane.members) :
    Tile.Within
      ⟨⟨(standing height group lane).x + node.x, (standing height group lane).y + node.y⟩,
        node.footprint⟩
      (standing height group lane).frame := by
  have left := snug.left node member
  have top := snug.top node member
  have right := snug.width.1.2 node member
  have bottom := snug.height.1.2 node member
  rintro point ⟨beyond, before, below, above⟩
  change 60 + node.x ≤ point.x at beyond
  change point.x ≤ 60 + node.x + node.footprint.width at before
  change height + node.y ≤ point.y at below
  change point.y ≤ height + node.y + node.footprint.height at above
  constructor
  case left =>
    change 60 ≤ point.x
    linarith
  case right =>
    change point.x ≤ 60 + lane.size.width
    linarith
  case top =>
    change height ≤ point.y
    linarith
  case bottom =>
    change point.y ≤ height + lane.size.height
    linarith

end Swimlane

/-! ### Layouts -/

namespace Graph

section Layouts

variable {graph : Graph Rat} (layout : ComponentLayout Rat) (options : LayoutOptions Rat)

/-- The parts of a layout with groups. -/
theorem layout_parts (distinct : (graph.nodes.map Node.id).Nodup) (grouped : graph.groups ≠ []) :
    (graph.layout layout options).groups = (graph.shelves layout options).map Prod.fst ∧
      Swimlane.orphans (graph.layout layout options).groups (graph.layout layout options).nodes =
        graph.placedOrphans layout options ∧
      ∀ shelf ∈ graph.shelves layout options,
        Swimlane.membersOf (graph.layout layout options).nodes shelf.1 = shelf.2 := by
  have shelved := shelved layout options distinct
  have nodes := layout_nodes layout options grouped
  have isGroups : (graph.layout layout options).groups =
      (graph.shelves layout options).map Prod.fst := by
    rw [groups, nodes, shelved.filter_isGroup]
  refine ⟨isGroups, ?_, fun shelf listed => ?_⟩
  · rw [isGroups, nodes, shelved.orphans_inOrder]
  · rw [nodes, shelved.membersOf_inOrder listed]

/-- The groups of a layout are stacked from the upper margin on. -/
theorem stacked_shelves :
    Stacked 60 ((graph.shelves layout options).map Prod.fst) := by
  refine Swimlane.stacked_shelve 60 fun lane listed => ?_
  obtain ⟨group, _, rfl⟩ := List.mem_map.mp listed
  exact Swimlane.least_le_lane layout options graph.edges _

/-- The members of a group lie inside it. -/
theorem within_frame {shelf : Node Rat × List (Node Rat)}
    (listed : shelf ∈ graph.shelves layout options) {node : Node Rat} (member : node ∈ shelf.2) :
    Tile.Within ⟨⟨shelf.1.x + node.x, shelf.1.y + node.y⟩, node.footprint⟩ shelf.1.frame := by
  obtain ⟨height, group, _, rfl⟩ := mem_shelves layout options listed
  have inhabited : Swimlane.membersOf graph.nodes group ≠ [] := by
    intro empty
    rw [lane, empty] at member
    cases member
  exact (Swimlane.lane_snug layout options graph.edges inhabited).within height group member

/-- The nodes outside of all groups keep their distance from every group. -/
theorem le_placedOrphans {orphan : Node Rat}
    (isOrphan : orphan ∈ graph.placedOrphans layout options) :
    60 ≤ orphan.y ∧ ∀ shelf ∈ graph.shelves layout options, ∀ width ∈ shelf.1.width,
      60 + width + 100 ≤ orphan.x := by
  obtain ⟨atX, atY⟩ := Swimlane.corner_le_placeNodes layout options graph.edges isOrphan
  refine ⟨atY, fun shelf listed width isWidth => ?_⟩
  obtain ⟨height, lane, isLane, rfl⟩ := Swimlane.mem_shelve listed
  cases isWidth
  have widest : lane.2.size.width ≤ Scalar.greatestOf Scalar.zero
      ((graph.lanes layout options).map fun lane => lane.2.size.width) :=
    (Scalar.isGreatest_greatestOf _ _).2 (List.mem_cons_of_mem _ (List.mem_map_of_mem isLane))
  rw [orphanCorner, Scalar.greatest_rat] at atX
  have wider := le_max_of_le_left widest (c := Page.groupLeast.width)
  change 60 + max _ Page.groupLeast.width + 100 ≤ orphan.x at atX
  linarith

/-- A group ends before the nodes outside of all groups begin. -/
theorem placedOrphans_apart {orphan : Node Rat}
    (isOrphan : orphan ∈ graph.placedOrphans layout options)
    {shelf : Node Rat × List (Node Rat)} (listed : shelf ∈ graph.shelves layout options) :
    (tileOf orphan).Apart shelf.1.frame := by
  obtain ⟨-, distant⟩ := le_placedOrphans layout options isOrphan
  obtain ⟨atMargin, -, width, _, hasWidth, _⟩ :=
    (stacked_shelves layout options).of_mem (List.mem_map_of_mem listed)
  have space := distant shelf listed width hasWidth
  refine (Tile.apart_of_left ?_).symm
  simp only [Node.frame, tileOf, atMargin, hasWidth, Option.getD_some]
  linarith

/-- A node of a layout that is no group is outside of all groups, or it belongs to a group and lies
inside it. -/
theorem pageTile_layout (distinct : (graph.nodes.map Node.id).Nodup) (grouped : graph.groups ≠ [])
    {node : Node Rat} (member : node ∈ (graph.layout layout options).nodes)
    (plain : node.isGroup = false) :
    ((graph.layout layout options).laneOf? node = none ∧
        (graph.layout layout options).pageTile node = tileOf node ∧
        node ∈ graph.placedOrphans layout options) ∨
      ∃ shelf ∈ graph.shelves layout options,
        (graph.layout layout options).laneOf? node = some shelf.1 ∧
          ((graph.layout layout options).pageTile node).Within shelf.1.frame := by
  obtain ⟨isGroups, areOrphans, members⟩ := layout_parts layout options distinct grouped
  cases found : (graph.layout layout options).laneOf? node with
  | none =>
      refine Or.inl ⟨rfl, by rw [pageTile, found], ?_⟩
      have foreign : (graph.layout layout options).groups.any
          (fun group => node.parent == some group.id) = false := by
        rw [List.any_eq_false]
        exact List.find?_eq_none.mp found
      rw [← areOrphans]
      exact List.mem_filter.mpr ⟨member, by simp [plain, foreign]⟩
  | some group =>
      have listed := List.mem_of_find?_eq_some found
      have named : (node.parent == some group.id) = true := by
        simpa using List.find?_some found
      rw [isGroups] at listed
      obtain ⟨shelf, onShelf, rfl⟩ := List.mem_map.mp listed
      have isMember : node ∈ shelf.2 := by
        rw [← members shelf onShelf]
        exact List.mem_filter.mpr ⟨member, by simp [plain, named]⟩
      refine Or.inr ⟨shelf, onShelf, rfl, ?_⟩
      rw [pageTile, found]
      exact within_frame layout options onShelf isMember

/-- In a layout with groups these keep their order, and the parts of the page that belong to a group
or to none are apart. -/
theorem layout_partitioned (distinct : (graph.nodes.map Node.id).Nodup)
    (grouped : graph.groups ≠ []) :
    (graph.layout layout options).groups.map Node.id = graph.groups.map Node.id ∧
      (graph.layout layout options).Partitioned := by
  obtain ⟨isGroups, areOrphans, members⟩ := layout_parts layout options distinct grouped
  have stacked : Stacked 60 ((graph.shelves layout options).map Prod.fst) :=
    stacked_shelves layout options
  refine ⟨?_, ?_⟩
  · rw [isGroups, List.map_map]
    exact (Swimlane.map_id_shelve _ _).trans (List.map_map)
  constructor
  case stacked => exact isGroups ▸ stacked
  case aside =>
    rw [areOrphans, isGroups]
    intro orphan isOrphan
    obtain ⟨below, distant⟩ := le_placedOrphans layout options isOrphan
    exact ⟨below, List.forall_mem_map.mpr distant⟩
  case groups => exact isGroups ▸ stacked.pairwise_apart
  case orphans =>
    rw [areOrphans, isGroups]
    intro orphan isOrphan
    exact List.forall_mem_map.mpr fun shelf listed =>
      placedOrphans_apart layout options isOrphan listed
  case partitions =>
    intro node member other member' plain plain' differs
    rcases pageTile_layout layout options distinct grouped member plain with
      ⟨outside, atOwn, isOrphan⟩ | ⟨shelf, listed, inside, within⟩
    · rcases pageTile_layout layout options distinct grouped member' plain' with
        ⟨outside', -, -⟩ | ⟨shelf', listed', -, within'⟩
      · exact absurd (outside.trans outside'.symm) differs
      · rw [atOwn]
        exact (placedOrphans_apart layout options isOrphan listed').mono (.refl _) within'
    · rcases pageTile_layout layout options distinct grouped member' plain' with
        ⟨-, atOwn', isOrphan'⟩ | ⟨shelf', listed', inside', within'⟩
      · rw [atOwn']
        exact (placedOrphans_apart layout options isOrphan' listed).symm.mono within (.refl _)
      · have separate : shelf.1 ≠ shelf'.1 := by
          rw [inside, inside'] at differs
          exact fun same => differs (congrArg some same)
        have symmetric : Std.Symm fun group other : Node Rat => group.frame.Apart other.frame :=
          ⟨fun _ _ => Tile.Apart.symm⟩
        have apart := stacked.pairwise_apart.forall (List.mem_map_of_mem listed)
          (List.mem_map_of_mem listed') separate
        exact apart.mono within within'

end Layouts

theorem layout_partitioned_backendGraph :
    (backendGraph.nodes.map Node.id).Nodup ∧ backendGraph.groups ≠ [] ∧
      (backendGraph.layout (fun _ _ _ => [⟨7, -5⟩]) .standard).groups.map Node.id =
        ["backend", "empty"] ∧
      (backendGraph.layout (fun _ _ _ => [⟨7, -5⟩]) .standard).Partitioned := by
  have distinct : (backendGraph.nodes.map Node.id).Nodup := by decide
  have grouped : backendGraph.groups ≠ [] := List.cons_ne_nil _ _
  obtain ⟨ids, partitioned⟩ :=
    layout_partitioned (fun _ _ _ => [⟨7, -5⟩]) .standard distinct grouped
  exact ⟨distinct, grouped, ids, partitioned⟩

end Graph

end Flowchart
