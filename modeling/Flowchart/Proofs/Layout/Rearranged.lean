import Mathlib.Data.List.Perm.Basic
import Flowchart.Layout.Swimlane

/-!
What geometry leaves alone. Layout, removal of overlaps and moves change the positions of nodes and
the sizes of groups, and the order of the nodes at most.

Main definition: `Graph.Rearranged`. Main results: `Graph.map_still_layout`, which also gives the
order, and one lemma `Graph.rearranged_…` per operation.
-/

namespace Flowchart

open Layout (ComponentLayout)

variable {K : Type} [Scalar K]

/-! ### Nodes apart from their geometry -/

/-- A node without what geometry decides: its position, and the size if it is a group. -/
def Node.still (node : Node K) : Node K :=
  { node with
    x := Scalar.zero
    y := Scalar.zero
    width := if node.isGroup then none else node.width
    height := if node.isGroup then none else node.height }

/-- A graph with the same nodes up to their geometry and order, and all else equal. -/
structure Graph.Rearranged (before after : Graph K) : Prop where
  nodes : (after.nodes.map Node.still).Perm (before.nodes.map Node.still)
  edges : after.edges = before.edges
  direction : after.direction = before.direction

theorem Node.footprint_movedTo (node : Node K) (x y : K) :
    (node.movedTo x y).footprint = node.footprint :=
  rfl

/-- Moving a node changes nothing but where it stands. -/
theorem Node.still_movedTo (node : Node K) (x y : K) : (node.movedTo x y).still = node.still :=
  rfl

/-- Placing a group and giving it a size changes nothing else. -/
theorem Node.still_sized {group : Node K} (isGroup : group.isGroup = true) (x y : K)
    (width height : Option K) :
    ({ group with x := x, y := y, width := width, height := height } : Node K).still =
      group.still := by
  have sized : ({ group with x := x, y := y, width := width, height := height } :
      Node K).isGroup = true := isGroup
  simp [still, isGroup, sized]

theorem Node.map_id_still (nodes : List (Node K)) :
    (nodes.map still).map id = nodes.map id := by
  rw [List.map_map]
  rfl

/-- Nodes that differ in their geometry only have the same place in the graph. -/
theorem Node.alike_of_still {node other : Node K} (same : node.still = other.still) :
    node.id = other.id ∧ node.isGroup = other.isGroup ∧ node.parent = other.parent :=
  ⟨(congrArg Node.id same :), (congrArg Node.isGroup same :), (congrArg Node.parent same :)⟩

/-- If nodes agree up to order and geometry, each has a partner among the others. -/
theorem Node.exists_still {nodes others : List (Node K)}
    (perm : (nodes.map still).Perm (others.map still)) {node : Node K} (member : node ∈ nodes) :
    ∃ other ∈ others, node.still = other.still := by
  have listed := perm.mem_iff.mp (List.mem_map_of_mem member)
  obtain ⟨other, isOther, same⟩ := List.mem_map.mp listed
  exact ⟨other, isOther, same.symm⟩

namespace Graph.Rearranged

variable {before after : Graph K}

/-- Rearranging can be undone. -/
theorem symm (arranged : before.Rearranged after) : after.Rearranged before :=
  ⟨arranged.nodes.symm, arranged.edges.symm, arranged.direction.symm⟩

/-- Rearranging keeps the ids up to their order. -/
theorem map_id_nodes (arranged : before.Rearranged after) :
    (after.nodes.map Node.id).Perm (before.nodes.map Node.id) := by
  have ids := arranged.nodes.map Node.id
  rwa [Node.map_id_still, Node.map_id_still] at ids

end Graph.Rearranged

namespace Swimlane

variable (layout : ComponentLayout K) (options : LayoutOptions K) (edges : List Edge)

/-- Placing nodes keeps everything but their geometry. -/
theorem map_still_placeNodes (corner : Point K) (members : List (Node K)) :
    (placeNodes layout options edges corner members).map Node.still =
      members.map Node.still := by
  rw [placeNodes, List.map_map]
  refine List.map_congr_left fun node _ => ?_
  simp only [Function.comp_apply]
  split
  case h_1 => rfl
  case h_2 => rfl

/-- Filling a lane keeps everything but the geometry of its members. -/
theorem map_still_lane (members : List (Node K)) :
    (lane layout options edges members).members.map Node.still = members.map Node.still := by
  unfold lane
  split
  case isTrue empty =>
    rw [List.isEmpty_iff.mp empty]
  case isFalse =>
    rw [List.map_map, ← map_still_placeNodes layout options edges ⟨Scalar.zero, Scalar.zero⟩]
    exact List.map_congr_left fun node _ => Node.still_movedTo node _ _

/-- Stacking keeps the order of groups and members. -/
theorem map_still_stack (top : K) {lanes : List (Node K × Lane K)}
    (groups : ∀ lane ∈ lanes, lane.1.isGroup = true) :
    (stack top lanes).map Node.still =
      lanes.flatMap fun lane => lane.1.still :: lane.2.members.map Node.still := by
  induction lanes generalizing top with
  | nil => rfl
  | cons first lanes ih =>
      obtain ⟨group, lane⟩ := first
      have later := ih (top + (lane.size.height + Page.groupGap))
        fun lane member => groups lane (List.mem_cons_of_mem _ member)
      rw [stack, List.flatMap_cons, ← later, List.map_append, List.map_cons,
        Node.still_sized (groups _ List.mem_cons_self)]

/-! ### The order of a layout -/

/-- Nodes in the order of their layout: each group followed by its members, then those outside of
all groups. -/
def order (groups nodes : List (Node K)) : List (Node K) :=
  groups.flatMap (fun group => group :: membersOf nodes group) ++ orphans groups nodes

omit [Scalar K] in
/-- Items taken out by key, for each of several keys, and the items with no such key are all
items. -/
theorem perm_of_keys {α : Type} (key : α → Option String) {names : List String}
    (distinct : names.Nodup) (items : List α) :
    (names.flatMap (fun name => items.filter fun item => key item == some name) ++
      items.filter fun item => !names.any fun name => key item == some name).Perm items := by
  induction names generalizing items with
  | nil => simp
  | cons first names ih =>
      rw [List.nodup_cons] at distinct
      have taken := ih distinct.2 (items.filter fun item => !(key item == some first))
      -- what carries a later name does not carry the first one
      have kept : names.flatMap (fun name =>
            (items.filter fun item => !(key item == some first)).filter fun item =>
              key item == some name) =
          names.flatMap fun name => items.filter fun item => key item == some name := by
        refine List.flatMap_congr fun name member => ?_
        rw [List.filter_filter]
        refine List.filter_congr fun item _ => ?_
        by_cases named : key item = some name
        · have other : name ≠ first := fun same => distinct.1 (same ▸ member)
          simp [named, other]
        · simp [named]
      rw [kept, List.filter_filter] at taken
      rw [List.flatMap_cons, List.append_assoc]
      refine List.Perm.trans (List.Perm.append_left _ ?_)
        (List.filter_append_perm (fun item => key item == some first) items)
      refine List.Perm.trans (List.Perm.append_left _ (List.Perm.of_eq ?_)) taken
      refine List.filter_congr fun item _ => ?_
      simp [Bool.and_comm]

open scoped List in
omit [Scalar K] in
/-- The order of a layout holds every node once. -/
theorem order_perm {nodes : List (Node K)} (distinct : (nodes.map Node.id).Nodup) :
    (order (nodes.filter Node.isGroup) nodes).Perm nodes := by
  let groups := nodes.filter Node.isGroup
  let plain := nodes.filter fun node => !node.isGroup
  have names : (groups.map Node.id).Nodup :=
    distinct.sublist (List.Sublist.map Node.id List.filter_sublist)
  have members : ∀ group, membersOf nodes group =
      plain.filter fun node => node.parent == some group.id := by
    intro group
    rw [membersOf, List.filter_filter]
    exact List.filter_congr fun node _ => Bool.and_comm _ _
  have outside : orphans groups nodes =
      plain.filter fun node => !(groups.map Node.id).any fun name => node.parent == some name := by
    rw [orphans, List.filter_filter]
    refine List.filter_congr fun node _ => ?_
    rw [List.any_map, Bool.and_comm]
    rfl
  have inGroups : (groups.flatMap fun group => group :: membersOf nodes group).Perm
      (groups ++ groups.flatMap (membersOf nodes)) := by
    have split := List.map_append_flatMap_perm groups id (membersOf nodes)
    rw [List.map_id] at split
    exact split.symm
  have parted : (groups.flatMap (membersOf nodes) ++ orphans groups nodes).Perm plain := by
    have taken := perm_of_keys Node.parent names plain
    rw [List.flatMap_map] at taken
    rw [outside, List.flatMap_congr fun group _ => members group]
    exact taken
  calc order groups nodes
    _ ~ (groups ++ groups.flatMap (membersOf nodes)) ++ orphans groups nodes :=
        inGroups.append_right _
    _ = groups ++ (groups.flatMap (membersOf nodes) ++ orphans groups nodes) :=
        List.append_assoc _ _ _
    _ ~ groups ++ plain := parted.append_left _
    _ ~ nodes := List.filter_append_perm Node.isGroup nodes

end Swimlane

/-! ### Removal of overlaps -/

namespace Overlap

theorem map_still_restore (nodes : List (Node K)) (tiles : List (Tile K)) :
    (restore nodes tiles).map Node.still = nodes.map Node.still := by
  fun_induction restore nodes tiles with
  | case1 => rfl
  | case2 node nodes tiles isGroup ih => rw [List.map_cons, ih, List.map_cons]
  | case3 => rfl
  | case4 node nodes isPlain tile tiles ih =>
      rw [List.map_cons, ih, List.map_cons, Node.still_movedTo]

/-- Pushing nodes apart keeps everything but their geometry. -/
theorem map_still_resolve (settings : Settings K) (nodes : List (Node K)) :
    (resolve settings nodes).value.map Node.still = nodes.map Node.still :=
  map_still_restore nodes _

end Overlap

/-! ### Graphs -/

namespace Graph

omit [Scalar K] in
theorem isGroup_of_mem_groups {graph : Graph K} {group : Node K} (member : group ∈ graph.groups) :
    group.isGroup = true :=
  (List.mem_filter.mp member).2

/-- The nodes of a graph in the order of its layout. -/
def order (graph : Graph K) : List (Node K) :=
  if graph.groups.isEmpty then graph.nodes else Swimlane.order graph.groups graph.nodes

/-- A layout puts the nodes in order and changes nothing but their geometry. -/
theorem map_still_layout (layout : ComponentLayout K) (options : LayoutOptions K)
    (graph : Graph K) :
    (graph.layout layout options).nodes.map Node.still = graph.order.map Node.still := by
  unfold Graph.layout order
  split
  case isTrue empty =>
    have none : graph.nodes = [] := List.isEmpty_iff.mp empty
    simp [groups, none]
  case isFalse =>
    split
    case isTrue =>
      have placed := Swimlane.map_still_placeNodes layout options graph.edges
        ⟨Page.margin, Page.margin⟩ graph.nodes
      split
      case isTrue => exact (Overlap.map_still_resolve .standard _).trans placed
      case isFalse => exact placed
    case isFalse =>
      have areGroups : ∀ lane ∈ graph.groups.map fun group =>
          (group, Swimlane.lane layout options graph.edges
            (Swimlane.membersOf graph.nodes group)), lane.1.isGroup = true := by
        intro lane member
        obtain ⟨group, listed, rfl⟩ := List.mem_map.mp member
        exact isGroup_of_mem_groups listed
      simp only [layoutLanes, Swimlane.order, List.map_append, List.map_flatMap, List.map_cons,
        Swimlane.map_still_stack _ areGroups, Swimlane.map_still_placeNodes, List.flatMap_map,
        Swimlane.map_still_lane]

/-- The layout of a graph with distinct ids is a rearrangement of it. -/
theorem rearranged_layout (layout : ComponentLayout K) (options : LayoutOptions K)
    {graph : Graph K} (distinct : (graph.nodes.map Node.id).Nodup) :
    graph.Rearranged (graph.layout layout options) := by
  have perm : graph.order.Perm graph.nodes := by
    unfold order
    split
    case isTrue => exact List.Perm.refl _
    case isFalse => exact Swimlane.order_perm distinct
  constructor
  case nodes =>
    rw [map_still_layout]
    exact perm.map Node.still
  case edges => unfold Graph.layout; split <;> [rfl; split <;> rfl]
  case direction => unfold Graph.layout; split <;> [rfl; split <;> rfl]

/-- Pushing the nodes of a graph apart is a rearrangement of it. -/
theorem rearranged_resolve (settings : Overlap.Settings K) (graph : Graph K) :
    graph.Rearranged { graph with nodes := (Overlap.resolve settings graph.nodes).value } :=
  ⟨.of_eq (Overlap.map_still_resolve settings graph.nodes), rfl, rfl⟩

/-- Moving a node is a rearrangement of the graph. -/
theorem rearranged_moveNode (graph : Graph K) (id : String) (x y : K) :
    graph.Rearranged (graph.moveNode id x y) := by
  refine ⟨.of_eq ?_, rfl, rfl⟩
  show (moveNode.move id x y graph.nodes).map Node.still = graph.nodes.map Node.still
  induction graph.nodes with
  | nil => rfl
  | cons node nodes ih =>
      rw [moveNode.move]
      split
      case isTrue => rw [List.map_cons, List.map_cons, Node.still_movedTo]
      case isFalse => rw [List.map_cons, List.map_cons, ih]

end Graph

end Flowchart
