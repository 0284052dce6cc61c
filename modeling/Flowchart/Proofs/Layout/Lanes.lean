import Mathlib.Tactic.Ring
import Mathlib.Tactic.NormNum
import Flowchart.Proofs.Graph.Canonical
import Flowchart.Proofs.Layout.Placed
import Flowchart.Proofs.Layout.Rearranged

/-!
Lanes: groups with their members inside them.

A layout with groups is a row of shelves, each a group followed by its members, with the nodes
outside of all groups behind them. From such a row the groups, the members of each group and the
other nodes can be told again. In exact arithmetic each group is as small as its members, the
padding and the least size of groups allow, whatever the layout of a component returns.

Main definitions: `Shelved`, `shelve`, `Lane.Snug`. Main statement: `layout_snug`.
-/

namespace Flowchart

open Layout (ComponentLayout)

namespace Swimlane

/-! ### Shelves -/

section Shelves

variable {K : Type}

/-- The nodes of shelves and those outside of them, in the order of a layout. -/
def inOrder (shelves : List (Node K × List (Node K))) (others : List (Node K)) : List (Node K) :=
  shelves.flatMap (fun shelf => shelf.1 :: shelf.2) ++ others

/-- Shelves hold each group with nodes that name it, and the other nodes name no group. -/
structure Shelved (shelves : List (Node K × List (Node K))) (others : List (Node K)) : Prop where
  distinct : (shelves.map fun shelf => shelf.1.id).Nodup
  groups : ∀ shelf ∈ shelves, shelf.1.isGroup = true
  members : ∀ shelf ∈ shelves, ∀ node ∈ shelf.2,
    node.isGroup = false ∧ node.parent = some shelf.1.id
  others : ∀ node ∈ others, node.isGroup = false ∧
    ∀ shelf ∈ shelves, node.parent ≠ some shelf.1.id

/-- Of lists under different keys, the one under a key is all that is under this key. -/
theorem flatMap_of_key {α β : Type} (key : α → String) (items : α → List β) {entries : List α}
    (distinct : (entries.map key).Nodup) {entry : α} (listed : entry ∈ entries) :
    entries.flatMap (fun other => if key entry = key other then items other else []) =
      items entry := by
  induction entries with
  | nil => cases listed
  | cons first entries ih =>
      rw [List.map_cons, List.nodup_cons] at distinct
      rw [List.flatMap_cons]
      rcases List.mem_cons.mp listed with rfl | later
      · have none : entries.flatMap (fun other =>
            if key entry = key other then items other else []) = [] := by
          refine List.flatMap_eq_nil_iff.mpr fun other member => if_neg fun same => ?_
          exact distinct.1 (same ▸ List.mem_map_of_mem member)
        rw [none, if_pos rfl, List.append_nil]
      · have differs : key entry ≠ key first :=
          fun same => distinct.1 (same ▸ List.mem_map_of_mem later)
        rw [if_neg differs, ih distinct.2 later, List.nil_append]

namespace Shelved

variable {shelves : List (Node K × List (Node K))} {others : List (Node K)}

/-- The groups stand in the order of the shelves. -/
theorem filter_isGroup (shelved : Shelved shelves others) :
    (inOrder shelves others).filter Node.isGroup = shelves.map Prod.fst := by
  have onShelf : ∀ shelf ∈ shelves,
      (shelf.1 :: shelf.2).filter Node.isGroup = [shelf.1] := by
    intro shelf listed
    have inner : shelf.2.filter Node.isGroup = [] := by
      refine List.filter_eq_nil_iff.mpr fun node member => ?_
      simp [(shelved.members shelf listed node member).1]
    rw [List.filter_cons_of_pos (shelved.groups shelf listed), inner]
  have outside : others.filter Node.isGroup = [] := by
    refine List.filter_eq_nil_iff.mpr fun node member => ?_
    simp [(shelved.others node member).1]
  rw [inOrder, List.filter_append, List.filter_flatMap, List.flatMap_congr onShelf, outside,
    List.append_nil, List.map_eq_flatMap]

/-- The members of a group are those on its shelf. -/
theorem membersOf_inOrder (shelved : Shelved shelves others) {shelf : Node K × List (Node K)}
    (listed : shelf ∈ shelves) : membersOf (inOrder shelves others) shelf.1 = shelf.2 := by
  have onShelf : ∀ other ∈ shelves,
      (other.1 :: other.2).filter (fun node => !node.isGroup && node.parent == some shelf.1.id) =
        if shelf.1.id = other.1.id then other.2 else [] := by
    intro other isShelf
    rw [List.filter_cons_of_neg (by simp [shelved.groups other isShelf])]
    split
    case isTrue same =>
      refine List.filter_eq_self.mpr fun node member => ?_
      obtain ⟨plain, inside⟩ := shelved.members other isShelf node member
      simp [plain, inside, same]
    case isFalse differs =>
      refine List.filter_eq_nil_iff.mpr fun node member => ?_
      obtain ⟨-, inside⟩ := shelved.members other isShelf node member
      simp [inside, Ne.symm differs]
  have outside : others.filter
      (fun node => !node.isGroup && node.parent == some shelf.1.id) = [] := by
    refine List.filter_eq_nil_iff.mpr fun node member => ?_
    simp [(shelved.others node member).2 shelf listed]
  rw [membersOf, inOrder, List.filter_append, List.filter_flatMap, List.flatMap_congr onShelf,
    outside, List.append_nil]
  exact flatMap_of_key (fun shelf : Node K × List (Node K) => shelf.1.id) Prod.snd
    shelved.distinct listed

/-- The nodes outside of all groups are those outside of the shelves. -/
theorem orphans_inOrder (shelved : Shelved shelves others) :
    orphans (shelves.map Prod.fst) (inOrder shelves others) = others := by
  have onShelf : (shelves.flatMap fun shelf => shelf.1 :: shelf.2).filter (fun node =>
      !node.isGroup &&
        !(shelves.map Prod.fst).any fun group => node.parent == some group.id) = [] := by
    refine List.filter_eq_nil_iff.mpr fun node member => ?_
    obtain ⟨shelf, listed, inside⟩ := List.mem_flatMap.mp member
    rcases List.mem_cons.mp inside with rfl | isMember
    · simp [shelved.groups shelf listed]
    · obtain ⟨plain, named⟩ := shelved.members shelf listed node isMember
      have found : (shelves.map Prod.fst).any (fun group => node.parent == some group.id) :=
        List.any_eq_true.mpr ⟨shelf.1, List.mem_map_of_mem listed, by simp [named]⟩
      simp [found]
  rw [orphans, inOrder, List.filter_append, onShelf, List.nil_append, List.filter_eq_self]
  intro node member
  obtain ⟨plain, foreign⟩ := shelved.others node member
  have outside : (shelves.map Prod.fst).any (fun group => node.parent == some group.id) =
      false := by
    rw [List.any_map, List.any_eq_false]
    intro shelf listed
    simpa using foreign shelf listed
  simp [plain, outside]

end Shelved

end Shelves

/-! ### The shelves of a layout -/

section Layouts

variable {K : Type} [Scalar K]

/-- A group at the left margin of the page, as large as its lane. -/
def standing (top : K) (group : Node K) (lane : Lane K) : Node K :=
  { group with
    x := Page.margin
    y := top
    width := some lane.size.width
    height := some lane.size.height }

/-- The groups of lanes, stacked from a height on, each with its members. -/
def shelve : K → List (Node K × Lane K) → List (Node K × List (Node K))
  | _, [] => []
  | top, (group, lane) :: rest =>
    (standing top group lane, lane.members) ::
      shelve (top + (lane.size.height + Page.groupGap)) rest

theorem stack_eq (top : K) (lanes : List (Node K × Lane K)) :
    stack top lanes = (shelve top lanes).flatMap fun shelf => shelf.1 :: shelf.2 := by
  induction lanes generalizing top with
  | nil => rfl
  | cons first lanes ih =>
      rw [stack, ih]
      rfl

theorem map_id_shelve (top : K) (lanes : List (Node K × Lane K)) :
    (shelve top lanes).map (fun shelf => shelf.1.id) = lanes.map fun lane => lane.1.id := by
  induction lanes generalizing top with
  | nil => rfl
  | cons first lanes ih =>
      rw [shelve, List.map_cons, List.map_cons, ih]
      rfl

/-- What stands on the shelves is what the lanes say. -/
theorem mem_shelve {top : K} {lanes : List (Node K × Lane K)} {shelf : Node K × List (Node K)}
    (member : shelf ∈ shelve top lanes) :
    ∃ height, ∃ lane ∈ lanes, shelf = (standing height lane.1 lane.2, lane.2.members) := by
  induction lanes generalizing top with
  | nil => cases member
  | cons first lanes ih =>
      rcases List.mem_cons.mp member with rfl | later
      · exact ⟨top, first, List.mem_cons_self, rfl⟩
      · obtain ⟨height, lane, listed, same⟩ := ih later
        exact ⟨height, lane, List.mem_cons_of_mem first listed, same⟩

theorem exists_mem_shelve (top : K) {lanes : List (Node K × Lane K)} {lane : Node K × Lane K}
    (member : lane ∈ lanes) :
    ∃ height, (standing height lane.1 lane.2, lane.2.members) ∈ shelve top lanes := by
  induction lanes generalizing top with
  | nil => cases member
  | cons first lanes ih =>
      rcases List.mem_cons.mp member with rfl | later
      · exact ⟨top, List.mem_cons_self⟩
      · obtain ⟨height, inside⟩ := ih _ later
        exact ⟨height, List.mem_cons_of_mem _ inside⟩

end Layouts

/-! ### Exact sizes -/

/-- A lane that is as small as its members, the padding around them, the title above them and the
least size of groups allow. -/
structure Lane.Snug (lane : Lane Rat) : Prop where
  left : ∀ node ∈ lane.members, 40 ≤ node.x
  top : ∀ node ∈ lane.members, 90 ≤ node.y
  leftmost : ∃ node ∈ lane.members, node.x = 40
  topmost : ∃ node ∈ lane.members, node.y = 90
  width : IsLeast {width | 300 ≤ width ∧
    ∀ node ∈ lane.members, node.x + node.footprint.width + 40 ≤ width} lane.size.width
  height : IsLeast {height | 200 ≤ height ∧
    ∀ node ∈ lane.members, node.y + node.footprint.height + 40 ≤ height} lane.size.height

/-- The least extent that holds intervals, moved together so that the first one has some space
before it, and some space behind the last one. -/
theorem isLeast_extent {α : Type} {items : List α} (inhabited : items ≠ [])
    {start moved length : α → Rat} {extent before behind least : Rat}
    (shift : ∀ item, moved item = start item - Layout.smallest start items + before)
    (spans : extent = max (Layout.largest (fun item => start item + length item) items -
      Layout.smallest start items + (before + behind)) least) :
    IsLeast {extent | least ≤ extent ∧
      ∀ item ∈ items, moved item + length item + behind ≤ extent} extent := by
  rw [spans]
  constructor
  · refine ⟨le_max_right _ _, fun item member => le_max_of_le_left ?_⟩
    have within : start item + length item ≤
        Layout.largest (fun item => start item + length item) items :=
      Layout.le_largest _ member
    rw [shift]
    linarith
  · rintro extent ⟨wide, all⟩
    refine max_le ?_ wide
    obtain ⟨last, member, same⟩ := List.mem_map.mp
      (Layout.isGreatest_largest (fun item => start item + length item) inhabited).1
    have held := all last member
    rw [shift] at held
    linarith

theorem lane_snug (layout : ComponentLayout Rat) (options : LayoutOptions Rat) (edges : List Edge)
    {members : List (Node Rat)} (inhabited : members ≠ []) :
    (lane layout options edges members).Snug := by
  have occupied : members.isEmpty = false := by simpa using inhabited
  unfold lane
  simp only [occupied, Bool.false_eq_true, if_false]
  have drawn : placeNodes layout options edges ⟨Scalar.zero, Scalar.zero⟩ members ≠ [] := by
    simpa [placeNodes] using inhabited
  generalize placeNodes layout options edges ⟨Scalar.zero, Scalar.zero⟩ members = placed at drawn ⊢
  constructor
  case left =>
    refine List.forall_mem_map.mpr fun node member => ?_
    have bound := Layout.smallest_le Node.x member
    change 40 ≤ node.x - Layout.smallest Node.x placed + 40
    linarith
  case top =>
    refine List.forall_mem_map.mpr fun node member => ?_
    have bound := Layout.smallest_le Node.y member
    change 90 ≤ node.y - Layout.smallest Node.y placed + 40 + 50
    linarith
  case leftmost =>
    obtain ⟨first, member, same⟩ := List.mem_map.mp (Layout.isLeast_smallest Node.x drawn).1
    refine ⟨_, List.mem_map_of_mem member, ?_⟩
    change first.x - Layout.smallest Node.x placed + 40 = 40
    linarith
  case topmost =>
    obtain ⟨first, member, same⟩ := List.mem_map.mp (Layout.isLeast_smallest Node.y drawn).1
    refine ⟨_, List.mem_map_of_mem member, ?_⟩
    change first.y - Layout.smallest Node.y placed + 40 + 50 = 90
    linarith
  case width =>
    simp only [List.forall_mem_map, Node.footprint_movedTo]
    refine isLeast_extent drawn (fun node => rfl) ?_
    rw [Scalar.greatest_rat]
    change max (_ + 40 * 2) 300 = max (_ + (40 + 40)) 300
    norm_num
  case height =>
    simp only [List.forall_mem_map, Node.footprint_movedTo]
    have shift : ∀ node : Node Rat, node.y - Layout.smallest Node.y placed + 40 + 50 =
        node.y - Layout.smallest Node.y placed + 90 := by
      intro node
      ring
    refine isLeast_extent drawn shift ?_
    rw [Scalar.greatest_rat]
    change max (_ + 40 * 2 + 50) 200 = max (_ + (90 + 40)) 200
    rw [add_assoc]
    norm_num

end Swimlane

/-! ### Graphs -/

namespace Graph

section Parts

variable {K : Type} [Scalar K] (layout : ComponentLayout K) (options : LayoutOptions K)
  (graph : Graph K)

/-- The lane of a group in a graph. -/
def lane (group : Node K) : Swimlane.Lane K :=
  Swimlane.lane layout options graph.edges (Swimlane.membersOf graph.nodes group)

/-- The groups of a graph with their lanes. -/
def lanes : List (Node K × Swimlane.Lane K) :=
  graph.groups.map fun group => (group, graph.lane layout options group)

/-- The groups of a graph at their places, each with its members. -/
def shelves : List (Node K × List (Node K)) :=
  Swimlane.shelve Page.margin (graph.lanes layout options)

/-- Where the drawing of the nodes outside of all groups starts. -/
def orphanCorner : Point K :=
  ⟨Page.margin + Scalar.greatest
    (Scalar.greatestOf Scalar.zero ((graph.lanes layout options).map fun lane => lane.2.size.width))
    Page.groupLeast.width + Page.orphanGap, Page.margin⟩

/-- The nodes outside of all groups at their places. -/
def placedOrphans : List (Node K) :=
  Swimlane.placeNodes layout options graph.edges (graph.orphanCorner layout options)
    (Swimlane.orphans graph.groups graph.nodes)

variable {graph}

/-- With groups, a layout is that of the shelves and the nodes outside of them. -/
theorem layout_nodes (grouped : graph.groups ≠ []) :
    (graph.layout layout options).nodes =
      Swimlane.inOrder (graph.shelves layout options) (graph.placedOrphans layout options) := by
  have inhabited : graph.nodes ≠ [] := by
    intro empty
    simp [groups, empty] at grouped
  have laidOut : (graph.layout layout options).nodes = graph.layoutLanes layout options := by
    simp [Graph.layout, inhabited, grouped]
  rw [laidOut, layoutLanes, Swimlane.stack_eq]
  rfl

/-- A shelf holds a group of the graph and what is in its lane. -/
theorem mem_shelves {shelf : Node K × List (Node K)}
    (member : shelf ∈ graph.shelves layout options) :
    ∃ height, ∃ group ∈ graph.groups,
      shelf = (Swimlane.standing height group (graph.lane layout options group),
        (graph.lane layout options group).members) := by
  obtain ⟨height, lane, listed, rfl⟩ := Swimlane.mem_shelve member
  obtain ⟨group, isGroup, rfl⟩ := List.mem_map.mp listed
  exact ⟨height, group, isGroup, rfl⟩

theorem shelved (distinct : (graph.nodes.map Node.id).Nodup) :
    Swimlane.Shelved (graph.shelves layout options) (graph.placedOrphans layout options) := by
  constructor
  case distinct =>
    rw [shelves, Swimlane.map_id_shelve, lanes, List.map_map]
    exact distinct.sublist (List.Sublist.map Node.id List.filter_sublist)
  case groups =>
    intro shelf member
    obtain ⟨height, group, listed, rfl⟩ := mem_shelves layout options member
    have isGroup : group.isGroup = true := isGroup_of_mem_groups listed
    exact isGroup
  case members =>
    intro shelf member node inside
    obtain ⟨height, group, isGroup, rfl⟩ := mem_shelves layout options member
    obtain ⟨old, wasMember, same⟩ := Node.exists_still
      (.of_eq (Swimlane.map_still_lane layout options graph.edges _)) inside
    obtain ⟨-, sameKind, sameParent⟩ := Node.alike_of_still same
    have inGroup : old.isGroup = false ∧ old.parent = some group.id := by
      simpa using (List.mem_filter.mp wasMember).2
    rw [sameKind, sameParent]
    exact inGroup
  case others =>
    intro node inside
    obtain ⟨old, wasOrphan, same⟩ := Node.exists_still
      (.of_eq (Swimlane.map_still_placeNodes layout options graph.edges _ _)) inside
    obtain ⟨-, sameKind, sameParent⟩ := Node.alike_of_still same
    obtain ⟨plain, foreign⟩ : old.isGroup = false ∧
        ∀ group ∈ graph.groups, ¬old.parent = some group.id := by
      simpa [Swimlane.orphans] using (List.mem_filter.mp wasOrphan).2
    rw [sameKind, sameParent]
    refine ⟨plain, fun shelf member => ?_⟩
    obtain ⟨height, group, isGroup, rfl⟩ := mem_shelves layout options member
    exact foreign group isGroup

/-- In a layout the node under the id of a group is the group, as large as its lane, and its members
are those of the lane. -/
theorem node?_layout (distinct : (graph.nodes.map Node.id).Nodup) {group : Node K}
    (isGroup : group ∈ graph.groups) :
    ∃ placed, (graph.layout layout options).node? group.id = some placed ∧
      placed.still = group.still ∧
      placed.width = some (graph.lane layout options group).size.width ∧
      placed.height = some (graph.lane layout options group).size.height ∧
      Swimlane.membersOf (graph.layout layout options).nodes placed =
        (graph.lane layout options group).members := by
  let lane := graph.lane layout options group
  have listed : (group, lane) ∈ graph.lanes layout options := List.mem_map_of_mem isGroup
  obtain ⟨height, onShelf⟩ := Swimlane.exists_mem_shelve Page.margin listed
  have nodes := layout_nodes layout options (List.ne_nil_of_mem isGroup)
  have ids := (rearranged_layout layout options distinct).map_id_nodes.nodup_iff.mpr distinct
  have found : Swimlane.standing height group lane ∈ (graph.layout layout options).nodes := by
    rw [nodes]
    exact List.mem_append_left _ (List.mem_flatMap_of_mem onShelf List.mem_cons_self)
  have still : (Swimlane.standing height group lane).still = group.still :=
    Node.still_sized (isGroup_of_mem_groups isGroup) _ _ _ _
  refine ⟨Swimlane.standing height group lane, find?_node ids found, still, rfl, rfl, ?_⟩
  rw [nodes]
  exact (shelved layout options distinct).membersOf_inOrder onShelf

end Parts

/-- In a layout every group with members is snug around them, at positions relative to the group. It
is the node that is found under the id of the group, and the members are those of the group in their
order. -/
theorem layout_snug {graph : Graph Rat} (distinct : (graph.nodes.map Node.id).Nodup)
    (layout : ComponentLayout Rat) (options : LayoutOptions Rat) {group : Node Rat}
    (isGroup : group ∈ graph.groups) (inhabited : Swimlane.membersOf graph.nodes group ≠ []) :
    ∃ placed width height, (graph.layout layout options).node? group.id = some placed ∧
      placed.still = group.still ∧ placed.width = some width ∧ placed.height = some height ∧
      (Swimlane.membersOf (graph.layout layout options).nodes placed).map Node.still =
        (Swimlane.membersOf graph.nodes group).map Node.still ∧
      Swimlane.Lane.Snug
        ⟨⟨width, height⟩, Swimlane.membersOf (graph.layout layout options).nodes placed⟩ := by
  obtain ⟨placed, found, still, width, height, members⟩ :=
    node?_layout layout options distinct isGroup
  refine ⟨placed, _, _, found, still, width, height, ?_, ?_⟩
  · rw [members]
    exact Swimlane.map_still_lane layout options graph.edges _
  · rw [members]
    exact Swimlane.lane_snug layout options graph.edges inhabited

/-- The group of two nodes in `backendGraph`. -/
def backend : Node Rat :=
  { id := "backend", kind := .group, label := "Backend", x := 0, y := 0 }

/-- A graph with `backend`, a group without members, and a node whose parent is no group. -/
def backendGraph : Graph Rat where
  nodes := [
    { id := "d", kind := .decision, label := "D", parent := some "backend", x := 0, y := 0 },
    backend,
    { id := "p", kind := .plain, label := "P", parent := some "backend", x := 0, y := 0 },
    { id := "empty", kind := .group, label := "Empty", x := 0, y := 0 },
    { id := "o", kind := .plain, label := "O", parent := some "p", x := 0, y := 0 }]
  edges := [{ id := "e", source := "d", target := "p" }]

theorem layout_snug_backendGraph :
    (backendGraph.nodes.map Node.id).Nodup ∧ backend ∈ backendGraph.groups ∧
      Swimlane.membersOf backendGraph.nodes backend ≠ [] ∧
      ∃ placed width height,
        (backendGraph.layout (fun _ _ _ => [⟨7, -5⟩]) .standard).node? "backend" = some placed ∧
        placed.width = some width ∧ placed.height = some height ∧
        Swimlane.Lane.Snug ⟨⟨width, height⟩, Swimlane.membersOf
          (backendGraph.layout (fun _ _ _ => [⟨7, -5⟩]) .standard).nodes placed⟩ := by
  have distinct : (backendGraph.nodes.map Node.id).Nodup := by decide
  have isGroup : backend ∈ backendGraph.groups := List.mem_cons_self
  have inhabited : Swimlane.membersOf backendGraph.nodes backend ≠ [] := List.cons_ne_nil _ _
  obtain ⟨placed, width, height, found, -, hasWidth, hasHeight, -, snug⟩ :=
    layout_snug distinct (fun _ _ _ => [⟨7, -5⟩]) .standard isGroup inhabited
  exact ⟨distinct, isGroup, inhabited, placed, width, height, found, hasWidth, hasHeight, snug⟩

end Graph

end Flowchart
