import Flowchart.Proofs.Layout.Order

/-!
Layout forgets geometry.

What a layout returns depends on the nodes in their order and on the edges, but not on where the
nodes stood before nor on how large the groups were. The order that a layout gives to the nodes is
kept by a second one, which therefore finds all groups, members and other nodes as the first one
did.

Main definition: `Graph.still`. Main statement: `layout_settled`.
-/

namespace Flowchart

open Layout (ComponentLayout)

variable {K : Type} [Scalar K]

/-- A graph without its geometry. -/
def Graph.still (graph : Graph K) : Graph K :=
  { graph with nodes := graph.nodes.map Node.still }

/-- A node that is no group has no other geometry than its position. -/
theorem Node.movedTo_still {node : Node K} (plain : node.isGroup = false) (x y : K) :
    node.still.movedTo x y = node.movedTo x y := by
  simp [still, movedTo, plain]

/-! ### Parts of a layout -/

namespace Swimlane

variable (layout : ComponentLayout K) (options : LayoutOptions K) (edges : List Edge)

/-- Placing looks at the ids and kinds of nodes only. Where else they differ before, they differ
afterwards. -/
theorem placeNodes_map (corner : Point K) {members : List (Node K)} (before after : Node K → Node K)
    (sameId : ∀ node, (before node).id = node.id)
    (sameKind : ∀ node, (before node).kind = node.kind)
    (moved : ∀ node ∈ members, ∀ x y, (before node).movedTo x y = after (node.movedTo x y)) :
    placeNodes layout options edges corner (members.map before) =
      (placeNodes layout options edges corner members).map after := by
  have sameFootprint : ∀ node, (before node).footprint = node.footprint := by
    intro node
    rw [Node.footprint, sameKind, Node.footprint]
  have sameSizes : (members.map before).map (fun node => (node.id, node.footprint)) =
      members.map fun node => (node.id, node.footprint) := by
    simp only [List.map_map, Function.comp_def, sameId, sameFootprint]
  have sameEdges : internalEdges edges (members.map before) = internalEdges edges members := by
    simp only [internalEdges, List.map_map, Function.comp_def, sameId]
  unfold placeNodes
  rw [sameSizes, sameEdges, List.map_map, List.map_map]
  refine List.map_congr_left fun node listed => ?_
  -- every node has a center, so none keeps its position
  have known : node.id ∈
      (Keyed.ofPairs (members.map fun node => (node.id, node.footprint))).keys := by
    rw [Keyed.mem_keys_ofPairs, List.map_map]
    exact List.mem_map_of_mem listed
  obtain ⟨center, found, -⟩ := Keyed.exists_mem_of_mem_keys
    (Layout.mem_keys_place layout
      ⟨options.direction, options.nodeSpacing, options.rankSpacing, corner.x, corner.y⟩
      (internalEdges edges members) known)
  simp only [Function.comp_apply, sameId, sameFootprint, found, moved node listed]

/-- Placing does not look at where the nodes stood before. -/
theorem placeNodes_still (corner : Point K) {members : List (Node K)}
    (plain : ∀ node ∈ members, node.isGroup = false) :
    placeNodes layout options edges corner (members.map Node.still) =
      placeNodes layout options edges corner members := by
  have placed : placeNodes layout options edges corner (members.map Node.still) =
      (placeNodes layout options edges corner members).map id := by
    apply placeNodes_map layout options edges corner Node.still id (fun _ => rfl) (fun _ => rfl)
    exact fun node listed => Node.movedTo_still (plain node listed)
  rw [placed, List.map_id]

/-- A lane does not look at where its members have been. -/
theorem lane_still {members : List (Node K)} (plain : ∀ node ∈ members, node.isGroup = false) :
    lane layout options edges (members.map Node.still) = lane layout options edges members := by
  unfold lane
  rw [placeNodes_still layout options edges _ plain, List.isEmpty_map]

omit [Scalar K] in
theorem isGroup_of_mem_membersOf {nodes : List (Node K)} {group node : Node K}
    (member : node ∈ membersOf nodes group) : node.isGroup = false := by
  simpa using And.left (Bool.and_eq_true_iff.mp (List.mem_filter.mp member).2)

omit [Scalar K] in
theorem isGroup_of_mem_orphans {groups nodes : List (Node K)} {node : Node K}
    (orphan : node ∈ orphans groups nodes) : node.isGroup = false := by
  simpa using And.left (Bool.and_eq_true_iff.mp (List.mem_filter.mp orphan).2)

/-- Which nodes are members of a group does not depend on any geometry. -/
theorem membersOf_still (nodes : List (Node K)) (group : Node K) :
    membersOf (nodes.map Node.still) group.still = (membersOf nodes group).map Node.still := by
  rw [membersOf, membersOf, List.filter_map]
  rfl

theorem orphans_still (groups nodes : List (Node K)) :
    orphans (groups.map Node.still) (nodes.map Node.still) =
      (orphans groups nodes).map Node.still := by
  rw [orphans, orphans, List.filter_map]
  refine congrArg (List.map Node.still) (List.filter_congr fun node _ => ?_)
  simp only [Function.comp_apply, List.any_map]
  rfl

/-- On shelves groups have a new place and a new size. -/
theorem shelve_still (top : K) (lanes : List (Node K × Lane K)) :
    shelve top (lanes.map fun lane => (lane.1.still, lane.2)) = shelve top lanes := by
  induction lanes generalizing top with
  | nil => rfl
  | cons first lanes ih =>
      rw [List.map_cons, shelve, shelve, ih]
      rfl

end Swimlane

/-! ### Graphs -/

namespace Graph

variable (layout : ComponentLayout K) (options : LayoutOptions K)

/-- A layout changes the nodes of a graph only. -/
theorem layout_eq (graph : Graph K) :
    graph.layout layout options = { graph with nodes := (graph.layout layout options).nodes } := by
  unfold Graph.layout
  split
  case isTrue => rfl
  case isFalse => split <;> rfl

/-- Without groups, a layout is that of one drawing. -/
theorem layout_nodes_flat {graph : Graph K} (ungrouped : graph.groups = []) :
    (graph.layout layout options).nodes =
      if options.resolveOverlaps then
        (Overlap.resolve .standard (graph.placedFlat layout options)).value
      else graph.placedFlat layout options := by
  unfold Graph.layout
  split
  case isTrue empty =>
    have none : graph.placedFlat layout options = [] := by
      simp [placedFlat, Swimlane.placeNodes, List.isEmpty_iff.mp empty]
    rw [none, List.isEmpty_iff.mp empty]
    split <;> rfl
  case isFalse => rw [if_pos (by simpa using ungrouped)]

/-! ### Without geometry -/

theorem groups_still (graph : Graph K) : graph.still.groups = graph.groups.map Node.still := by
  rw [groups, still, List.filter_map]
  rfl

/-- Lanes come out the same wherever nodes have been. -/
theorem lanes_still (graph : Graph K) :
    graph.still.lanes layout options =
      (graph.lanes layout options).map fun lane => (lane.1.still, lane.2) := by
  have sameLane : ∀ group : Node K,
      graph.still.lane layout options group.still = graph.lane layout options group := by
    intro group
    have members := Swimlane.membersOf_still graph.nodes group
    rw [lane, still, members]
    exact Swimlane.lane_still layout options graph.edges
      fun node => Swimlane.isGroup_of_mem_membersOf
  rw [lanes, lanes, groups_still, List.map_map, List.map_map]
  refine List.map_congr_left fun group _ => ?_
  rw [Function.comp_apply, sameLane, Function.comp_apply]

theorem shelves_still (graph : Graph K) :
    graph.still.shelves layout options = graph.shelves layout options := by
  rw [shelves, lanes_still, Swimlane.shelve_still, shelves]

theorem placedOrphans_still (graph : Graph K) :
    graph.still.placedOrphans layout options = graph.placedOrphans layout options := by
  have corner : graph.still.orphanCorner layout options = graph.orphanCorner layout options := by
    rw [orphanCorner, orphanCorner, lanes_still, List.map_map]
    rfl
  have orphans := Swimlane.orphans_still graph.groups graph.nodes
  rw [placedOrphans, corner, groups_still, still, orphans]
  exact Swimlane.placeNodes_still layout options graph.edges _
    fun node => Swimlane.isGroup_of_mem_orphans

theorem placedFlat_still {graph : Graph K} (ungrouped : graph.groups = []) :
    graph.still.placedFlat layout options = graph.placedFlat layout options := by
  refine Swimlane.placeNodes_still layout options graph.edges _ fun node listed => ?_
  simpa using List.filter_eq_nil_iff.mp ungrouped node listed

/-- A layout depends on a graph without its geometry only. -/
theorem layout_still (graph : Graph K) :
    graph.still.layout layout options = graph.layout layout options := by
  have nodes : (graph.still.layout layout options).nodes =
      (graph.layout layout options).nodes := by
    by_cases ungrouped : graph.groups = []
    · have stillUngrouped : graph.still.groups = [] := by rw [groups_still, ungrouped]; rfl
      rw [layout_nodes_flat layout options stillUngrouped,
        layout_nodes_flat layout options ungrouped, placedFlat_still layout options ungrouped]
    · have stillGrouped : graph.still.groups ≠ [] := by simpa [groups_still] using ungrouped
      rw [layout_nodes layout options stillGrouped, layout_nodes layout options ungrouped,
        shelves_still, placedOrphans_still]
  rw [layout_eq, nodes, layout_eq layout options graph]
  rfl

/-! ### In the order of a layout -/

omit [Scalar K] in
/-- In the order of its layout a graph has the same groups, members and other nodes. -/
theorem parts_order {graph : Graph K} (distinct : (graph.nodes.map Node.id).Nodup) :
    graph.order.filter Node.isGroup = graph.groups ∧
      (∀ group ∈ graph.groups,
        Swimlane.membersOf graph.order group = Swimlane.membersOf graph.nodes group) ∧
      Swimlane.orphans graph.groups graph.order = Swimlane.orphans graph.groups graph.nodes := by
  by_cases ungrouped : graph.groups = []
  · rw [order, if_pos (by simpa using ungrouped)]
    exact ⟨rfl, fun _ _ => rfl, rfl⟩
  have shelved := Swimlane.shelved_order distinct
  rw [order, if_neg (by simpa using ungrouped), Swimlane.order_eq_inOrder]
  have onShelves : ((graph.nodes.filter Node.isGroup).map fun group =>
      (group, Swimlane.membersOf graph.nodes group)).map Prod.fst = graph.groups := by
    rw [List.map_map]
    exact List.map_id' _
  refine ⟨shelved.filter_isGroup.trans onShelves, fun group listed => ?_, ?_⟩
  · exact shelved.membersOf_inOrder (List.mem_map_of_mem listed)
  · have outside := shelved.orphans_inOrder
    rwa [onShelves] at outside

/-- With the same groups, members, other nodes and edges, graphs are laid out alike. -/
theorem layout_nodes_congr {graph other : Graph K} (grouped : graph.groups ≠ [])
    (sameEdges : other.edges = graph.edges) (sameGroups : other.groups = graph.groups)
    (sameMembers : ∀ group ∈ graph.groups,
      Swimlane.membersOf other.nodes group = Swimlane.membersOf graph.nodes group)
    (sameOrphans :
      Swimlane.orphans graph.groups other.nodes = Swimlane.orphans graph.groups graph.nodes) :
    (other.layout layout options).nodes = (graph.layout layout options).nodes := by
  have sameLanes : other.lanes layout options = graph.lanes layout options := by
    rw [lanes, lanes, sameGroups]
    refine List.map_congr_left fun group listed => ?_
    rw [lane, lane, sameEdges, sameMembers group listed]
  have alsoGrouped : other.groups ≠ [] := sameGroups ▸ grouped
  rw [layout_nodes layout options alsoGrouped, layout_nodes layout options grouped, shelves,
    placedOrphans, orphanCorner, sameLanes, sameGroups, sameEdges, sameOrphans]
  rfl

/-- The order in which a layout leaves the nodes does not change the next one. -/
theorem layout_order {graph : Graph K} (distinct : (graph.nodes.map Node.id).Nodup) :
    Graph.layout layout options { graph with nodes := graph.order } =
      graph.layout layout options := by
  by_cases ungrouped : graph.groups = []
  · rw [order, if_pos (by simpa using ungrouped)]
  obtain ⟨sameGroups, sameMembers, sameOrphans⟩ := parts_order distinct
  have nodes : (Graph.layout layout options { graph with nodes := graph.order }).nodes =
      (graph.layout layout options).nodes :=
    layout_nodes_congr layout options ungrouped rfl sameGroups sameMembers sameOrphans
  rw [layout_eq, nodes, layout_eq layout options graph]

/-- Laying out a second time changes nothing, and neither does it matter where the nodes stood and
how large the groups were before the first time. -/
theorem layout_settled {graph : Graph K} (distinct : (graph.nodes.map Node.id).Nodup) :
    (graph.layout layout options).layout layout options = graph.layout layout options ∧
      ∀ other : Graph K, other.still = graph.still →
        other.layout layout options = graph.layout layout options := by
  have forgets : ∀ graph other : Graph K, other.still = graph.still →
      other.layout layout options = graph.layout layout options := by
    intro graph other alike
    rw [← layout_still, alike, layout_still]
  refine ⟨?_, forgets graph⟩
  have arranged : (graph.layout layout options).still =
      Graph.still { graph with nodes := graph.order } := by
    rw [layout_eq, still, map_still_layout]
    rfl
  rw [forgets _ _ arranged]
  exact layout_order layout options distinct

/-- The graph `backendGraph` with all nodes at another place and a large first group. -/
def scatteredGraph : Graph Rat where
  nodes := backendGraph.nodes.map fun node =>
    { node with x := 5, y := -3, width := if node.id = "backend" then some 900 else none }
  edges := backendGraph.edges

theorem layout_settled_backendGraph :
    (backendGraph.nodes.map Node.id).Nodup ∧ scatteredGraph.still = backendGraph.still ∧
      (backendGraph.layout (fun _ _ _ => [⟨7, -5⟩]) .standard).layout (fun _ _ _ => [⟨7, -5⟩])
          .standard =
        backendGraph.layout (fun _ _ _ => [⟨7, -5⟩]) .standard ∧
      scatteredGraph.layout (fun _ _ _ => [⟨7, -5⟩]) .standard =
        backendGraph.layout (fun _ _ _ => [⟨7, -5⟩]) .standard := by
  have distinct : (backendGraph.nodes.map Node.id).Nodup := by decide
  have alike : scatteredGraph.still = backendGraph.still := rfl
  obtain ⟨again, forgets⟩ := layout_settled (fun _ _ _ => [⟨7, -5⟩]) .standard distinct
  exact ⟨distinct, alike, again, forgets scatteredGraph alike⟩

end Graph

end Flowchart
