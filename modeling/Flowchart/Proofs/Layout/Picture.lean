import Flowchart.Proofs.Graph.Canonical
import Flowchart.Proofs.Layout.Crossings
import Flowchart.Proofs.Layout.Rearranged

/-!
The picture that a graph gives on the page.

A member of a group stands at the group's position plus its own, any other node at its own position.
The picture of a graph is the list of its nodes as they stand there, and the diagnostics of a layout
look at nothing else but the picture and the edges: neither a node that is taken out of its group
and left where it stands, nor a drawing that is moved as a whole, makes a difference to them.

Main definitions: `Graph.Holds`, `Graph.pageCorner`, `Graph.picture`, `Graph.detached`,
`Graph.shifted`. Main statement: `diagnostics_unmoved`.
-/

namespace Flowchart

/-! ### Pairs -/

section Pairs

variable {α β : Type} {items : List α}

/-- The pairs of images are the images of pairs. -/
theorem pairs_map (change : α → β) (items : List α) :
    pairs (items.map change) = (pairs items).map (Prod.map change change) := by
  induction items with
  | nil => rfl
  | cons item items ih =>
      simp only [pairs, List.map_cons, List.map_append, List.map_map, ih]
      rfl

/-- Both items of a pair are in the list. -/
theorem mem_of_mem_pairs {pair : α × α} (listed : pair ∈ pairs items) :
    pair.1 ∈ items ∧ pair.2 ∈ items := by
  have together : items.Pairwise fun first second => first ∈ items ∧ second ∈ items :=
    List.pairwise_of_forall_mem_list fun _ isFirst _ isSecond => ⟨isFirst, isSecond⟩
  exact forall_mem_pairs.mpr together pair listed

/-- Two items of a list are one of its pairs, in one order or the other. -/
theorem mem_pairs_or {first second : α} (isFirst : first ∈ items) (isSecond : second ∈ items)
    (differs : first ≠ second) :
    (first, second) ∈ pairs items ∨ (second, first) ∈ pairs items := by
  induction items with
  | nil => cases isFirst
  | cons item items ih =>
      rw [pairs, List.mem_append, List.mem_append, List.mem_map, List.mem_map]
      rcases List.mem_cons.mp isFirst with rfl | later
      · rcases List.mem_cons.mp isSecond with rfl | later'
        · exact absurd rfl differs
        · exact Or.inl (Or.inl ⟨second, later', rfl⟩)
      · rcases List.mem_cons.mp isSecond with rfl | later'
        · exact Or.inr (Or.inl ⟨first, later, rfl⟩)
        · exact (ih later later').imp Or.inr Or.inr

end Pairs

/-! ### Members of groups -/

namespace Graph

variable {K : Type} {graph : Graph K} {group node : Node K}

/-- A node is a member of a group if it names the group as its parent. Groups are members of none,
and an empty name names none. -/
structure Holds (graph : Graph K) (group node : Node K) : Prop where
  listed : group ∈ graph.groups
  plain : node.isGroup = false
  named : node.parent = some group.id
  given : group.id ≠ ""

/-- The group that a node is a member of. -/
def host? (graph : Graph K) (node : Node K) : Option (Node K) :=
  if node.isGroup then none
  else graph.groups.find? fun group => !group.id.isEmpty && node.parent == some group.id

/-- The host of a node is a group that holds it. -/
theorem holds_of_host? (found : graph.host? node = some group) : graph.Holds group node := by
  rw [host?, Option.ite_none_left_eq_some] at found
  obtain ⟨plain, found⟩ := found
  have parent := List.find?_some found
  obtain ⟨given, named⟩ := Bool.and_eq_true_iff.mp parent
  exact ⟨List.mem_of_find?_eq_some found, by simpa using plain, by simpa using named,
    by simpa using given⟩

theorem nodup_groups (distinct : (graph.nodes.map Node.id).Nodup) :
    (graph.groups.map Node.id).Nodup :=
  distinct.sublist (List.filter_sublist.map Node.id)

/-- A node is a member of one group at most. -/
theorem host?_of_holds (distinct : (graph.nodes.map Node.id).Nodup)
    (holds : graph.Holds group node) : graph.host? node = some group := by
  have same : (fun other : Node K => !other.id.isEmpty && node.parent == some other.id) =
      fun other => other.id == group.id := by
    funext other
    by_cases isGroup : other.id = group.id
    · simp [holds.named, isGroup, holds.given]
    · have differs : (group.id == other.id) = false := by simpa using Ne.symm isGroup
      simp [holds.named, isGroup, differs]
  rw [host?, holds.plain, same]
  exact find?_node (nodup_groups distinct) holds.listed

/-- Among distinct ids the host of a node is the one group that holds it. -/
theorem host?_eq_some_iff (distinct : (graph.nodes.map Node.id).Nodup) :
    graph.host? node = some group ↔ graph.Holds group node :=
  ⟨holds_of_host?, host?_of_holds distinct⟩

/-! ### Positions on the page -/

/-- The top left corner of a node on the page. -/
def pageCorner (graph : Graph Rat) (node : Node Rat) : Point Rat :=
  match graph.host? node with
  | some group => ⟨group.x + node.x, group.y + node.y⟩
  | none => ⟨node.x, node.y⟩

end Graph

namespace Metrics

variable {graph other : Graph Rat}

/-- The positions that diagnostics work with are those on the page. -/
theorem pagePosition_eq (distinct : (graph.nodes.map Node.id).Nodup) (node : Node Rat) :
    pagePosition graph.groups node = graph.pageCorner node := by
  have reversed : (graph.groups.reverse.map Node.id).Nodup := by
    rw [List.map_reverse, List.nodup_reverse]
    exact Graph.nodup_groups distinct
  unfold pagePosition Graph.pageCorner
  cases found : graph.host? node with
  | some group =>
      have holds := Graph.holds_of_host? found
      have isParent : ((node.parent.filter fun id => !id.isEmpty).bind fun id =>
          graph.groups.reverse.find? fun group => group.id == id) = some group := by
        have given : (!group.id.isEmpty) = true := by simpa using holds.given
        rw [holds.named, Option.filter_some, if_pos given, Option.bind_some]
        exact find?_node reversed (List.mem_reverse.mpr holds.listed)
      simp only [isParent, holds.plain, Bool.false_eq_true, if_false]
  | none =>
      cases isParent : ((node.parent.filter fun id => !id.isEmpty).bind fun id =>
          graph.groups.reverse.find? fun group => group.id == id) with
      | none => rfl
      | some group =>
        -- whoever has a parent among the groups without being a member is a group itself
        obtain ⟨id, isGiven, parent⟩ := Option.bind_eq_some_iff.mp isParent
        obtain ⟨named, given⟩ := Option.filter_eq_some_iff.mp isGiven
        have sameId := List.find?_some parent
        rw [beq_iff_eq] at sameId
        have nested : node.isGroup = true := by
          by_contra plain
          have holds : graph.Holds group node :=
            ⟨List.mem_reverse.mp (List.mem_of_find?_eq_some parent), by simpa using plain,
              sameId ▸ named, by simpa [sameId] using given⟩
          rw [Graph.host?_of_holds distinct holds] at found
          cases found
        simp only [nested, if_true]

end Metrics

/-! ### Pictures -/

/-- What is seen of a node on the page. -/
structure Drawn where
  id : String
  isGroup : Bool
  size : Size Rat
  corner : Point Rat

namespace Drawn

/-- The point in the middle of a node. -/
def center (drawn : Drawn) : Point Rat :=
  ⟨drawn.corner.x + Scalar.half drawn.size.width, drawn.corner.y + Scalar.half drawn.size.height⟩

/-- A node at another place. -/
def moved (way : Point Rat) (drawn : Drawn) : Drawn :=
  { drawn with corner := ⟨drawn.corner.x + way.x, drawn.corner.y + way.y⟩ }

end Drawn

/-- A node as it is seen on the page. -/
def Graph.drawn (graph : Graph Rat) (node : Node Rat) : Drawn :=
  ⟨node.id, node.isGroup, Metrics.extent node, graph.pageCorner node⟩

/-- The nodes of a graph as they are seen on the page. -/
def Graph.picture (graph : Graph Rat) : List Drawn :=
  graph.nodes.map graph.drawn

theorem Graph.map_id_picture (graph : Graph Rat) :
    graph.picture.map Drawn.id = graph.nodes.map Node.id := by
  rw [picture, List.map_map]
  rfl

namespace Metrics

variable {graph other : Graph Rat}

/-- The place of a node on the page is looked up under its id. -/
theorem position_pagePositions (distinct : (graph.nodes.map Node.id).Nodup) {node : Node Rat}
    (listed : node ∈ graph.nodes) :
    position (pagePositions graph) node.id = graph.pageCorner node := by
  have alike : ∀ first ∈ graph.nodes, ∀ second ∈ graph.nodes, first.id = second.id →
      pagePosition graph.groups first = pagePosition graph.groups second := by
    intro first isFirst second isSecond same
    rw [List.inj_on_of_nodup_map distinct isFirst isSecond same]
  rw [position, pagePositions, Keyed.find?_ofPairs_map alike listed, Option.getD_some,
    pagePosition_eq distinct]

/-- Nodes have their centers where they are seen to have them. -/
theorem pageCenters_eq (distinct : (graph.nodes.map Node.id).Nodup) :
    pageCenters graph =
      Keyed.ofPairs (graph.picture.map fun drawn => (drawn.id, drawn.center)) := by
  rw [pageCenters, Graph.picture, List.map_map]
  refine congrArg Keyed.ofPairs (List.map_congr_left fun node listed => ?_)
  simp only [position_pagePositions distinct listed]
  rfl

/-! ### Crowding in a picture -/

/-- Two nodes of a picture are closer than a distance. -/
def near (threshold : Rat) (a b : Drawn) : Bool :=
  Scalar.shorter (a.corner.x - b.corner.x) (a.corner.y - b.corner.y) threshold

/-- The nodes of a picture that are no groups. -/
def plainNodes (picture : List Drawn) : List Drawn :=
  picture.filter fun drawn => !drawn.isGroup

/-- The pairs of nodes of a picture that are closer than a distance, groups left aside. -/
def nearPairs (threshold : Rat) (picture : List Drawn) : List (Drawn × Drawn) :=
  (pairs (plainNodes picture)).filter fun pair => near threshold pair.1 pair.2

/-- The plain nodes of a picture are those of the graph, as they are drawn. -/
theorem plainNodes_picture (graph : Graph Rat) :
    plainNodes graph.picture =
      (graph.nodes.filter fun node => !node.isGroup).map graph.drawn := by
  rw [plainNodes, Graph.picture, List.filter_map]
  rfl

/-- Nodes crowd each other where they are seen to. -/
theorem crowdedNodes_eq (distinct : (graph.nodes.map Node.id).Nodup) (threshold : Rat) :
    crowdedNodes threshold graph =
      ((nearPairs threshold graph.picture).flatMap fun pair =>
        [pair.1.id, pair.2.id]).eraseDups := by
  have alike : ∀ pair ∈ pairs (graph.nodes.filter fun node => !node.isGroup),
      crowd (pagePositions graph) threshold pair.1 pair.2 =
        near threshold (graph.drawn pair.1) (graph.drawn pair.2) := by
    intro pair listed
    obtain ⟨first, second⟩ := mem_of_mem_pairs listed
    rw [crowd, position_pagePositions distinct (List.mem_filter.mp first).1,
      position_pagePositions distinct (List.mem_filter.mp second).1]
    rfl
  rw [crowdedNodes, List.filter_congr alike, nearPairs, plainNodes_picture, pairs_map,
    List.filter_map, List.flatMap_map]
  rfl

/-! ### Moved pictures -/

/-- Moving a picture keeps which of its parts are near each other. -/
theorem nearPairs_moved (way : Point Rat) (threshold : Rat) (picture : List Drawn) :
    nearPairs threshold (picture.map (Drawn.moved way)) =
      (nearPairs threshold picture).map (Prod.map (Drawn.moved way) (Drawn.moved way)) := by
  have alike : ∀ a b : Drawn,
      near threshold (a.moved way) (b.moved way) = near threshold a b := by
    intro a b
    simp only [near, Drawn.moved, add_sub_add_right_eq_sub]
  rw [nearPairs, plainNodes, List.filter_map, pairs_map, List.filter_map, nearPairs, plainNodes]
  simp only [Function.comp_def, Prod.map_fst, Prod.map_snd, alike]
  rfl

/-- A point at another place. -/
def along (way point : Point Rat) : Point Rat :=
  ⟨point.x + way.x, point.y + way.y⟩

theorem along_injective (way : Point Rat) : Function.Injective (along way) := by
  intro p q same
  rwa [along, along, Point.mk.injEq, add_left_inj, add_left_inj, ← Point.mk.injEq] at same

/-- Two segments that are moved alike cross as before. -/
theorem cross_along (way : Point Rat) (a b : Segment Rat) :
    cross (a.mapped (along way)) (b.mapped (along way)) = cross a b := by
  rw [Bool.eq_iff_iff, cross_eq_true_iff, cross_eq_true_iff]
  simp only [Segment.mapped, ne_eq, (along_injective way).eq_iff]
  simp only [Segment.Straddles, Segment.side, along, add_sub_add_right_eq_sub]

/-- The center of a part moves with it. -/
theorem center_moved (way : Point Rat) (drawn : Drawn) :
    (drawn.moved way).center = along way drawn.center := by
  rw [Drawn.center, Drawn.center, Drawn.moved, along, Point.mk.injEq]
  constructor <;> exact add_right_comm _ _ _

/-- If a picture is another one that has been moved, so are its centers. -/
theorem pageCenters_moved {way : Point Rat} (distinct : (graph.nodes.map Node.id).Nodup)
    (distinct' : (other.nodes.map Node.id).Nodup)
    (picture : other.picture = graph.picture.map (Drawn.moved way)) :
    pageCenters other = (pageCenters graph).map fun entry => (entry.1, along way entry.2) := by
  rw [pageCenters_eq distinct, pageCenters_eq distinct', ← Keyed.ofPairs_map, picture,
    List.map_map, List.map_map]
  refine congrArg Keyed.ofPairs (List.map_congr_left fun drawn _ => ?_)
  simp only [Function.comp_apply, center_moved]
  rfl

/-- Diagnostics depend on nothing but the edges and the picture of a graph, and not on where on the
page the picture is. -/
theorem diagnostics_of_picture {way : Point Rat} (distinct : (graph.nodes.map Node.id).Nodup)
    (edges : other.edges = graph.edges)
    (picture : other.picture = graph.picture.map (Drawn.moved way)) :
    edgeCrossings other = edgeCrossings graph ∧
      ∀ threshold, crowdedNodes threshold other = crowdedNodes threshold graph := by
  have distinct' : (other.nodes.map Node.id).Nodup := by
    rw [← Graph.map_id_picture, picture, List.map_map]
    rwa [← Graph.map_id_picture] at distinct
  constructor
  · have centers : ∀ id, Keyed.find? id (pageCenters other) =
        (Keyed.find? id (pageCenters graph)).map (along way) := by
      intro id
      rw [pageCenters_moved distinct distinct' picture]
      exact Keyed.find?_map (fun _ => along way) id (pageCenters graph)
    rw [edgeCrossings, segments_mapped (along_injective way) edges centers, pairs_map,
      List.countP_map]
    exact List.countP_congr fun pair _ => by
      rw [Function.comp_apply, Prod.map_fst, Prod.map_snd, cross_along]
  · intro threshold
    rw [crowdedNodes_eq distinct, crowdedNodes_eq distinct', picture, nearPairs_moved,
      List.flatMap_map]
    rfl

end Metrics

/-! ### Nodes taken out of their groups, and graphs moved as a whole -/

namespace Graph

variable {graph : Graph Rat} {node : Node Rat}

/-- A member of a group as a node without parent, left where it stands on the page. Other nodes are
as they were. -/
def detachedNode (graph : Graph Rat) (node : Node Rat) : Node Rat :=
  match graph.host? node with
  | some group => { node with parent := none, x := group.x + node.x, y := group.y + node.y }
  | none => node

/-- A graph with all members taken out of their groups. -/
def detached (graph : Graph Rat) : Graph Rat :=
  { graph with nodes := graph.nodes.map graph.detachedNode }

/-- A group or a node outside of all groups at another place. Members, whose positions are relative
to their groups, are as they were. -/
def shiftedNode (graph : Graph Rat) (way : Point Rat) (node : Node Rat) : Node Rat :=
  match graph.host? node with
  | some _ => node
  | none => node.movedTo (node.x + way.x) (node.y + way.y)

/-- A graph moved as a whole. -/
def shifted (graph : Graph Rat) (way : Point Rat) : Graph Rat :=
  { graph with nodes := graph.nodes.map (graph.shiftedNode way) }

theorem host?_of_isGroup (isGroup : node.isGroup = true) : graph.host? node = none :=
  if_pos isGroup

theorem groups_map {change : Node Rat → Node Rat}
    (kept : ∀ node, (change node).isGroup = node.isGroup) :
    groups { graph with nodes := graph.nodes.map change } = graph.groups.map change := by
  rw [groups, List.filter_map, groups]
  exact congrArg (List.map change) (List.filter_congr fun node _ => kept node)

theorem groups_detached (graph : Graph Rat) : graph.detached.groups = graph.groups := by
  have kept : ∀ node, (graph.detachedNode node).isGroup = node.isGroup := by
    intro node
    unfold detachedNode
    split <;> rfl
  rw [detached, groups_map kept]
  refine (List.map_congr_left fun group listed => ?_).trans (List.map_id _)
  rw [detachedNode, host?_of_isGroup (isGroup_of_mem_groups listed), id]

/-- A node that has been taken out of its group is drawn where it was. -/
theorem drawn_detachedNode (graph : Graph Rat) (node : Node Rat) :
    graph.detached.drawn (graph.detachedNode node) = graph.drawn node := by
  cases found : graph.host? node with
  | some group =>
      have alone : graph.detachedNode node =
          { node with parent := none, x := group.x + node.x, y := group.y + node.y } := by
        rw [detachedNode, found]
      have none : graph.detached.host? (graph.detachedNode node) = none := by
        rw [alone, host?]
        simp
      rw [drawn, pageCorner, none, alone, drawn, pageCorner, found]
      rfl
  | none =>
      have same : graph.detachedNode node = node := by rw [detachedNode, found]
      have alone : graph.detached.host? node = none := by
        rw [host?, groups_detached]
        exact found
      rw [same, drawn, pageCorner, alone, drawn, pageCorner, found]

/-- Taking the members out of their groups keeps the picture. -/
theorem picture_detached (graph : Graph Rat) : graph.detached.picture = graph.picture := by
  rw [picture, detached, List.map_map, picture]
  exact List.map_congr_left fun node _ => drawn_detachedNode graph node

theorem groups_shifted (graph : Graph Rat) (way : Point Rat) :
    (graph.shifted way).groups = graph.groups.map (graph.shiftedNode way) := by
  apply groups_map
  intro node
  unfold shiftedNode
  split <;> rfl

/-- A node stays in its group, which is moved. -/
theorem host?_shiftedNode (graph : Graph Rat) (way : Point Rat) (node : Node Rat) :
    (graph.shifted way).host? (graph.shiftedNode way node) =
      (graph.host? node).map (graph.shiftedNode way) := by
  have named : ∀ group : Node Rat, (graph.shiftedNode way group).id = group.id := by
    intro group
    unfold shiftedNode
    split <;> rfl
  have same : (graph.shiftedNode way node).isGroup = node.isGroup ∧
      (graph.shiftedNode way node).parent = node.parent := by
    unfold shiftedNode
    split <;> exact ⟨rfl, rfl⟩
  rw [host?, same.1, same.2, groups_shifted, List.find?_map, host?]
  simp only [Function.comp_def, named]
  split <;> rfl

/-- A node is drawn the same way off where it has been shifted, whether by itself or with its
group. -/
theorem drawn_shiftedNode (graph : Graph Rat) (way : Point Rat) (node : Node Rat) :
    (graph.shifted way).drawn (graph.shiftedNode way node) = (graph.drawn node).moved way := by
  rw [drawn, pageCorner, host?_shiftedNode, drawn, pageCorner]
  cases found : graph.host? node with
  | some group =>
      have member : graph.shiftedNode way node = node := by rw [shiftedNode, found]
      have isGroup := isGroup_of_mem_groups (holds_of_host? found).listed
      have moved : graph.shiftedNode way group =
          group.movedTo (group.x + way.x) (group.y + way.y) := by
        rw [shiftedNode, host?_of_isGroup isGroup]
      rw [Option.map_some, member, moved]
      simp only [Node.movedTo, Drawn.moved, add_right_comm]
  | none =>
      rw [shiftedNode, found]
      rfl

/-- Shifting what does not move with a group moves the picture. -/
theorem picture_shifted (graph : Graph Rat) (way : Point Rat) :
    (graph.shifted way).picture = graph.picture.map (Drawn.moved way) := by
  rw [picture, shifted, List.map_map, picture, List.map_map]
  exact List.map_congr_left fun node _ => drawn_shiftedNode graph way node

end Graph

namespace Metrics

/-- Diagnostics see the page. Graphs with the same edges and the same picture, wherever on the page
it is, have the same diagnostics: so it makes no difference whether members are taken out of their
groups and left where they stand, nor whether a graph is moved as a whole. -/
theorem diagnostics_unmoved {graph : Graph Rat} (distinct : (graph.nodes.map Node.id).Nodup) :
    (∀ other way, other.edges = graph.edges →
      other.picture = graph.picture.map (Drawn.moved way) →
        edgeCrossings other = edgeCrossings graph ∧
          ∀ threshold, crowdedNodes threshold other = crowdedNodes threshold graph) ∧
    (edgeCrossings graph.detached = edgeCrossings graph ∧
      ∀ threshold, crowdedNodes threshold graph.detached = crowdedNodes threshold graph) ∧
    ∀ way, edgeCrossings (graph.shifted way) = edgeCrossings graph ∧
      ∀ threshold, crowdedNodes threshold (graph.shifted way) = crowdedNodes threshold graph := by
  refine ⟨fun other way edges picture => diagnostics_of_picture distinct edges picture, ?_, ?_⟩
  · have unmoved : graph.detached.picture = graph.picture.map (Drawn.moved ⟨0, 0⟩) := by
      rw [graph.picture_detached]
      refine ((List.map_congr_left fun drawn _ => ?_).trans (List.map_id _)).symm
      simp only [Drawn.moved, add_zero, id]
    exact diagnostics_of_picture distinct rfl unmoved
  · intro way
    exact diagnostics_of_picture distinct rfl (graph.picture_shifted way)

/-- A group with a member, and outside of it a node with a parent that is not there. -/
def courtyard : Graph Rat where
  nodes := [
    { id := "m", kind := .plain, label := "M", parent := some "g", x := 0, y := 0 },
    { id := "g", kind := .group, label := "G", x := 100, y := 0, width := some 300,
      height := some 200 },
    { id := "o", kind := .plain, label := "O", x := 0, y := 100 },
    { id := "p", kind := .plain, label := "P", x := 0, y := 0 },
    { id := "q", kind := .plain, label := "Q", parent := some "gone", x := 100, y := 100 }]
  edges := [
    { id := "em-o-0", source := "m", target := "o" },
    { id := "ep-q-1", source := "p", target := "q" },
    { id := "eg-p-2", source := "g", target := "p" }]

theorem diagnostics_unmoved_courtyard :
    (courtyard.nodes.map Node.id).Nodup ∧
      courtyard.detached.nodes.map (fun node => (node.parent, node.x)) =
        [(none, 100), (none, 100), (none, 0), (none, 0), (some "gone", 100)] ∧
      edgeCrossings courtyard.detached = 2 ∧
      crowdedNodes 100 courtyard.detached = [] ∧
      crowdedNodes 101 courtyard.detached = ["m", "p", "q", "o"] ∧
      (courtyard.shifted ⟨-7, 1 / 2⟩).nodes.map Node.x = [0, 93, -7, -7, 93] ∧
      edgeCrossings (courtyard.shifted ⟨-7, 1 / 2⟩) = 2 := by
  have distinct : (courtyard.nodes.map Node.id).Nodup := by decide
  obtain ⟨-, ⟨crossings, crowded⟩, shifted⟩ := diagnostics_unmoved distinct
  refine ⟨distinct, by decide +kernel, ?_, ?_, ?_, by decide +kernel, ?_⟩
  · rw [crossings]
    decide +kernel
  · rw [crowded]
    decide +kernel
  · rw [crowded]
    decide +kernel
  · rw [(shifted _).1]
    decide +kernel

end Metrics

end Flowchart
