import Mathlib.Logic.Relation
import Flowchart.Layout.Layered.Drawing
import Flowchart.Proofs.Distinct
import Flowchart.Proofs.Layout.Forgetful
import Flowchart.Proofs.Layout.Page

/-!
Partitions that do not know of each other.

The nodes of a group, or those outside of all groups, are placed by the edges among them: each
pair of ends counts once, and no node is tied to itself. Of the nodes only ids and kinds are looked
at. So edges that tie nothing together inside one partition change no position, and a group looks
the same in any two graphs that agree on its members and the edges among them.

Main definitions: `Swimlane.ties`, `Graph.Ignored`. Main statement: `layout_independent`.
-/

namespace Flowchart

open Layout (ComponentLayout)

variable {K : Type}

/-- The ids of the two nodes that an edge joins. -/
def Edge.ends (edge : Edge) : String × String :=
  (edge.source, edge.target)

/-! ### Edges that tie nodes together -/

namespace Layout

theorem properEdges_congr {ids ids' : List String} (same : ∀ id, id ∈ ids ↔ id ∈ ids')
    (edges : List (String × String)) : properEdges ids edges = properEdges ids' edges := by
  have contains : ∀ id, ids.contains id = ids'.contains id := by
    intro id
    rw [Bool.eq_iff_iff, List.contains_iff_mem, List.contains_iff_mem]
    exact same id
  simp only [properEdges, contains]

/-- An edge adds nothing if it joins no two different ids, or if it was there before. -/
theorem properEdges_insert {ids : List String} {before : List (String × String)}
    {edge : String × String} (idle : edge ∈ before ∨ edge.1 = edge.2 ∨ edge.1 ∉ ids ∨ edge.2 ∉ ids)
    (after : List (String × String)) :
    properEdges ids (before ++ edge :: after) = properEdges ids (before ++ after) := by
  unfold properEdges
  rw [List.filter_append, List.filter_append, List.filter_cons]
  split
  case isFalse => rfl
  case isTrue proper =>
    obtain ⟨⟨differ, source⟩, target⟩ :
        (edge.1 ≠ edge.2 ∧ edge.1 ∈ ids) ∧ edge.2 ∈ ids := by simpa using proper
    have listed : edge ∈ before := by
      rcases idle with listed | loop | stray | stray
      · exact listed
      · exact absurd loop differ
      · exact absurd source stray
      · exact absurd target stray
    apply eraseDups_insert_of_mem
    exact List.mem_filter.mpr ⟨listed, proper⟩

variable [Scalar K]

/-- A placement looks at the proper edges only. -/
theorem place_congr (layout : ComponentLayout K) (options : PlacementOptions K)
    {sizes : Keyed (Size K)} {edges edges' : List (String × String)}
    (same : properEdges sizes.keys edges = properEdges sizes.keys edges') :
    place layout options sizes edges = place layout options sizes edges' := by
  unfold place
  rw [same]

end Layout

namespace Swimlane

/-- What placement sees of the edges: the pairs of different members that are joined, each once. -/
def ties (edges : List Edge) (ids : List String) : List (String × String) :=
  Layout.properEdges ids (edges.map Edge.ends)

theorem internalEdges_eq_filter (edges : List Edge) (members : List (Node K)) :
    internalEdges edges members = (edges.map Edge.ends).filter fun ends =>
      (members.map Node.id).contains ends.1 && (members.map Node.id).contains ends.2 := by
  rw [internalEdges, List.filter_map]
  rfl

/-- The proper edges among the members are what ties them together. -/
theorem properEdges_internalEdges (edges : List Edge) (members : List (Node K)) :
    Layout.properEdges (members.map Node.id) (internalEdges edges members) =
      ties edges (members.map Node.id) := by
  rw [internalEdges_eq_filter, ties, Layout.properEdges, Layout.properEdges, List.filter_filter]
  congr 1
  refine List.filter_congr fun ends _ => ?_
  cases (members.map Node.id).contains ends.1 <;> cases (members.map Node.id).contains ends.2 <;>
    simp

section Placing

variable [Scalar K] (layout : ComponentLayout K) (options : LayoutOptions K)
  {edges edges' : List Edge} {members : List (Node K)}

/-- Members are placed alike where the same edges tie them. -/
theorem placeNodes_of_ties (corner : Point K)
    (same : ties edges (members.map Node.id) = ties edges' (members.map Node.id)) :
    placeNodes layout options edges corner members =
      placeNodes layout options edges' corner members := by
  have known : ∀ id,
      id ∈ (Keyed.ofPairs (members.map fun node => (node.id, node.footprint))).keys ↔
        id ∈ members.map Node.id := by
    intro id
    rw [Keyed.mem_keys_ofPairs, List.map_map]
    rfl
  have proper : ∀ edges, Layout.properEdges
      (Keyed.ofPairs (members.map fun node => (node.id, node.footprint))).keys
        (internalEdges edges members) = ties edges (members.map Node.id) := by
    intro edges
    rw [Layout.properEdges_congr known, properEdges_internalEdges]
  unfold placeNodes
  dsimp only
  rw [Layout.place_congr layout _ ((proper edges).trans (same.trans (proper edges').symm))]

theorem lane_of_ties
    (same : ties edges (members.map Node.id) = ties edges' (members.map Node.id)) :
    lane layout options edges members = lane layout options edges' members := by
  unfold lane
  rw [placeNodes_of_ties layout options _ same]

end Placing

end Swimlane

/-! ### Ids and kinds -/

section Outlines

variable [Scalar K]

/-- The id and the kind of a node. -/
def Node.outline (node : Node K) : Node K :=
  { id := node.id, kind := node.kind, label := "", x := Scalar.zero, y := Scalar.zero }

/-- The id, the kind and the position of a node. -/
def Node.placement (node : Node K) : Node K :=
  { id := node.id, kind := node.kind, label := "", x := node.x, y := node.y }

namespace Swimlane

variable (layout : ComponentLayout K) (options : LayoutOptions K) (edges : List Edge)

/-- Placing looks at ids and kinds only. -/
theorem placeNodes_outline (corner : Point K) (members : List (Node K)) :
    placeNodes layout options edges corner (members.map Node.outline) =
      (placeNodes layout options edges corner members).map Node.placement :=
  placeNodes_map layout options edges corner Node.outline Node.placement (fun _ => rfl)
    (fun _ => rfl) fun _ _ _ _ => rfl

/-- A lane depends on nothing but the ids and the sizes of its members. -/
theorem lane_outline (members : List (Node K)) :
    lane layout options edges (members.map Node.outline) =
      ⟨(lane layout options edges members).size,
        (lane layout options edges members).members.map Node.placement⟩ := by
  cases members with
  | nil => rfl
  | cons first members =>
    have inhabited : ((first :: members).map Node.outline).isEmpty = false := rfl
    simp only [lane, inhabited, List.isEmpty_cons, Bool.false_eq_true, if_false,
      placeNodes_outline, Layout.smallest_map, Layout.largest_map, List.map_map]
    rfl

/-- Lanes are alike if their members have the same ids and kinds, and the same edges among them. -/
theorem lane_of_outline {edges edges' : List Edge} {members members' : List (Node K)}
    (sameMembers : members'.map Node.outline = members.map Node.outline)
    (sameEdges : internalEdges edges' members' = internalEdges edges members) :
    (lane layout options edges' members').size = (lane layout options edges members).size ∧
      (lane layout options edges' members').members.map Node.placement =
        (lane layout options edges members).members.map Node.placement := by
  have sameIds : members'.map Node.id = members.map Node.id := by
    have ids := congrArg (List.map Node.id) sameMembers
    rwa [List.map_map, List.map_map] at ids
  have sameTies : ties edges' (members.map Node.id) = ties edges (members.map Node.id) := by
    rw [← properEdges_internalEdges edges members, ← sameEdges, ← sameIds,
      properEdges_internalEdges]
  have outlineIds : (members.map Node.outline).map Node.id = members.map Node.id := by
    rw [List.map_map]
    rfl
  have same : lane layout options edges' (members.map Node.outline) =
      lane layout options edges (members.map Node.outline) := by
    apply lane_of_ties
    rw [outlineIds, sameTies]
  rw [← sameMembers, lane_outline, sameMembers, lane_outline, Lane.mk.injEq] at same
  exact same

end Swimlane

end Outlines

/-! ### Edges that a layout ignores -/

namespace Graph

/-- Nodes of one partition: they belong to the same group, or none of them to any. -/
structure Part (graph : Graph K) (members : List (Node K)) : Prop where
  listed : ∀ node ∈ members, node ∈ graph.nodes
  plain : ∀ node ∈ members, node.isGroup = false
  together : ∀ node ∈ members, ∀ other ∈ members, graph.laneOf? node = graph.laneOf? other

/-- An edge that ties nothing together inside a partition: it joins nodes of different ones, it
starts or ends at a group, it leads back to where it starts, or an earlier edge joins the same
nodes. -/
inductive Ignored (graph : Graph K) (earlier : List Edge) (edge : Edge) : Prop where
  | across {node other : Node K} (isNode : node ∈ graph.nodes) (isOther : other ∈ graph.nodes)
      (source : edge.source = node.id) (target : edge.target = other.id)
      (apart : graph.laneOf? node ≠ graph.laneOf? other)
  | atGroup {group : Node K} (isGroup : group ∈ graph.groups)
      (touches : edge.source = group.id ∨ edge.target = group.id)
  | loop (same : edge.source = edge.target)
  | again {first : Edge} (before : first ∈ earlier) (source : edge.source = first.source)
      (target : edge.target = first.target)

/-- Edges with an ignored one more. -/
def AddsIgnored (graph : Graph K) (edges more : List Edge) : Prop :=
  ∃ before edge after, graph.Ignored before edge ∧ edges = before ++ after ∧
    more = before ++ edge :: after

/-- The members of a group are a part of the graph. -/
theorem part_membersOf (graph : Graph K) (group : Node K) :
    graph.Part (Swimlane.membersOf graph.nodes group) := by
  have inside : ∀ node ∈ Swimlane.membersOf graph.nodes group, node ∈ graph.nodes ∧
      node.isGroup = false ∧ node.parent = some group.id := by
    intro node member
    obtain ⟨listed, belongs⟩ := List.mem_filter.mp member
    exact ⟨listed, by simpa using belongs⟩
  constructor
  case listed => exact fun node member => (inside node member).1
  case plain => exact fun node member => (inside node member).2.1
  case together =>
    intro node member other member'
    simp only [laneOf?, (inside node member).2.2, (inside other member').2.2]

/-- The nodes outside all groups are a part of the graph. -/
theorem part_orphans (graph : Graph K) :
    graph.Part (Swimlane.orphans graph.groups graph.nodes) := by
  have outside : ∀ node ∈ Swimlane.orphans graph.groups graph.nodes, node ∈ graph.nodes ∧
      node.isGroup = false ∧ graph.laneOf? node = none := by
    intro node orphan
    obtain ⟨listed, foreign⟩ := List.mem_filter.mp orphan
    obtain ⟨plain, none⟩ := Bool.and_eq_true_iff.mp foreign
    refine ⟨listed, by simpa using plain, ?_⟩
    simpa [laneOf?] using none
  constructor
  case listed => exact fun node orphan => (outside node orphan).1
  case plain => exact fun node orphan => (outside node orphan).2.1
  case together =>
    intro node orphan other orphan'
    rw [(outside node orphan).2.2, (outside other orphan').2.2]

/-- Nodes with the same id are the same node. -/
theorem eq_of_id {graph : Graph K} (distinct : (graph.nodes.map Node.id).Nodup)
    {node other : Node K}
    (listed : node ∈ graph.nodes) (listed' : other ∈ graph.nodes) (same : node.id = other.id) :
    node = other :=
  List.inj_on_of_nodup_map distinct listed listed' same

/-- An ignored edge ties no nodes of a partition together that were not tied before. -/
theorem ties_insert {graph : Graph K} (distinct : (graph.nodes.map Node.id).Nodup)
    {members : List (Node K)} (part : graph.Part members) {before : List Edge} {edge : Edge}
    (ignored : graph.Ignored before edge) (after : List Edge) :
    Swimlane.ties (before ++ edge :: after) (members.map Node.id) =
      Swimlane.ties (before ++ after) (members.map Node.id) := by
  unfold Swimlane.ties
  rw [List.map_append, List.map_cons, List.map_append]
  apply Layout.properEdges_insert
  cases ignored with
  | @across node other isNode isOther source target apart =>
      -- both ends cannot be members
      by_cases inside : edge.source ∈ members.map Node.id ∧ edge.target ∈ members.map Node.id
      · obtain ⟨first, member, first_id⟩ := List.mem_map.mp inside.1
        obtain ⟨second, member', second_id⟩ := List.mem_map.mp inside.2
        have isFirst : first = node :=
          eq_of_id distinct (part.listed first member) isNode (first_id.trans source)
        have isSecond : second = other :=
          eq_of_id distinct (part.listed second member') isOther (second_id.trans target)
        subst isFirst isSecond
        exact absurd (part.together first member second member') apart
      · exact Or.inr (Or.inr (not_and_or.mp inside))
  | @atGroup group isGroup touches =>
      have outside : group.id ∉ members.map Node.id := by
        intro inside
        obtain ⟨node, member, same⟩ := List.mem_map.mp inside
        have isNode := (List.mem_filter.mp isGroup).1
        have plain := part.plain node member
        rw [eq_of_id distinct (part.listed node member) isNode same,
          isGroup_of_mem_groups isGroup] at plain
        cases plain
      rcases touches with source | target
      · exact Or.inr (Or.inr (Or.inl (by rwa [Edge.ends, source])))
      · exact Or.inr (Or.inr (Or.inr (by rwa [Edge.ends, target])))
  | loop same => exact Or.inr (Or.inl same)
  | @again first earlier source target =>
      refine Or.inl (List.mem_map.mpr ⟨first, earlier, ?_⟩)
      rw [Edge.ends, Edge.ends, source, target]

/-- Adding and removing ignored edges, in any number and order, keeps what ties a part together. -/
theorem ties_of_eqvGen {graph : Graph K} (distinct : (graph.nodes.map Node.id).Nodup)
    {edges edges' : List Edge} (altered : Relation.EqvGen graph.AddsIgnored edges edges')
    {members : List (Node K)} (part : graph.Part members) :
    Swimlane.ties edges' (members.map Node.id) = Swimlane.ties edges (members.map Node.id) := by
  induction altered with
  | rel edges more adds =>
      obtain ⟨before, edge, after, ignored, rfl, rfl⟩ := adds
      exact ties_insert distinct part ignored after
  | refl edges => rfl
  | symm edges edges' _ ih => exact ih.symm
  | trans edges between edges' _ _ ih ih' => exact ih'.trans ih

/-! ### Layouts -/

section Layouts

variable [Scalar K] (layout : ComponentLayout K) (options : LayoutOptions K)

/-- Edges matter only by what they tie together inside partitions. -/
theorem layout_nodes_of_ties {graph : Graph K} (grouped : graph.groups ≠ []) {edges : List Edge}
    (same : ∀ members, graph.Part members →
      Swimlane.ties edges (members.map Node.id) =
        Swimlane.ties graph.edges (members.map Node.id)) :
    (Graph.layout layout options { graph with edges }).nodes =
      (graph.layout layout options).nodes := by
  have sameLanes :
      lanes layout options { graph with edges } = graph.lanes layout options := by
    refine List.map_congr_left fun group _ => congrArg (Prod.mk group) ?_
    exact Swimlane.lane_of_ties layout options (same _ (graph.part_membersOf group))
  have sameOrphans :
      placedOrphans layout options { graph with edges } = graph.placedOrphans layout options := by
    unfold placedOrphans orphanCorner
    rw [sameLanes]
    exact Swimlane.placeNodes_of_ties layout options _ (same _ graph.part_orphans)
  have alsoGrouped : groups { graph with edges } ≠ [] := grouped
  rw [layout_nodes layout options alsoGrouped, layout_nodes layout options grouped, shelves,
    shelves, sameLanes, sameOrphans]

/-- Partitions do not know of each other. Edges that tie nothing together inside a partition may
come and go without any node changing its place or any group its size. And a group with members of
the same ids and kinds in the same order, and the same edges among them, is as large and holds them
at the same positions in whatever graph it is. -/
theorem layout_independent {graph : Graph K} (distinct : (graph.nodes.map Node.id).Nodup)
    (grouped : graph.groups ≠ []) :
    (∀ edges, Relation.EqvGen graph.AddsIgnored graph.edges edges →
      (Graph.layout layout options { graph with edges }).nodes =
        (graph.layout layout options).nodes) ∧
    ∀ other : Graph K, (other.nodes.map Node.id).Nodup →
      ∀ group ∈ graph.groups, ∀ twin ∈ other.groups,
        (Swimlane.membersOf other.nodes twin).map Node.outline =
          (Swimlane.membersOf graph.nodes group).map Node.outline →
        Swimlane.internalEdges other.edges (Swimlane.membersOf other.nodes twin) =
          Swimlane.internalEdges graph.edges (Swimlane.membersOf graph.nodes group) →
        ∃ placed placedTwin, (graph.layout layout options).node? group.id = some placed ∧
          (other.layout layout options).node? twin.id = some placedTwin ∧
          placedTwin.width = placed.width ∧ placedTwin.height = placed.height ∧
          (Swimlane.membersOf (other.layout layout options).nodes placedTwin).map Node.placement =
            (Swimlane.membersOf (graph.layout layout options).nodes placed).map
              Node.placement := by
  constructor
  · intro edges altered
    apply layout_nodes_of_ties layout options grouped
    exact fun members part => ties_of_eqvGen distinct altered part
  · intro other distinctOther group isGroup twin isTwin sameMembers sameEdges
    obtain ⟨placed, found, -, width, height, members⟩ :=
      node?_layout layout options distinct isGroup
    obtain ⟨placedTwin, foundTwin, -, widthTwin, heightTwin, membersTwin⟩ :=
      node?_layout layout options distinctOther isTwin
    obtain ⟨sameSize, samePlaces⟩ :=
      Swimlane.lane_of_outline layout options sameMembers sameEdges
    refine ⟨placed, placedTwin, found, foundTwin, ?_, ?_, ?_⟩
    · rw [width, widthTwin, lane, lane, sameSize]
    · rw [height, heightTwin, lane, lane, sameSize]
    · rw [members, membersTwin, lane, lane, samePlaces]

end Layouts

/-- The edge of `backendGraph` among others that tie nothing together. -/
def noisyEdges : List Edge := [
  { id := "across", source := "o", target := "d" },
  { id := "e", source := "d", target := "p" },
  { id := "loop", source := "p", target := "p" },
  { id := "again", source := "d", target := "p", stroke := .dotted },
  { id := "group", source := "empty", target := "p" }]

theorem eqvGen_noisyEdges :
    Relation.EqvGen backendGraph.AddsIgnored backendGraph.edges noisyEdges := by
  let own := backendGraph.edges
  let across : Edge := { id := "across", source := "o", target := "d" }
  let loop : Edge := { id := "loop", source := "p", target := "p" }
  let again : Edge := { id := "again", source := "d", target := "p", stroke := .dotted }
  let group : Edge := { id := "group", source := "empty", target := "p" }
  have looped : backendGraph.AddsIgnored own (own ++ [loop]) :=
    ⟨own, loop, [], .loop rfl, rfl, rfl⟩
  have repeated : backendGraph.AddsIgnored (own ++ [loop]) (own ++ [loop, again]) :=
    ⟨own ++ [loop], again, [], .again List.mem_cons_self rfl rfl, rfl, rfl⟩
  have attached : backendGraph.AddsIgnored (own ++ [loop, again]) (own ++ [loop, again, group]) :=
    ⟨own ++ [loop, again], group, [],
      .atGroup (List.mem_cons_of_mem _ List.mem_cons_self) (Or.inl rfl), rfl, rfl⟩
  have joined : backendGraph.AddsIgnored (own ++ [loop, again, group]) noisyEdges := by
    refine ⟨[], across, _, ?_, rfl, rfl⟩
    have outer : backendGraph.nodes[4] ∈ backendGraph.nodes := List.getElem_mem _
    have inner : backendGraph.nodes[0] ∈ backendGraph.nodes := List.getElem_mem _
    exact .across outer inner rfl rfl nofun
  exact .trans _ _ _ (.rel _ _ looped) (.trans _ _ _ (.rel _ _ repeated)
    (.trans _ _ _ (.rel _ _ attached) (.rel _ _ joined)))

/-- A graph with a group like that of `backendGraph`, under another name and below another group. -/
def rivalGraph : Graph Rat where
  nodes := [
    { id := "front", kind := .group, label := "Front", x := 0, y := 0 },
    { id := "core", kind := .group, label := "Core", x := 0, y := 0 },
    { id := "f", kind := .plain, label := "F", parent := some "front", x := 0, y := 0 },
    { id := "d", kind := .decision, label := "Done?", parent := some "core", x := 4, y := 2 },
    { id := "p", kind := .plain, label := "Proceed", parent := some "core", x := 0, y := 0 }]
  edges := [{ id := "c", source := "f", target := "d" },
    { id := "e", source := "d", target := "p" }]

theorem layout_independent_backendGraph :
    (backendGraph.nodes.map Node.id).Nodup ∧ backendGraph.groups ≠ [] ∧
      Relation.EqvGen backendGraph.AddsIgnored backendGraph.edges noisyEdges ∧
      (Graph.layout Layout.layered .standard { backendGraph with edges := noisyEdges }).nodes =
        (backendGraph.layout Layout.layered .standard).nodes ∧
      ∃ placed placedTwin,
        (backendGraph.layout Layout.layered .standard).node? "backend" = some placed ∧
        (rivalGraph.layout Layout.layered .standard).node? "core" = some placedTwin ∧
        placedTwin.width = placed.width ∧ placedTwin.height = placed.height ∧
        (Swimlane.membersOf (rivalGraph.layout Layout.layered .standard).nodes placedTwin).map
            Node.placement =
          (Swimlane.membersOf (backendGraph.layout Layout.layered .standard).nodes placed).map
            Node.placement := by
  have distinct : (backendGraph.nodes.map Node.id).Nodup := by decide
  have distinctRival : (rivalGraph.nodes.map Node.id).Nodup := by decide
  have grouped : backendGraph.groups ≠ [] := List.cons_ne_nil _ _
  obtain ⟨keeps, alike⟩ := layout_independent Layout.layered .standard distinct grouped
  refine ⟨distinct, grouped, eqvGen_noisyEdges, keeps noisyEdges eqvGen_noisyEdges, ?_⟩
  exact alike rivalGraph distinctRival backend List.mem_cons_self rivalGraph.nodes[1]
    (List.mem_cons_of_mem _ List.mem_cons_self) rfl rfl

end Graph

end Flowchart
