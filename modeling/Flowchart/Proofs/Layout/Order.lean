import Flowchart.Proofs.Layout.Lanes

/-!
The order of a layout.

A layout keeps every node and changes nothing but geometry. Without groups the nodes stay in their
order; with groups each group is followed by its members, and the nodes outside of all groups come
last, so that no node stands before its group.

Main definitions: `Node.MemberOf`, `Graph.LaidOut`. Main statement: `laidOut_layout`.
-/

namespace Flowchart

open Layout (ComponentLayout)

/-! ### Members -/

/-- A node belongs to a group that it names as its parent. Groups belong to no group. -/
structure Node.MemberOf {K : Type} (node group : Node K) : Prop where
  plain : node.isGroup = false
  isGroup : group.isGroup = true
  named : node.parent = some group.id

namespace Node

variable {K : Type} {node group : Node K}

/-- A member of a group is a plain node that names it as its parent. -/
theorem memberOf_iff : node.MemberOf group ↔
    node.isGroup = false ∧ group.isGroup = true ∧ node.parent = some group.id :=
  ⟨fun member => ⟨member.plain, member.isGroup, member.named⟩,
    fun ⟨plain, isGroup, named⟩ => ⟨plain, isGroup, named⟩⟩

instance : Decidable (node.MemberOf group) :=
  decidable_of_iff _ memberOf_iff.symm

/-- Geometry does not decide who belongs to a group. -/
theorem memberOf_still [Scalar K] : node.still.MemberOf group.still ↔ node.MemberOf group := by
  rw [memberOf_iff, memberOf_iff]
  rfl

end Node

/-- What a layout makes of a graph. -/
structure Graph.LaidOut {K : Type} [Scalar K] (before after : Graph K) : Prop
    extends before.Rearranged after where
  /-- Without groups every node keeps its place. -/
  flat : before.groups = [] → after.nodes.map Node.still = before.nodes.map Node.still
  /-- With groups each is followed by its members, and the nodes that belong to none come last. -/
  lanes : before.groups ≠ [] → after.nodes.map Node.still =
    ((before.groups.flatMap fun group =>
        group :: before.nodes.filter fun node => node.MemberOf group) ++
      before.nodes.filter fun node =>
        node.isGroup = false ∧ ∀ group ∈ before.groups, ¬ node.MemberOf group).map Node.still
  /-- No node stands before its group. -/
  groupsFirst : after.nodes.Pairwise fun node later => ¬ node.MemberOf later

/-! ### Shelves in the order of a layout -/

namespace Swimlane

variable {K : Type}

/-- On shelves every group stands before its members. -/
theorem Shelved.groupsFirst {shelves : List (Node K × List (Node K))} {others : List (Node K)}
    (shelved : Shelved shelves others) :
    (inOrder shelves others).Pairwise fun node later => ¬ node.MemberOf later := by
  have apart : shelves.Pairwise fun shelf later => shelf.1.id ≠ later.1.id :=
    List.pairwise_map.mp shelved.distinct
  -- a plain node is nobody's group
  have plain : ∀ node later : Node K, later.isGroup = false → ¬ node.MemberOf later := by
    intro node later isPlain member
    simp [member.isGroup] at isPlain
  have onShelf : ∀ shelf ∈ shelves,
      (shelf.1 :: shelf.2).Pairwise fun node later => ¬ node.MemberOf later := by
    intro shelf listed
    have inner : ∀ later ∈ shelf.2, later.isGroup = false :=
      fun later inside => (shelved.members shelf listed later inside).1
    exact .cons (fun later inside => plain _ _ (inner later inside))
      (List.pairwise_of_forall_mem_list fun _ _ later inside => plain _ _ (inner later inside))
  have across : shelves.Pairwise fun shelf next =>
      ∀ node ∈ shelf.1 :: shelf.2, ∀ later ∈ next.1 :: next.2, ¬ node.MemberOf later := by
    refine apart.imp_of_mem fun {shelf next} listed listed' differs node inside later inside' => ?_
    intro member
    rcases List.mem_cons.mp inside' with rfl | isMember
    · rcases List.mem_cons.mp inside with rfl | isMember
      · exact absurd member.plain (by simp [shelved.groups shelf listed])
      · obtain ⟨-, named⟩ := shelved.members shelf listed node isMember
        rw [member.named] at named
        exact differs (Option.some.inj named).symm
    · exact plain _ _ (shelved.members next listed' later isMember).1 member
  refine List.pairwise_append.mpr ⟨List.pairwise_flatMap.mpr ⟨onShelf, across⟩, ?_, ?_⟩
  · exact List.pairwise_of_forall_mem_list fun _ _ later outside =>
      plain _ _ (shelved.others later outside).1
  · exact fun _ _ later outside => plain _ _ (shelved.others later outside).1

/-- The order of a graph is that of its groups, each before its members, and then of the rest. -/
theorem order_eq_inOrder (groups nodes : List (Node K)) :
    order groups nodes =
      inOrder (groups.map fun group => (group, membersOf nodes group)) (orphans groups nodes) := by
  rw [order, inOrder, List.flatMap_map]

/-- The groups of a list of nodes with their members are shelves for it. -/
theorem shelved_order {nodes : List (Node K)} (distinct : (nodes.map Node.id).Nodup) :
    Shelved ((nodes.filter Node.isGroup).map fun group => (group, membersOf nodes group))
      (orphans (nodes.filter Node.isGroup) nodes) := by
  constructor
  case distinct =>
    rw [List.map_map]
    exact distinct.sublist (List.Sublist.map Node.id List.filter_sublist)
  case groups =>
    exact List.forall_mem_map.mpr fun group listed => (List.mem_filter.mp listed).2
  case members =>
    refine List.forall_mem_map.mpr fun group listed node isMember => ?_
    simpa using (List.mem_filter.mp isMember).2
  case others =>
    intro node isOrphan
    obtain ⟨plain, foreign⟩ : node.isGroup = false ∧
        ∀ group ∈ nodes.filter Node.isGroup, ¬ node.parent = some group.id := by
      simpa [orphans] using (List.mem_filter.mp isOrphan).2
    exact ⟨plain, List.forall_mem_map.mpr foreign⟩

theorem membersOf_eq_filter (nodes : List (Node K)) {group : Node K}
    (isGroup : group.isGroup = true) :
    membersOf nodes group = nodes.filter fun node => node.MemberOf group := by
  refine List.filter_congr fun node _ => ?_
  rw [Bool.eq_iff_iff]
  simp [Node.memberOf_iff, isGroup]

/-- Outside the groups are the plain nodes that are members of none. -/
theorem orphans_eq_filter {groups : List (Node K)} (nodes : List (Node K))
    (areGroups : ∀ group ∈ groups, group.isGroup = true) :
    orphans groups nodes = nodes.filter fun node =>
      node.isGroup = false ∧ ∀ group ∈ groups, ¬ node.MemberOf group := by
  refine List.filter_congr fun node _ => ?_
  have foreign : node.isGroup = false →
      ((∀ group ∈ groups, ¬ node.parent = some group.id) ↔
        ∀ group ∈ groups, ¬ node.MemberOf group) := by
    intro plain
    refine forall₂_congr fun group listed => ?_
    rw [Node.memberOf_iff]
    simp [plain, areGroups group listed]
  rw [Bool.eq_iff_iff]
  simpa using foreign

end Swimlane

/-! ### Graphs -/

namespace Graph

variable {K : Type}

/-- No node stands before the group that it is a member of. -/
theorem groupsFirst_order {graph : Graph K} (distinct : (graph.nodes.map Node.id).Nodup) :
    graph.order.Pairwise fun node later => ¬ node.MemberOf later := by
  unfold order
  split
  case isTrue empty =>
    -- without groups no node belongs to one
    refine List.pairwise_of_forall_mem_list fun node _ later listed member => ?_
    have isGroup : later ∈ graph.groups := List.mem_filter.mpr ⟨listed, member.isGroup⟩
    rw [List.isEmpty_iff.mp empty] at isGroup
    cases isGroup
  case isFalse =>
    rw [Swimlane.order_eq_inOrder]
    exact (Swimlane.shelved_order distinct).groupsFirst

/-- A layout keeps what is not geometry, and puts each group before its members. -/
theorem laidOut_layout [Scalar K] (layout : ComponentLayout K) (options : LayoutOptions K)
    {graph : Graph K} (distinct : (graph.nodes.map Node.id).Nodup) :
    graph.LaidOut (graph.layout layout options) := by
  have ordered := map_still_layout layout options graph
  constructor
  case toRearranged => exact rearranged_layout layout options distinct
  case flat =>
    intro ungrouped
    rw [ordered, order, ungrouped]
    rfl
  case lanes =>
    intro grouped
    have areGroups : ∀ group ∈ graph.groups, group.isGroup = true :=
      fun group => isGroup_of_mem_groups
    have members :
        graph.groups.flatMap (fun group => group :: Swimlane.membersOf graph.nodes group) =
          graph.groups.flatMap fun group =>
          group :: graph.nodes.filter fun node => node.MemberOf group := by
      refine List.flatMap_congr fun group listed => ?_
      rw [Swimlane.membersOf_eq_filter graph.nodes (areGroups group listed)]
    rw [ordered, order, if_neg (by simpa using grouped), Swimlane.order, members,
      Swimlane.orphans_eq_filter graph.nodes areGroups]
  case groupsFirst =>
    have transfer : ∀ nodes : List (Node K),
        nodes.Pairwise (fun node later => ¬ node.MemberOf later) ↔
          (nodes.map Node.still).Pairwise fun node later => ¬ node.MemberOf later := by
      intro nodes
      simp only [List.pairwise_map, Node.memberOf_still]
    rw [transfer, ordered, ← transfer]
    exact groupsFirst_order distinct

theorem laidOut_layout_backendGraph :
    (backendGraph.nodes.map Node.id).Nodup ∧
      backendGraph.LaidOut (backendGraph.layout (fun _ _ _ => [⟨7, -5⟩]) .standard) ∧
      (backendGraph.layout (fun _ _ _ => [⟨7, -5⟩]) .standard).nodes.map Node.id =
        ["backend", "d", "p", "empty", "o"] := by
  have distinct : (backendGraph.nodes.map Node.id).Nodup := by decide
  have laidOut := laidOut_layout (fun _ _ _ => [⟨7, -5⟩]) .standard distinct
  refine ⟨distinct, laidOut, ?_⟩
  have ids := congrArg (List.map Node.id) (laidOut.lanes (List.cons_ne_nil _ _))
  rw [Node.map_id_still, Node.map_id_still] at ids
  rw [ids]
  decide

end Graph

end Flowchart
