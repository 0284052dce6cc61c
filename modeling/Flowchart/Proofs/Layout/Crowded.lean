import Flowchart.Proofs.Distinct
import Flowchart.Proofs.Layout.Picture

/-!
Nodes that stand too close together.

In exact arithmetic a node is listed as crowded exactly if it is no group and another node that is
none stands closer to it on the page than the distance asked for. It is listed once, however many
nodes crowd it and whether it comes before or after them. The order of the nodes decides nothing but
the order of the list, and at a larger distance no node is left out that was listed before.

Main definition: `Graph.Crowded`. Main statement: `crowdedNodes_exact`.
-/

namespace Flowchart

/-- The square of the distance between two points. -/
def squaredDistance (p q : Point Rat) : Rat :=
  (p.x - q.x) * (p.x - q.x) + (p.y - q.y) * (p.y - q.y)

theorem squaredDistance_comm (p q : Point Rat) : squaredDistance p q = squaredDistance q p := by
  unfold squaredDistance
  ring

theorem squaredDistance_nonneg (p q : Point Rat) : 0 ≤ squaredDistance p q :=
  add_nonneg (mul_self_nonneg _) (mul_self_nonneg _)

/-- A node is no group, and closer to it than a distance stands another node that is none. -/
def Graph.Crowded (graph : Graph Rat) (threshold : Rat) (node : Node Rat) : Prop :=
  node.isGroup = false ∧ ∃ other ∈ graph.nodes, other.id ≠ node.id ∧ other.isGroup = false ∧
    squaredDistance (graph.pageCorner node) (graph.pageCorner other) < threshold * threshold

/-- With a larger threshold no fewer nodes are crowded. -/
theorem Graph.Crowded.mono {graph : Graph Rat} {threshold larger : Rat} (nonneg : 0 ≤ threshold)
    (grows : threshold ≤ larger) {node : Node Rat} (crowded : graph.Crowded threshold node) :
    graph.Crowded larger node := by
  obtain ⟨plain, other, listed, differs, plain', closer⟩ := crowded
  exact ⟨plain, other, listed, differs, plain',
    closer.trans_le (mul_self_le_mul_self nonneg grows)⟩

namespace Metrics

variable {graph : Graph Rat} {threshold : Rat}

/-- The length of a way is compared through its square. -/
theorem near_iff (nonneg : 0 ≤ threshold) {a b : Drawn} :
    near threshold a b = true ↔ squaredDistance a.corner b.corner < threshold * threshold := by
  have isShorter : near threshold a b = true ↔
      0 < threshold ∧ squaredDistance a.corner b.corner < threshold * threshold := by
    simp [near, Scalar.shorter, squaredDistance]
  rw [isShorter, and_iff_right_iff_imp]
  intro closer
  apply nonneg.lt_of_ne
  rintro rfl
  rw [mul_zero] at closer
  exact absurd closer (squaredDistance_nonneg _ _).not_gt

theorem mem_plainNodes_picture {drawn : Drawn} :
    drawn ∈ plainNodes graph.picture ↔
      ∃ node ∈ graph.nodes, node.isGroup = false ∧ graph.drawn node = drawn := by
  rw [plainNodes_picture, List.mem_map]
  simp only [List.mem_filter, Bool.not_eq_true', and_assoc]

/-- A node is an end of a close pair if another one is near, on whichever side of the pair it
stands. -/
theorem mem_nearPairs_iff (nonneg : 0 ≤ threshold) {picture : List Drawn}
    (distinct : (picture.map Drawn.id).Nodup) {id : String} :
    (∃ pair ∈ nearPairs threshold picture, id = pair.1.id ∨ id = pair.2.id) ↔
      ∃ drawn ∈ plainNodes picture, drawn.id = id ∧
        ∃ other ∈ plainNodes picture, other.id ≠ drawn.id ∧
          squaredDistance drawn.corner other.corner < threshold * threshold := by
  have apart : (plainNodes picture).Pairwise fun first second => first.id ≠ second.id :=
    List.pairwise_map.mp (distinct.sublist (List.filter_sublist.map Drawn.id))
  constructor
  · rintro ⟨⟨first, second⟩, close, isEnd⟩
    obtain ⟨listed, isNear⟩ := List.mem_filter.mp close
    obtain ⟨isFirst, isSecond⟩ := mem_of_mem_pairs listed
    have differs := forall_mem_pairs.mpr apart _ listed
    have closer := (near_iff nonneg).mp isNear
    rcases isEnd with atFirst | atSecond
    · exact ⟨first, isFirst, atFirst.symm, second, isSecond, differs.symm, closer⟩
    · rw [squaredDistance_comm] at closer
      exact ⟨second, isSecond, atSecond.symm, first, isFirst, differs, closer⟩
  · rintro ⟨drawn, isFirst, rfl, other, isSecond, differs, closer⟩
    have different : drawn ≠ other := fun same => differs (congrArg Drawn.id same.symm)
    rcases mem_pairs_or isFirst isSecond different with before | after
    · exact ⟨_, List.mem_filter.mpr ⟨before, (near_iff nonneg).mpr closer⟩, Or.inl rfl⟩
    · rw [squaredDistance_comm] at closer
      exact ⟨_, List.mem_filter.mpr ⟨after, (near_iff nonneg).mpr closer⟩, Or.inr rfl⟩

/-- The ids that are listed are those of crowded nodes. -/
theorem mem_crowdedNodes (distinct : (graph.nodes.map Node.id).Nodup) (nonneg : 0 ≤ threshold)
    {id : String} :
    id ∈ crowdedNodes threshold graph ↔
      ∃ node ∈ graph.nodes, node.id = id ∧ graph.Crowded threshold node := by
  have inPicture : (graph.picture.map Drawn.id).Nodup := by
    rwa [Graph.map_id_picture]
  rw [crowdedNodes_eq distinct, List.mem_eraseDups, List.mem_flatMap]
  simp only [List.mem_cons, List.not_mem_nil, or_false]
  rw [mem_nearPairs_iff nonneg inPicture]
  constructor
  · rintro ⟨drawn, isPlain, sameId, other, isPlain', differs, closer⟩
    obtain ⟨node, listed, plain, rfl⟩ := mem_plainNodes_picture.mp isPlain
    obtain ⟨second, listed', plain', rfl⟩ := mem_plainNodes_picture.mp isPlain'
    exact ⟨node, listed, sameId, plain, second, listed', differs, plain', closer⟩
  · rintro ⟨node, listed, sameId, plain, second, listed', differs, plain', closer⟩
    exact ⟨graph.drawn node, mem_plainNodes_picture.mpr ⟨node, listed, plain, rfl⟩, sameId,
      graph.drawn second, mem_plainNodes_picture.mpr ⟨second, listed', plain', rfl⟩, differs,
      closer⟩

/-! ### Order and distance -/

/-- Nodes in another order stand where they stood. -/
theorem pageCorner_of_perm (distinct : (graph.nodes.map Node.id).Nodup) {nodes : List (Node Rat)}
    (perm : nodes.Perm graph.nodes) (node : Node Rat) :
    Graph.pageCorner { graph with nodes := nodes } node = graph.pageCorner node := by
  have distinct' : (nodes.map Node.id).Nodup := (perm.map Node.id).nodup_iff.mpr distinct
  have sameGroups : ∀ group,
      group ∈ Graph.groups { graph with nodes := nodes } ↔ group ∈ graph.groups :=
    fun group => (perm.filter Node.isGroup).mem_iff
  have sameHost : Graph.host? { graph with nodes := nodes } node = graph.host? node := by
    apply Option.ext
    intro group
    rw [Graph.host?_eq_some_iff distinct, Graph.host?_eq_some_iff distinct']
    constructor
    · exact fun holds => { holds with listed := (sameGroups group).mp holds.listed }
    · exact fun holds => { holds with listed := (sameGroups group).mpr holds.listed }
  rw [Graph.pageCorner, sameHost, Graph.pageCorner]

/-- The order of nodes does not matter for which of them are crowded. -/
theorem crowded_of_perm (distinct : (graph.nodes.map Node.id).Nodup) {nodes : List (Node Rat)}
    (perm : nodes.Perm graph.nodes) (node : Node Rat) :
    Graph.Crowded { graph with nodes := nodes } threshold node ↔ graph.Crowded threshold node := by
  simp only [Graph.Crowded, pageCorner_of_perm distinct perm, perm.mem_iff]

/-- The crowded nodes are listed, each once and no others. Which ones these are does not depend on
the order of the nodes, and at a larger distance there are no fewer. -/
theorem crowdedNodes_exact (distinct : (graph.nodes.map Node.id).Nodup)
    (nonneg : 0 ≤ threshold) :
    (crowdedNodes threshold graph).Nodup ∧
      (∀ id ∈ crowdedNodes threshold graph, ∃ node ∈ graph.nodes, node.id = id) ∧
      (∀ node ∈ graph.nodes,
        node.id ∈ crowdedNodes threshold graph ↔ graph.Crowded threshold node) ∧
      (∀ nodes, nodes.Perm graph.nodes → ∀ id,
        id ∈ crowdedNodes threshold { graph with nodes := nodes } ↔
          id ∈ crowdedNodes threshold graph) ∧
      ∀ larger, threshold ≤ larger →
        crowdedNodes threshold graph ⊆ crowdedNodes larger graph := by
  refine ⟨?_, ?_, ?_, ?_, ?_⟩
  · rw [crowdedNodes_eq distinct]
    exact nodup_eraseDups _
  · intro id listed
    obtain ⟨node, isNode, sameId, -⟩ := (mem_crowdedNodes distinct nonneg).mp listed
    exact ⟨node, isNode, sameId⟩
  · intro node isNode
    rw [mem_crowdedNodes distinct nonneg]
    constructor
    · rintro ⟨other, isOther, sameId, crowded⟩
      rwa [List.inj_on_of_nodup_map distinct isOther isNode sameId] at crowded
    · exact fun crowded => ⟨node, isNode, rfl, crowded⟩
  · intro nodes perm id
    have distinct' : (nodes.map Node.id).Nodup := (perm.map Node.id).nodup_iff.mpr distinct
    rw [mem_crowdedNodes distinct nonneg, mem_crowdedNodes distinct' nonneg]
    simp only [crowded_of_perm distinct perm, perm.mem_iff]
  · intro larger grows id listed
    obtain ⟨node, isNode, sameId, crowded⟩ := (mem_crowdedNodes distinct nonneg).mp listed
    exact (mem_crowdedNodes distinct (nonneg.trans grows)).mpr
      ⟨node, isNode, sameId, crowded.mono nonneg grows⟩

/-- A member stands at the group's position plus its own; the group itself does not count. -/
theorem crowdedNodes_exact_courtyard :
    (courtyard.nodes.map Node.id).Nodup ∧ (0 : Rat) ≤ 101 ∧
      (crowdedNodes 101 courtyard).Nodup ∧
      (∀ node ∈ courtyard.nodes,
        node.id ∈ ["m", "p", "q", "o"] ↔ courtyard.Crowded 101 node) ∧
      "o" ∈ crowdedNodes 101 { courtyard with nodes := courtyard.nodes.reverse } ∧
      ["m", "p", "q", "o"] ⊆ crowdedNodes 150 courtyard := by
  have distinct : (courtyard.nodes.map Node.id).Nodup := by decide
  have nonneg : (0 : Rat) ≤ 101 := by decide
  have listed : crowdedNodes 101 courtyard = ["m", "p", "q", "o"] := by decide +kernel
  obtain ⟨once, -, crowded, reordered, grows⟩ := crowdedNodes_exact distinct nonneg
  refine ⟨distinct, nonneg, once, listed ▸ crowded, ?_, ?_⟩
  · rw [reordered _ (List.reverse_perm _), listed]
    decide
  · rw [← listed]
    exact grows 150 (by decide)

end Metrics

end Flowchart
