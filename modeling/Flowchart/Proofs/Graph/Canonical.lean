import Mathlib.Data.List.Nodup
import Flowchart.Proofs.Distinct

/-!
The canonical form of a graph.

Whatever a draft repeats, mixes up or leaves dangling, its graph has one node per id, groups before
the nodes inside them, and only edges between its nodes, each under an id of its own.

Main statement: `ofDraft?_canonical`.
-/

namespace Flowchart

open Flowchart.Source (Metadata)
open Flowchart.Text (cleanLabel)

variable {K : Type} [Scalar K]

/-- The graph that a draft stands for, described by what each of its parts is taken from. -/
structure Graph.Canonical (draft : Draft) (metadata : Metadata) (colors : List String)
    (graph : Graph K) : Prop where
  /-- One node for each block id, then one for each vertex id that is no block id, both in the
  order in which the ids first occur. -/
  ids : graph.nodes.map Node.id =
    draft.blockIds.eraseDups ++
      ((draft.vertices.map Vertex.id).filter fun id => !draft.blockIds.contains id).eraseDups
  /-- No two nodes share an id. -/
  distinct : (graph.nodes.map Node.id).Nodup
  /-- The first nodes are groups, each made from the first block of its id, with the colors of the
  palette in turn. -/
  group : ∀ position node, position < draft.blockIds.eraseDups.length →
    graph.nodes[position]? = some node →
      ∃ block color, draft.blocks.find? (fun block => block.id == node.id) = some block ∧
        colors[position % colors.length]? = some color ∧
        node =
          { id := block.id
            kind := .group
            label := labelOr block.id block.title
            category := groupCategory (labelOr block.id block.title)
            parent := none
            metadata := metadata.find? block.id
            color := some (.str color)
            x := Scalar.zero
            y := Scalar.zero }
  /-- The other nodes are no groups. Each is made from the first vertex of its id and lies in the
  first block that lists this id. -/
  inner : ∀ position node, draft.blockIds.eraseDups.length ≤ position →
    graph.nodes[position]? = some node →
      ∃ vertex, draft.vertices.find? (fun vertex => vertex.id == node.id) = some vertex ∧
        node.isGroup = false ∧
        node.label = labelOr vertex.id vertex.text ∧
        node.shape = vertex.shape.map Json.str ∧
        node.metadata = metadata.find? vertex.id ∧
        node.color = none ∧
        node.parent =
          (draft.blocks.find? fun block => block.members.contains node.id).map Block.id
  /-- A parent is a group further in front, and its title is found under its id. -/
  parent : ∀ (position : Nat) node parent, graph.nodes[position]? = some node →
    node.parent = some parent →
      ∃ (earlier : Nat) (group : Node K), earlier < position ∧ graph.nodes[earlier]? = some group ∧
        group.isGroup = true ∧ group.id = parent ∧ group.label = draft.groupLabel parent
  /-- The edges are the arcs between nodes, in the order of the draft and numbered by their
  positions there. -/
  edges : graph.edges =
    (draft.arcs.zipIdx.filter fun arc =>
      (graph.nodes.map Node.id).contains arc.1.source &&
        (graph.nodes.map Node.id).contains arc.1.target).map fun arc =>
      { id := "e" ++ arc.1.source ++ "-" ++ arc.1.target ++ "-" ++ toString arc.2
        source := arc.1.source
        target := arc.1.target
        label :=
          if (cleanLabel (arc.1.text.getD "")).isEmpty then none
          else some (.str (cleanLabel (arc.1.text.getD "")))
        stroke := (Stroke.ofName? arc.1.stroke).getD .normal
        directed := arc.1.directed }
  /-- No two edges share an id. -/
  edgeIds : (graph.edges.map Edge.id).Nodup

/-! ### Kinds of nodes -/

/-- No rule makes a node a group. -/
theorem classify_ne_group (label : String) (shape : Option String) :
    classify label shape ≠ .group := by
  unfold classify
  cases found : kindRules.findSome? fun rule => rule.kind? label shape with
  | none => simp
  | some kind =>
      obtain ⟨rule, listed, applied⟩ := List.exists_of_findSome?_eq_some found
      simp only [kindRules, List.mem_cons, List.not_mem_nil, or_false] at listed
      rcases listed with rfl | rfl | rfl | rfl | rfl | rfl | rfl | rfl | rfl <;>
        simp only [KindRule.kind?, Option.ite_none_right_eq_some, Option.some.injEq] at applied <;>
        simp [← applied.2]

/-- A node that is no group does not become one through its category. -/
theorem upgrade_ne_group {kind : NodeKind} (plain : kind ≠ .group) (category : Category) :
    kind.upgrade category ≠ .group := by
  cases kind <;> cases category <;> simp_all [NodeKind.upgrade, Category.kind?]

/-- A node that is no group stays none when its category is found. -/
theorem resolveCategory_ne_group {kind : NodeKind} (plain : kind ≠ .group) (label : String)
    (groupTitle : Option String) : (resolveCategory kind label groupTitle).1 ≠ .group := by
  unfold resolveCategory
  split
  · exact upgrade_ne_group plain _
  · split
    · exact plain
    · split
      · exact upgrade_ne_group plain _
      · exact plain

theorem isGroup_ofBlock (metadata : Metadata) (palette : Palette) (position : Nat)
    (block : Block) : (Node.ofBlock metadata palette position block : Node K).isGroup = true :=
  rfl

theorem isGroup_ofVertex (draft : Draft) (metadata : Metadata) (vertex : Vertex) :
    (Node.ofVertex draft metadata vertex : Node K).isGroup = false := by
  have plain := resolveCategory_ne_group
    (classify_ne_group (labelOr vertex.id vertex.text) vertex.shape)
    (labelOr vertex.id vertex.text)
    (((draft.blockOf? vertex.id).map Block.id).map draft.groupLabel)
  simpa [Node.isGroup, Node.ofVertex] using plain

/-! ### Ids of edges -/

/-- What follows the last hyphen of a text is determined by the text. -/
theorem eq_of_append_hyphen {before after before' after' : List Char} (free : '-' ∉ after)
    (free' : '-' ∉ after') (same : before ++ '-' :: after = before' ++ '-' :: after') :
    after = after' := by
  have tailOf : ∀ before after : List Char, '-' ∉ after →
      (before ++ '-' :: after).reverse.takeWhile (· != '-') = after.reverse := by
    intro before after free
    rw [List.reverse_append, List.reverse_cons, List.append_assoc, List.takeWhile_append_of_pos]
    · simp
    · intro c member
      have differs : c ≠ '-' := by
        rintro rfl
        exact free (List.mem_reverse.mp member)
      simpa using differs
  have reversed : after.reverse = after'.reverse := by
    rw [← tailOf before after free, same, tailOf before' after' free']
  exact List.reverse_injective reversed

theorem hyphen_notMem_natDigits (n : Nat) : '-' ∉ Decimal.natDigits n := by
  intro member
  have digit := Nat.isDigit_of_mem_toDigits (by decide) (by decide) member
  exact absurd digit (by decide)

theorem natDigits_injective {m n : Nat} (same : Decimal.natDigits m = Decimal.natDigits n) :
    m = n := by
  have value := congrArg (fun digits => Nat.ofDigitChars 10 digits 0) same
  simpa [Decimal.natDigits, Nat.ofDigitChars_ten_toDigits] using value

/-- The id of an edge tells its position, whatever the ids of its ends look like. -/
theorem edgeId_position {source target source' target' : String} {position position' : Nat}
    (same : edgeId source target position = edgeId source' target' position') :
    position = position' := by
  have chars := congrArg String.toList same
  simp only [edgeId, Decimal.natText, String.toList_append, String.toList_ofList] at chars
  have hyphen : "-".toList = ['-'] := rfl
  rw [hyphen, List.append_assoc, List.append_assoc (_ ++ target'.toList)] at chars
  exact natDigits_injective (eq_of_append_hyphen (hyphen_notMem_natDigits _)
    (hyphen_notMem_natDigits _) chars)

/-! ### Nodes and their ids -/

theorem map_id_distinctBlocks (draft : Draft) :
    draft.distinctBlocks.map Block.id = draft.blockIds.eraseDups := by
  have keys := map_firstByKey Block.id [] draft.blocks
  simpa [Draft.distinctBlocks, Draft.blockIds] using keys

theorem map_id_distinctVertices (draft : Draft) :
    draft.distinctVertices.map Vertex.id =
      ((draft.vertices.map Vertex.id).filter fun id =>
        !draft.blockIds.contains id).eraseDups :=
  map_firstByKey Vertex.id draft.blockIds draft.vertices

theorem length_distinctBlocks (draft : Draft) :
    draft.distinctBlocks.length = draft.blockIds.eraseDups.length := by
  rw [← map_id_distinctBlocks, List.length_map]

/-- Every block goes by the id of a block that has a group, under the title of that one. -/
theorem exists_distinctBlock {draft : Draft} {block : Block} (listed : block ∈ draft.blocks) :
    ∃ first ∈ draft.distinctBlocks, first.id = block.id ∧
      draft.groupLabel block.id = labelOr first.id first.title := by
  have member : block.id ∈ draft.distinctBlocks.map Block.id := by
    rw [map_id_distinctBlocks, List.mem_eraseDups]
    exact List.mem_map_of_mem listed
  obtain ⟨first, kept, sameId⟩ := List.mem_map.mp member
  refine ⟨first, kept, sameId, ?_⟩
  rw [← sameId, Draft.groupLabel, (find?_of_mem_firstByKey kept).1]
  rfl

theorem nodup_nodeIds (draft : Draft) : draft.nodeIds.Nodup := by
  rw [Draft.nodeIds, map_id_distinctBlocks, map_id_distinctVertices, List.nodup_append]
  refine ⟨nodup_eraseDups _, nodup_eraseDups _, ?_⟩
  intro id isBlock other isVertex same
  rw [List.mem_eraseDups] at isBlock isVertex
  have fresh := (List.mem_filter.mp isVertex).2
  subst same
  simp [isBlock] at fresh

theorem map_id_nodes (draft : Draft) (metadata : Metadata) (palette : Palette) :
    (Graph.ofDraft draft metadata palette : Graph K).nodes.map Node.id = draft.nodeIds := by
  have ofBlocks : (draft.distinctBlocks.mapIdx (Node.ofBlock metadata palette)).map
      (Node.id (K := K)) = draft.distinctBlocks.map Block.id := by
    apply List.ext_getElem?
    intro position
    rw [List.getElem?_map, List.getElem?_mapIdx, List.getElem?_map, Option.map_map]
    rfl
  have ofVertices : (draft.distinctVertices.map (Node.ofVertex draft metadata)).map
      (Node.id (K := K)) = draft.distinctVertices.map Vertex.id := by
    simp [Node.ofVertex, Function.comp_def]
  rw [Graph.ofDraft, List.map_append, ofBlocks, ofVertices, Draft.nodeIds]

omit [Scalar K] in
/-- Of nodes with distinct ids, each is found under its id. -/
theorem find?_node {nodes : List (Node K)} (distinct : (nodes.map Node.id).Nodup) {node : Node K}
    (member : node ∈ nodes) : nodes.find? (fun other => other.id == node.id) = some node := by
  have kept : node ∈ firstByKey Node.id [] nodes := by
    rw [firstByKey_of_nodup distinct (by simp)]
    exact member
  exact (find?_of_mem_firstByKey kept).1

/-- A node at a position of the block ids is the group of the first block with its id. -/
theorem getElem?_group {draft : Draft} {metadata : Metadata} {palette : Palette} {position : Nat}
    {node : Node K} (inside : position < draft.blockIds.eraseDups.length)
    (at_ : (Graph.ofDraft draft metadata palette).nodes[position]? = some node) :
    ∃ block, draft.blocks.find? (fun other => other.id == node.id) = some block ∧
      node = Node.ofBlock metadata palette position block := by
  rw [← length_distinctBlocks] at inside
  rw [Graph.ofDraft, List.getElem?_append_left (by simpa using inside), List.getElem?_mapIdx,
    Option.map_eq_some_iff] at at_
  obtain ⟨block, listed, rfl⟩ := at_
  have kept : block ∈ firstByKey Block.id [] draft.blocks := List.mem_of_getElem? listed
  exact ⟨block, (find?_of_mem_firstByKey kept).1, rfl⟩

/-- A node after the groups is that of the first vertex with its id. -/
theorem getElem?_inner {draft : Draft} {metadata : Metadata} {palette : Palette} {position : Nat}
    {node : Node K} (behind : draft.blockIds.eraseDups.length ≤ position)
    (at_ : (Graph.ofDraft draft metadata palette).nodes[position]? = some node) :
    ∃ vertex, draft.vertices.find? (fun other => other.id == node.id) = some vertex ∧
      vertex.id ∉ draft.blockIds ∧ node = Node.ofVertex draft metadata vertex := by
  rw [← length_distinctBlocks] at behind
  rw [Graph.ofDraft, List.getElem?_append_right (by simpa using behind), List.getElem?_map,
    Option.map_eq_some_iff] at at_
  obtain ⟨vertex, listed, rfl⟩ := at_
  have kept : vertex ∈ firstByKey Vertex.id draft.blockIds draft.vertices :=
    List.mem_of_getElem? listed
  obtain ⟨found, fresh⟩ := find?_of_mem_firstByKey kept
  exact ⟨vertex, found, fresh, rfl⟩

/-- Every block id stands among the groups, under the title that its members look up. -/
theorem exists_group_of_mem_blocks {draft : Draft} (metadata : Metadata) (palette : Palette)
    {block : Block} (listed : block ∈ draft.blocks) :
    ∃ (position : Nat) (group : Node K), position < draft.blockIds.eraseDups.length ∧
      (Graph.ofDraft draft metadata palette).nodes[position]? = some group ∧
      group.isGroup = true ∧ group.id = block.id ∧ group.label = draft.groupLabel block.id := by
  obtain ⟨first, kept, sameId, label⟩ := exists_distinctBlock listed
  obtain ⟨position, inside, at_⟩ := List.mem_iff_getElem.mp kept
  refine ⟨position, Node.ofBlock metadata palette position first, ?_, ?_, rfl, sameId,
    label.symm⟩
  · rw [← length_distinctBlocks]
    exact inside
  · rw [Graph.ofDraft, List.getElem?_append_left (by simpa using inside), List.getElem?_mapIdx,
      List.getElem?_eq_getElem inside, at_]
    rfl

/-! ### Colors and edges -/

/-- The color at a position is the one of the palette at the position modulo its length. -/
theorem getElem?_colors_mod (palette : Palette) (position : Nat) :
    palette.colors[position % palette.colors.length]? = some (palette.color position) := by
  have inside : position % palette.colors.length < palette.colors.length :=
    Nat.mod_lt _ (by simp [Palette.colors])
  rw [Palette.color, ← Int.natCast_emod, Int.toNat_natCast, List.getD_eq_getElem?_getD,
    List.getElem?_eq_getElem inside, Option.getD_some]

/-- The edges carry the positions of their arcs, so that their ids differ. -/
theorem nodup_edgeIds (draft : Draft) (metadata : Metadata) (palette : Palette) :
    ((Graph.ofDraft draft metadata palette : Graph K).edges.map Edge.id).Nodup := by
  rw [Graph.ofDraft, List.map_map]
  apply List.Nodup.map_on
  · intro arc member arc' member' same
    have positions : arc.2 = arc'.2 := edgeId_position same
    have at_ := List.mk_mem_zipIdx_iff_getElem?.mp (List.mem_filter.mp member).1
    have at_' := List.mk_mem_zipIdx_iff_getElem?.mp (List.mem_filter.mp member').1
    rw [← positions, at_] at at_'
    exact Prod.ext (Option.some.inj at_') positions
  · apply List.Nodup.filter
    exact List.Nodup.of_map Prod.snd (by rw [List.zipIdx_map_snd]; exact List.nodup_range')

/-- A node's parent is the first block that lists the node, and this block has a group further in
front. -/
theorem parent_precedes {draft : Draft} {metadata : Metadata} {palette : Palette} {position : Nat}
    {node : Node K} {parent : String}
    (at_ : (Graph.ofDraft draft metadata palette).nodes[position]? = some node)
    (inside : node.parent = some parent) :
    ∃ (earlier : Nat) (group : Node K), earlier < position ∧
      (Graph.ofDraft draft metadata palette).nodes[earlier]? = some group ∧
      group.isGroup = true ∧ group.id = parent ∧ group.label = draft.groupLabel parent := by
  rcases Nat.lt_or_ge position draft.blockIds.eraseDups.length with front | behind
  · obtain ⟨block, _, rfl⟩ := getElem?_group front at_
    cases inside
  · obtain ⟨vertex, _, _, rfl⟩ := getElem?_inner behind at_
    obtain ⟨block, found, rfl⟩ := Option.map_eq_some_iff.mp inside
    obtain ⟨earlier, group, front, atGroup, isGroup, sameId, sameLabel⟩ :=
      exists_group_of_mem_blocks (K := K) metadata palette (List.mem_of_find?_eq_some found)
    exact ⟨earlier, group, Nat.lt_of_lt_of_le front behind, atGroup, isGroup, sameId, sameLabel⟩

/-- The graph of a draft is its canonical form. -/
theorem ofDraft_canonical (draft : Draft) (metadata : Metadata) (palette : Palette) :
    (Graph.ofDraft draft metadata palette : Graph K).Canonical draft metadata palette.colors where
  ids := by
    rw [map_id_nodes, Draft.nodeIds, map_id_distinctBlocks, map_id_distinctVertices]
  distinct := by
    rw [map_id_nodes]
    exact nodup_nodeIds draft
  group := by
    intro position node front at_
    obtain ⟨block, found, rfl⟩ := getElem?_group front at_
    exact ⟨block, palette.color position, found, getElem?_colors_mod palette position, rfl⟩
  inner := by
    intro position node behind at_
    obtain ⟨vertex, found, _, rfl⟩ := getElem?_inner behind at_
    exact ⟨vertex, found, isGroup_ofVertex draft metadata vertex, rfl, rfl, rfl, rfl, rfl⟩
  parent := fun _ _ _ at_ inside => parent_precedes at_ inside
  edges := by
    rw [map_id_nodes]
    rfl
  edgeIds := nodup_edgeIds draft metadata palette

/-- With at least one color every draft has a graph, and this graph is its canonical form. -/
theorem ofDraft?_canonical (draft : Draft) (metadata : Metadata) (colors : List String)
    (colored : colors ≠ []) :
    ∃ graph : Graph K, Graph.ofDraft? draft metadata colors = some graph ∧
      graph.Canonical draft metadata colors := by
  cases colors with
  | nil => exact absurd rfl colored
  | cons first others =>
      exact ⟨Graph.ofDraft draft metadata ⟨first, others⟩, rfl,
        ofDraft_canonical draft metadata ⟨first, others⟩⟩

/-- A draft in which everything that can collide does: a repeated block, a vertex with the id of a
block, a repeated vertex, a vertex in two blocks, and an arc to nowhere. -/
def collidingDraft : Draft where
  vertices := [⟨"g", none, none⟩, ⟨"a", some "A", none⟩, ⟨"a", some "B", none⟩]
  arcs := [{ source := "a", target := "g" }, { source := "a", target := "x" },
    { source := "a", target := "g" }]
  blocks := [⟨"g", some "G", ["b"]⟩, ⟨"h", none, ["a"]⟩, ⟨"g", some "H", ["a"]⟩]

theorem ofDraft?_canonical_collidingDraft :
    ["#111", "#222"] ≠ [] ∧
      ∃ graph : Graph Rat, Graph.ofDraft? collidingDraft [] ["#111", "#222"] = some graph ∧
        graph.Canonical collidingDraft [] ["#111", "#222"] :=
  ⟨by simp, ofDraft?_canonical collidingDraft [] ["#111", "#222"] (by simp)⟩

end Flowchart
