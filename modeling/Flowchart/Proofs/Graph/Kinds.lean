import Flowchart.Proofs.Graph.Total

/-!
Kinds and categories of nodes.

The kind of a node is decided by its label and shape, its category by the title of the group around
it, by the kind itself, or by a word for gateways in the label, and a plain node then takes the kind
of its category. Whatever speaks, the two agree with each other and with the category of the group.

Main definition: `Node.Consistent`. Main statement: `ofDraft?_consistent`.
-/

namespace Flowchart

open Flowchart.Source (Metadata)

/-! ### Resolving -/

/-- A plain node takes the kind that belongs to a category, and any other node keeps its own. -/
theorem upgrade_cases (kind : NodeKind) {category : Category} {own : NodeKind}
    (isOwn : category.kind? = some own) :
    (kind = .plain ∧ kind.upgrade category = own) ∨
      (kind ≠ .plain ∧ kind.upgrade category = kind) := by
  cases kind with
  | plain => exact Or.inl ⟨rfl, by rw [NodeKind.upgrade, isOwn, Option.getD_some]⟩
  | start | finish | decision | database | client | server | group =>
      exact Or.inr ⟨by decide, rfl⟩

/-- The kind that belongs to a category is one that nodes have, and the category is one that they
are filtered by. -/
theorem specific_of_kind? {category : Category} {own : NodeKind}
    (isOwn : category.kind? = some own) : own ≠ .plain ∧ category ≠ .group := by
  cases category <;> cases isOwn <;> decide

/-- A node kind that belongs to a category is no plain one. -/
theorem specific_of_category? {kind : NodeKind} {category : Category}
    (belongs : kind.category? = some category) : kind ≠ .plain ∧ category ≠ .group := by
  cases kind <;> cases belongs <;> decide

/-- What resolving ends with: a category with a kind, which a plain node takes, or the category of
the kind it began with, or no particular category. The title of a group speaks first. -/
theorem resolveCategory_cases (kind : NodeKind) (label : String) (groupTitle : Option String) :
    (∃ category own, category.kind? = some own ∧
        (∀ spoken ∈ groupTitle.bind categoryFromTitle, spoken = category) ∧
        resolveCategory kind label groupTitle = (kind.upgrade category, category)) ∨
      (groupTitle.bind categoryFromTitle = none ∧
        ∃ category, (kind.category? = some category ∨
            kind.category? = none ∧ category = .other) ∧
          resolveCategory kind label groupTitle = (kind, category)) := by
  cases spoken : groupTitle.bind categoryFromTitle with
  | some category =>
      obtain ⟨title, -, speaks⟩ := Option.bind_eq_some_iff.mp spoken
      obtain ⟨own, isOwn⟩ := exists_kind speaks
      refine Or.inl ⟨category, own, isOwn, ?_, by rw [resolveCategory, spoken]⟩
      rintro _ ⟨⟩
      rfl
  | none =>
      cases belongs : kind.category? with
      | some category =>
          refine Or.inr ⟨rfl, category, Or.inl rfl, ?_⟩
          simp only [resolveCategory, spoken, belongs]
      | none =>
          by_cases gateway : mentionsAny ["gateway"] label = true
          · refine Or.inl ⟨.server, .server, rfl, by simp, ?_⟩
            simp only [resolveCategory, spoken, belongs, gateway, if_true]
          · refine Or.inr ⟨rfl, .other, Or.inr ⟨rfl, rfl⟩, ?_⟩
            simp only [resolveCategory, spoken, belongs, gateway, Bool.false_eq_true, if_false]

section Resolving

variable (kind : NodeKind) (label : String) (groupTitle : Option String)

/-- Resolving changes only plain kinds, and those into the kind of the category. -/
theorem resolveCategory_kind :
    (kind ≠ .plain → (resolveCategory kind label groupTitle).1 = kind) ∧
      (kind = .plain → (resolveCategory kind label groupTitle).1 = .plain ∨
        (resolveCategory kind label groupTitle).2.kind? =
          some (resolveCategory kind label groupTitle).1) := by
  rcases resolveCategory_cases kind label groupTitle with
    ⟨category, own, isOwn, -, resolved⟩ | ⟨-, category, -, resolved⟩
  · rw [resolved]
    rcases upgrade_cases kind isOwn with ⟨isPlain, upgraded⟩ | ⟨other, kept⟩
    · exact ⟨fun other => absurd isPlain other, fun _ => Or.inr (by rw [upgraded]; exact isOwn)⟩
    · exact ⟨fun _ => kept, fun isPlain => absurd isPlain other⟩
  · rw [resolved]
    exact ⟨fun _ => rfl, fun isPlain => Or.inl isPlain⟩

/-- A node stays plain only in no particular category. -/
theorem category_of_resolveCategory_plain
    (isPlain : (resolveCategory kind label groupTitle).1 = .plain) :
    (resolveCategory kind label groupTitle).2 = .other := by
  rcases resolveCategory_cases kind label groupTitle with
    ⟨category, own, isOwn, -, resolved⟩ | ⟨-, category, belongs, resolved⟩
  · rw [resolved] at isPlain
    rcases upgrade_cases kind isOwn with ⟨-, upgraded⟩ | ⟨other, kept⟩
    · exact absurd (upgraded.symm.trans isPlain) (specific_of_kind? isOwn).1
    · exact absurd (kept.symm.trans isPlain) other
  · rw [resolved] at isPlain ⊢
    rcases belongs with belongs | ⟨-, other⟩
    · exact absurd isPlain (specific_of_category? belongs).1
    · exact other

/-- The category of groups is for groups only. -/
theorem resolveCategory_category_ne_group :
    (resolveCategory kind label groupTitle).2 ≠ .group := by
  rcases resolveCategory_cases kind label groupTitle with
    ⟨category, own, isOwn, -, resolved⟩ | ⟨-, category, belongs, resolved⟩
  · rw [resolved]
    exact (specific_of_kind? isOwn).2
  · rw [resolved]
    rcases belongs with belongs | ⟨-, rfl⟩
    · exact (specific_of_category? belongs).2
    · simp

/-- Where the title of the group speaks for a category, the node is in it. -/
theorem resolveCategory_of_title {category : Category}
    (spoken : groupTitle.bind categoryFromTitle = some category) :
    (resolveCategory kind label groupTitle).2 = category := by
  rcases resolveCategory_cases kind label groupTitle with
    ⟨found, _, _, same, resolved⟩ | ⟨silent, _⟩
  · rw [resolved]
    exact (same category spoken).symm
  · rw [silent] at spoken
    cases spoken

end Resolving

/-! ### Nodes of graphs -/

variable {K : Type}

/-- The kind and category of a node agree with what decides them, and with the group around it. -/
structure Node.Consistent (graph : Graph K) (node : Node K) : Prop where
  inner : node.kind ≠ .group ∧ node.category ≠ .group
  /-- Label and shape decide for the kind. Where they decide for none in particular, the node is
  plain or of the kind of its category. -/
  kind : ∃ shape : Option String, node.shape = shape.map Json.str ∧
    (classify node.label shape ≠ .plain → node.kind = classify node.label shape) ∧
    (classify node.label shape = .plain →
      node.kind = .plain ∨ node.category.kind? = some node.kind)
  plain : node.kind = .plain → node.category = .other
  /-- A group in a category has its members in the same one. -/
  lane : ∀ group ∈ graph.nodes, group.isGroup = true → node.parent = some group.id →
    group.category ≠ .group → node.category = group.category

/-- The category of a group, unless it has none, is the one that its title speaks for. -/
theorem categoryFromTitle_of_groupCategory {title : String}
    (specific : groupCategory title ≠ .group) :
    categoryFromTitle title = some (groupCategory title) := by
  unfold groupCategory at specific ⊢
  cases spoken : categoryFromTitle title with
  | none =>
      rw [spoken] at specific
      exact absurd rfl specific
  | some category => rfl

variable [Scalar K]

/-- A graph is that of the draft with some palette. -/
theorem exists_palette {draft : Draft} {metadata : Metadata} {colors : List String}
    {graph : Graph K} (made : Graph.ofDraft? draft metadata colors = some graph) :
    ∃ palette, graph = Graph.ofDraft draft metadata palette := by
  unfold Graph.ofDraft? at made
  split at made
  case h_1 palette _ =>
    cases made
    exact ⟨palette, rfl⟩
  case h_2 =>
    split at made
    case isTrue =>
      cases made
      exact ⟨.standard, rfl⟩
    case isFalse => cases made

section Drafts

variable {draft : Draft} {metadata : Metadata} {palette : Palette} {node : Node K}

/-- A node is the group of the first block with its id, or that of the first vertex with its id if
there is no such block. -/
theorem group_or_inner (member : node ∈ (Graph.ofDraft draft metadata palette).nodes) :
    (∃ position block, draft.blocks.find? (fun other => other.id == node.id) = some block ∧
        node = Node.ofBlock metadata palette (position : Nat) block) ∨
      ∃ vertex, node.id ∉ draft.blockIds ∧ node = Node.ofVertex draft metadata vertex := by
  obtain ⟨position, at_⟩ := List.mem_iff_getElem?.mp member
  rcases Nat.lt_or_ge position draft.blockIds.eraseDups.length with front | behind
  · obtain ⟨block, found, made⟩ := getElem?_group front at_
    exact Or.inl ⟨position, block, found, made⟩
  · obtain ⟨vertex, _, foreign, rfl⟩ := getElem?_inner behind at_
    exact Or.inr ⟨vertex, foreign, rfl⟩

/-- The groups are the nodes with the ids of blocks. -/
theorem isGroup_iff_mem_blockIds (member : node ∈ (Graph.ofDraft draft metadata palette).nodes) :
    node.isGroup = true ↔ node.id ∈ draft.blockIds := by
  rcases group_or_inner member with ⟨_, block, found, rfl⟩ | ⟨vertex, foreign, rfl⟩
  · exact iff_of_true rfl (List.mem_map_of_mem (List.mem_of_find?_eq_some found))
  · refine iff_of_false ?_ foreign
    simp [isGroup_ofVertex draft metadata vertex]

/-- The title that the members of a group look up is the label of the group. -/
theorem groupLabel_eq_label (member : node ∈ (Graph.ofDraft draft metadata palette).nodes)
    (isGroup : node.isGroup = true) :
    draft.groupLabel node.id = node.label ∧ node.category = groupCategory node.label := by
  rcases group_or_inner member with ⟨_, block, found, rfl⟩ | ⟨vertex, _, rfl⟩
  · rw [Draft.groupLabel, found]
    simp only [Node.ofBlock, Option.bind_some, and_self]
  · rw [isGroup_ofVertex] at isGroup
    cases isGroup

/-- The node of a vertex is in the category of the group that it lies in. -/
theorem category_ofVertex {vertex : Vertex} {group : Node K}
    (member : group ∈ (Graph.ofDraft draft metadata palette).nodes)
    (isGroup : group.isGroup = true)
    (inside : (Node.ofVertex draft metadata vertex : Node K).parent = some group.id)
    (specific : group.category ≠ .group) :
    (Node.ofVertex draft metadata vertex : Node K).category = group.category := by
  obtain ⟨title, category⟩ := groupLabel_eq_label member isGroup
  have parent : (draft.blockOf? vertex.id).map Block.id = some group.id := inside
  rw [category] at specific ⊢
  apply resolveCategory_of_title
  rw [parent, Option.map_some, title, Option.bind_some]
  exact categoryFromTitle_of_groupCategory specific

theorem consistent_ofVertex (vertex : Vertex) :
    (Node.ofVertex draft metadata vertex : Node K).Consistent
      (Graph.ofDraft draft metadata palette) := by
  let label := labelOr vertex.id vertex.text
  let title := ((draft.blockOf? vertex.id).map Block.id).map draft.groupLabel
  have plain := category_of_resolveCategory_plain (classify label vertex.shape) label title
  obtain ⟨kept, upgraded⟩ := resolveCategory_kind (classify label vertex.shape) label title
  constructor
  case inner =>
    exact ⟨by simpa [Node.isGroup] using isGroup_ofVertex (K := K) draft metadata vertex,
      resolveCategory_category_ne_group _ _ _⟩
  case kind => exact ⟨vertex.shape, rfl, kept, upgraded⟩
  case plain => exact plain
  case lane =>
    intro group member isGroup inside specific
    exact category_ofVertex member isGroup inside specific

end Drafts

/-- Whatever a draft holds, the groups of its graph are the nodes with the ids of blocks, and the
kind and category of every other node agree. -/
theorem ofDraft?_consistent {draft : Draft} {metadata : Metadata} {colors : List String}
    {graph : Graph K} (made : Graph.ofDraft? draft metadata colors = some graph) :
    ∀ node ∈ graph.nodes, (node.isGroup = true ↔ node.id ∈ draft.blockIds) ∧
      (node.isGroup = false → node.Consistent graph) := by
  obtain ⟨palette, rfl⟩ := exists_palette made
  intro node member
  refine ⟨isGroup_iff_mem_blockIds member, fun isInner => ?_⟩
  rcases group_or_inner member with ⟨_, block, _, rfl⟩ | ⟨vertex, _, rfl⟩
  · cases isInner
  · exact consistent_ofVertex vertex

/-- A lane that is named by its id alone, a second block of the same id, which adds a member, and a
lane in no category. -/
def lanedDraft : Draft where
  vertices := [⟨"a", some "Handle", none⟩, ⟨"b", some "Check", some "diamond"⟩,
    ⟨"c", some "Payment gateway", none⟩, ⟨"d", none, none⟩, ⟨"e", none, none⟩]
  blocks := [⟨"api", some "<br>", ["a", "b"]⟩, ⟨"misc", some "Misc", ["c"]⟩,
    ⟨"api", some "Web", ["d"]⟩]

theorem ofDraft?_consistent_lanedDraft :
    ∃ graph : Graph Rat, Graph.ofDraft? lanedDraft [] ["#111"] = some graph ∧
      (graph.nodes.map fun node => (node.id, node.kind, node.category, node.parent)) =
        [("api", .group, .server, none), ("misc", .group, .group, none),
          ("a", .server, .server, some "api"), ("b", .decision, .server, some "api"),
          ("c", .server, .server, some "misc"), ("d", .server, .server, some "api"),
          ("e", .plain, .other, none)] ∧
      ∀ node ∈ graph.nodes, (node.isGroup = true ↔ node.id ∈ lanedDraft.blockIds) ∧
        (node.isGroup = false → node.Consistent graph) := by
  have made : Graph.ofDraft? (K := Rat) lanedDraft [] ["#111"] =
      some (Graph.ofDraft lanedDraft [] ⟨"#111", []⟩) := rfl
  exact ⟨_, made, by decide +kernel, ofDraft?_consistent made⟩

end Flowchart
