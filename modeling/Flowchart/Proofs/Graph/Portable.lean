import Flowchart.Proofs.Draft.Spelled
import Flowchart.Proofs.Graph.Sound
import Flowchart.Proofs.Json.Shown
import Flowchart.Proofs.Layout.Rearranged

/-!
Graphs that documents can hold.

In a document an empty text counts as absent, and only groups have a color and a size. A graph is
portable if nothing gets lost that way. Graphs of drafts are portable, and what geometry does to a
graph keeps it so.

Main definition: `Graph.Portable`. Main statements: `portable_ofDraft`, `Rearranged.portable`.
-/

namespace Flowchart

open Flowchart.Source (Metadata)

variable {K : Type}

/-- A node that its document describes in full. -/
structure Node.Portable (node : Node K) : Prop where
  label : node.label ≠ ""
  shape : ∀ shape ∈ node.shape, shape.isVoid = false
  color : ∀ color ∈ node.color, color.isVoid = false
  /-- Color and size are written for groups only. -/
  plain : node.isGroup = false → node.color = none ∧ node.width = none ∧ node.height = none

/-- An edge that its document describes in full. -/
structure Edge.Portable (edge : Edge) : Prop where
  id : edge.id ≠ ""
  label : ∀ label ∈ edge.label, label.isVoid = false

/-- A graph that its document describes in full. -/
structure Graph.Portable (graph : Graph K) : Prop where
  sound : graph.Sound
  nodes : ∀ node ∈ graph.nodes, node.Portable
  edges : ∀ edge ∈ graph.edges, edge.Portable
  direction : ∀ word ∈ graph.direction, word ≠ ""

theorem Graph.portable_empty : ({} : Graph K).Portable :=
  ⟨⟨by simp, by simp, by simp, by simp, by simp⟩, by simp, by simp, by simp⟩

variable [Scalar K]

/-! ### Geometry -/

/-- Nodes that differ in their geometry only are portable together. -/
theorem Node.Portable.of_still {node other : Node K} (portable : node.Portable)
    (same : other.still = node.still) : other.Portable := by
  have label : other.label = node.label := (congrArg Node.label same :)
  have shape : other.shape = node.shape := (congrArg Node.shape same :)
  have color : other.color = node.color := (congrArg Node.color same :)
  have kind : other.isGroup = node.isGroup := (congrArg Node.isGroup same :)
  constructor
  case label => exact label ▸ portable.label
  case shape => exact shape ▸ portable.shape
  case color => exact color ▸ portable.color
  case plain =>
    intro isPlain
    have wasPlain : node.isGroup = false := kind ▸ isPlain
    obtain ⟨colorless, width, height⟩ := portable.plain wasPlain
    have sameWidth : other.still.width = node.still.width := (congrArg Node.width same :)
    have sameHeight : other.still.height = node.still.height := (congrArg Node.height same :)
    simp only [still, isPlain, wasPlain, Bool.false_eq_true, if_false] at sameWidth sameHeight
    exact ⟨color.trans colorless, sameWidth.trans width, sameHeight.trans height⟩

namespace Graph.Rearranged

variable {before after : Graph K}

/-- Rearranging a sound graph keeps it sound. -/
theorem sound (arranged : before.Rearranged after) (sound : before.Sound) : after.Sound := by
  have ids := arranged.map_id_nodes
  constructor
  case distinct => exact ids.nodup_iff.mpr sound.distinct
  case named =>
    intro node member
    obtain ⟨old, listed, same⟩ := Node.exists_still arranged.nodes member
    rw [(Node.alike_of_still same).1]
    exact sound.named old listed
  case parents =>
    intro node member parent isParent
    obtain ⟨old, listed, same⟩ := Node.exists_still arranged.nodes member
    obtain ⟨sameId, sameKind, sameParent⟩ := Node.alike_of_still same
    rw [sameParent] at isParent
    obtain ⟨inner, foreign, group, isNode, isGroup, named⟩ :=
      sound.parents old listed parent isParent
    obtain ⟨moved, isMoved, sameGroup⟩ := Node.exists_still arranged.symm.nodes isNode
    obtain ⟨groupId, groupKind, -⟩ := Node.alike_of_still sameGroup
    rw [sameId, sameKind]
    exact ⟨inner, foreign, moved, isMoved, groupKind ▸ isGroup, groupId ▸ named⟩
  case sources =>
    rw [arranged.edges]
    exact fun edge member => ids.mem_iff.mpr (sound.sources edge member)
  case targets =>
    rw [arranged.edges]
    exact fun edge member => ids.mem_iff.mpr (sound.targets edge member)

/-- What geometry does to a graph keeps it portable. -/
theorem portable (arranged : before.Rearranged after) (portable : before.Portable) :
    after.Portable := by
  constructor
  case sound => exact arranged.sound portable.sound
  case nodes =>
    intro node member
    obtain ⟨old, listed, same⟩ := Node.exists_still arranged.nodes member
    exact (portable.nodes old listed).of_still same
  case edges =>
    rw [arranged.edges]
    exact portable.edges
  case direction =>
    rw [arranged.direction]
    exact portable.direction

end Graph.Rearranged

/-! ### Drafts -/

/-- A label is never empty, for the id stands in for it. -/
theorem labelOr_ne_empty {id : String} (named : id ≠ "") (text : Option String) :
    labelOr id text ≠ "" := by
  unfold labelOr
  dsimp only
  split
  case isTrue => exact named
  case isFalse shown => simpa using shown

/-- Every character has a capital form. -/
theorem Text.capital_ne_nil (c : Char) : capital c ≠ [] := by
  have expansions : ∀ entry ∈ capitalExpansions, entry.2 ≠ [] := by decide +kernel
  unfold capital
  dsimp only
  split
  case isTrue => simp
  case isFalse =>
    split
    case h_1 codes found =>
      obtain ⟨front, back, split, -⟩ := List.lookup_eq_some_iff.mp found
      have listed : (c.toNat, codes) ∈ capitalExpansions := by simp [split]
      simpa using expansions _ listed
    case h_2 => split <;> simp

/-- A graph without a direction has none rather than an empty one. -/
theorem graphDirection_ne_empty (direction : Option String) :
    ∀ word ∈ graphDirection direction, word ≠ "" := by
  cases direction with
  | none => rintro _ ⟨⟩
  | some text =>
      unfold graphDirection
      split
      case h_1 => rintro _ ⟨⟩
      case h_2 text' same =>
        cases same
        split
        case isTrue => rintro _ ⟨⟩
        case isFalse given =>
          rintro _ ⟨⟩
          split
          case isTrue => decide
          case isFalse =>
            obtain ⟨c, rest, chars⟩ := List.exists_cons_of_ne_nil
              (mt String.toList_eq_nil_iff.mp (by simpa using given))
            rw [Text.uppercase, chars, List.flatMap_cons]
            refine mt String.ofList_eq_empty_iff.mp ?_
            exact mt List.append_eq_nil_iff.mp fun both => Text.capital_ne_nil c both.1

/-- No edge has an empty id. -/
theorem edgeId_ne_empty (source target : String) (position : Nat) :
    edgeId source target position ≠ "" := by
  unfold edgeId
  iterate 5 refine append_ne_empty_left ?_ _
  decide

/-- A color of a palette is one of its colors. -/
theorem Palette.color_mem (palette : Palette) (position : Nat) :
    palette.color position ∈ palette.colors :=
  List.mem_of_getElem? (getElem?_colors_mod palette position)

section Drafts

variable (draft : Draft) (metadata : Metadata) (palette : Palette)

/-- A node of the graph of a draft is that of a block or of a vertex that has no block's id. -/
theorem mem_nodes_ofDraft {node : Node K}
    (member : node ∈ (Graph.ofDraft draft metadata palette).nodes) :
    (∃ position, ∃ block ∈ draft.blocks,
        node = Node.ofBlock metadata palette (position : Nat) block) ∨
      ∃ vertex ∈ draft.vertices, vertex.id ∉ draft.blockIds ∧
        node = Node.ofVertex draft metadata vertex := by
  obtain ⟨position, inside, at_⟩ := List.mem_iff_getElem.mp member
  have found := List.getElem?_eq_some_iff.mpr ⟨inside, at_⟩
  rcases Nat.lt_or_ge position draft.blockIds.eraseDups.length with front | behind
  · obtain ⟨block, first, made⟩ := getElem?_group front found
    exact Or.inl ⟨position, block, List.mem_of_find?_eq_some first, made⟩
  · obtain ⟨vertex, first, foreign, made⟩ := getElem?_inner behind found
    exact Or.inr ⟨vertex, List.mem_of_find?_eq_some first, foreign, made⟩

/-- The graph of a draft with ids is sound. -/
theorem sound_ofDraft (spelled : draft.Spelled) :
    (Graph.ofDraft draft metadata palette : Graph K).Sound := by
  have ids := map_id_nodes (K := K) draft metadata palette
  have ends : ∀ edge ∈ (Graph.ofDraft draft metadata palette : Graph K).edges,
      edge.source ∈ draft.nodeIds ∧ edge.target ∈ draft.nodeIds := by
    intro edge member
    obtain ⟨arc, kept, rfl⟩ := List.mem_map.mp member
    have both := (List.mem_filter.mp kept).2
    simpa [Draft.keeps, Edge.ofArc] using both
  constructor
  case distinct =>
    rw [ids]
    exact nodup_nodeIds draft
  case named =>
    intro node member
    rcases mem_nodes_ofDraft draft metadata palette member with
      ⟨_, block, listed, rfl⟩ | ⟨vertex, listed, _, rfl⟩
    · exact spelled.blocks block listed
    · exact (spelled.vertices vertex listed).id
  case parents =>
    intro node member parent isParent
    rcases mem_nodes_ofDraft draft metadata palette member with
      ⟨_, block, _, rfl⟩ | ⟨vertex, _, foreign, rfl⟩
    · cases isParent
    · obtain ⟨block, found, rfl⟩ := Option.map_eq_some_iff.mp isParent
      have listed := List.mem_of_find?_eq_some found
      obtain ⟨position, group, _, at_, isGroup, named, _⟩ :=
        exists_group_of_mem_blocks (K := K) metadata palette listed
      refine ⟨isGroup_ofVertex draft metadata vertex, ?_, group, List.mem_of_getElem? at_,
        isGroup, named⟩
      intro same
      have sameId : vertex.id = block.id := same.symm
      rw [sameId] at foreign
      exact foreign (List.mem_map_of_mem listed)
  case sources =>
    rw [ids]
    exact fun edge member => (ends edge member).1
  case targets =>
    rw [ids]
    exact fun edge member => (ends edge member).2

/-- The graph of a draft with ids and a palette of colors can be written and read back. -/
theorem portable_ofDraft (spelled : draft.Spelled)
    (colored : ∀ color ∈ palette.colors, color ≠ "") :
    (Graph.ofDraft draft metadata palette : Graph K).Portable := by
  constructor
  case sound => exact sound_ofDraft draft metadata palette spelled
  case nodes =>
    intro node member
    rcases mem_nodes_ofDraft draft metadata palette member with
      ⟨position, block, listed, rfl⟩ | ⟨vertex, listed, _, rfl⟩
    · refine ⟨labelOr_ne_empty (spelled.blocks block listed) _, ?_, ?_, ?_⟩
      · rintro _ ⟨⟩
      · rintro _ ⟨⟩
        simpa [Json.isVoid] using colored _ (palette.color_mem position)
      · intro isPlain
        cases isPlain
    · have named := spelled.vertices vertex listed
      refine ⟨labelOr_ne_empty named.id _, ?_, ?_, fun _ => ⟨rfl, rfl, rfl⟩⟩
      · intro shape isShape
        obtain ⟨word, isWord, rfl⟩ := Option.map_eq_some_iff.mp isShape
        simpa [Json.isVoid] using named.shape word isWord
      · rintro _ ⟨⟩
  case edges =>
    intro edge member
    obtain ⟨arc, _, rfl⟩ := List.mem_map.mp member
    refine ⟨edgeId_ne_empty _ _ _, ?_⟩
    intro label isLabel
    rw [Edge.ofArc] at isLabel
    dsimp only at isLabel
    split at isLabel
    case isTrue => cases isLabel
    case isFalse shown =>
      cases isLabel
      simpa [Json.isVoid] using shown
  case direction => exact graphDirection_ne_empty draft.direction

end Drafts

end Flowchart
