import Flowchart.Proofs.Draft.Accepted
import Flowchart.Proofs.Draft.Closed
import Flowchart.Proofs.Graph.Canonical

/-!
Blocks that are opened without an id.

Such a block goes by its number among all blocks. No other number makes the same id, but a source
may spell it out: it may give it to another block, before or after, and it may mention a node under
it. In the graph all of these are one group, that of the block that was opened first.

Main definition: `Draft.Numbered`. Main statement: `load_numbered`.
-/

namespace Flowchart

open Flowchart.Source (Metadata)

/-- The block of a number in a draft that statements stand for, if it is opened without an id. -/
structure Draft.Numbered (draft : Draft) (statements : List Statement) (number : Nat)
    (block : Block) : Prop where
  /-- The block stands at its number, under the id that this number makes. -/
  placed : draft.blocks[number]? = some block
  id : block.id = Loading.generatedId number
  /-- Another block goes by this id exactly if the id is given to some block. -/
  shared : (∃ other ≠ number, draft.blockIds[other]? = some block.id) ↔
    some block.id ∈ (Meaning.openings statements).map Prod.fst
  /-- An earlier block goes by this id exactly if the id is given to one of those. -/
  preceded : (∃ earlier < number, draft.blockIds[earlier]? = some block.id) ↔
    some block.id ∈ ((Meaning.openings statements).take number).map Prod.fst
  /-- A vertex goes by this id exactly if a node is mentioned under it. -/
  mentioned : block.id ∈ draft.vertices.map Vertex.id ↔
    block.id ∈ (Meaning.mentions statements).map NodeRef.id

/-! ### Generated ids -/

theorem generatedId_injective {m n : Nat}
    (same : Loading.generatedId m = Loading.generatedId n) : m = n := by
  apply natDigits_injective
  have chars := congrArg String.toList same
  simpa [Loading.generatedId, Decimal.natText] using chars

theorem generatedId_eq (number : Nat) :
    Loading.generatedId number = "subGraph" ++ toString number := by
  simp [Loading.generatedId, Decimal.natText, Decimal.natDigits, Nat.repr_eq_ofList_toDigits]

section Statements

variable {statements : List Statement} {number : Nat} {title : Option String}

theorem getElem?_blockIds (position : Nat) :
    (Draft.meaning statements).blockIds[position]? =
      (Meaning.openings statements)[position]?.map fun opening =>
        opening.1.getD (Loading.generatedId position) := by
  rw [Draft.blockIds, Draft.meaning, List.getElem?_map, List.getElem?_mapIdx, Option.map_map,
    generatedId_eq]
  rfl

/-- At another position, a block has the id that a number makes only if it is given that id. -/
theorem getElem?_blockIds_generated {position : Nat} (other : position ≠ number) :
    (Draft.meaning statements).blockIds[position]? = some (Loading.generatedId number) ↔
      ((Meaning.openings statements).map Prod.fst)[position]? =
        some (some (Loading.generatedId number)) := by
  rw [getElem?_blockIds, List.getElem?_map]
  cases (Meaning.openings statements)[position]? with
  | none => simp
  | some opening =>
      obtain ⟨given, title⟩ := opening
      cases given with
      | some id => simp
      | none => simpa using fun same => other (generatedId_injective same)

/-- Where no id is given, the block is numbered. -/
theorem numbered_meaning (opened : (Meaning.openings statements)[number]? = some (none, title)) :
    ∃ block, (Draft.meaning statements).Numbered statements number block := by
  have ungiven : ∀ position, ((Meaning.openings statements).map Prod.fst)[position]? =
      some (some (Loading.generatedId number)) → position ≠ number := by
    rintro position given rfl
    rw [List.getElem?_map, opened] at given
    cases given
  have sameId : (Meaning.block (Meaning.placed [] statements) number (none, title)).id =
      Loading.generatedId number := (generatedId_eq number).symm
  refine ⟨Meaning.block (Meaning.placed [] statements) number (none, title), ?_, sameId, ?_, ?_, ?_⟩
  · rw [Draft.meaning, List.getElem?_mapIdx, opened]
    rfl
  · rw [sameId, List.mem_iff_getElem?]
    constructor
    · rintro ⟨other, differs, found⟩
      exact ⟨other, (getElem?_blockIds_generated differs).mp found⟩
    · rintro ⟨other, given⟩
      have differs := ungiven other given
      exact ⟨other, differs, (getElem?_blockIds_generated differs).mpr given⟩
  · rw [sameId, List.map_take, List.mem_iff_getElem?]
    constructor
    · rintro ⟨earlier, before, found⟩
      refine ⟨earlier, ?_⟩
      rw [List.getElem?_take_of_lt before]
      exact (getElem?_blockIds_generated before.ne).mp found
    · rintro ⟨earlier, given⟩
      rw [List.getElem?_take, Option.ite_none_right_eq_some] at given
      obtain ⟨before, given⟩ := given
      exact ⟨earlier, before, (getElem?_blockIds_generated before.ne).mpr given⟩
  · exact mem_map_id_vertices

end Statements

/-! ### Groups -/

section Groups

variable {K : Type} [Scalar K]

omit [Scalar K] in
/-- Of nodes with distinct ids, only one has the id of a given one. -/
theorem filter_node {nodes : List (Node K)} (distinct : (nodes.map Node.id).Nodup) {node : Node K}
    (member : node ∈ nodes) : (nodes.filter fun other => other.id == node.id) = [node] := by
  obtain ⟨before, after, rfl⟩ := List.append_of_mem member
  rw [List.map_append, List.map_cons, List.nodup_middle, List.nodup_cons, ← List.map_append]
    at distinct
  have others : ∀ other ∈ before ++ after, (other.id == node.id) = false := by
    intro other inside
    rw [beq_eq_false_iff_ne]
    intro same
    exact distinct.1 (same ▸ List.mem_map_of_mem inside)
  have front : before.filter (fun other => other.id == node.id) = [] :=
    List.filter_eq_nil_iff.mpr fun other inside => by
      simp [others other (List.mem_append_left _ inside)]
  have back : after.filter (fun other => other.id == node.id) = [] :=
    List.filter_eq_nil_iff.mpr fun other inside => by
      simp [others other (List.mem_append_right _ inside)]
  simp [front, back]

/-- A block is in the graph as one group, that of the first block with its id. -/
theorem filter_nodes_of_block {draft : Draft} (metadata : Metadata) (palette : Palette)
    {block : Block} (listed : block ∈ draft.blocks) :
    ∃ position first, draft.blocks.find? (fun other => other.id == block.id) = some first ∧
      ((Graph.ofDraft draft metadata palette : Graph K).nodes.filter fun node =>
        node.id == block.id) = [Node.ofBlock metadata palette position first] := by
  obtain ⟨position, group, front, at_, _, sameId, _⟩ :=
    exists_group_of_mem_blocks (K := K) metadata palette listed
  obtain ⟨first, found, rfl⟩ := getElem?_group front at_
  have distinct : ((Graph.ofDraft draft metadata palette : Graph K).nodes.map Node.id).Nodup := by
    rw [map_id_nodes]
    exact nodup_nodeIds draft
  have single := filter_node distinct (List.mem_of_getElem? at_)
  rw [sameId] at found single
  exact ⟨position, first, found, single⟩

end Groups

/-- What an accepted source makes of a block that it opens without an id: the block goes by its
number, and shares this id exactly with the blocks to which it is given and with the nodes that are
mentioned under it. In the graph all these are one group, which stands for the first of the
blocks. -/
theorem load_numbered {K : Type} [Scalar K] {source : String} {draft : Draft}
    (loaded : Draft.load source = .ok draft) {number : Nat} {title : Option String}
    (opened : (Meaning.openings (Source.statements source))[number]? = some (none, title)) :
    ∃ block, draft.Numbered (Source.statements source) number block ∧
      ∀ (metadata : Metadata) (palette : Palette), ∃ position first,
        draft.blocks.find? (fun other => other.id == block.id) = some first ∧
        ((Graph.ofDraft draft metadata palette : Graph K).nodes.filter fun node =>
          node.id == block.id) = [Node.ofBlock metadata palette position first] := by
  obtain ⟨_, rfl⟩ := load_eq_meaning loaded
  obtain ⟨block, numbered⟩ := numbered_meaning opened
  exact ⟨block, numbered, fun metadata palette =>
    filter_nodes_of_block metadata palette (List.mem_of_getElem? numbered.placed)⟩

/-- A source in which the id that the second block goes by is given to the first. -/
def givenSource : String :=
  "flowchart TD\nsubgraph subGraph1\nA\nend\nsubgraph \"Two\"\nB\nend"

/-- The draft of `givenSource`. -/
def givenDraft : Draft where
  direction := some "TD"
  vertices := [⟨"A", none, none⟩, ⟨"B", none, none⟩]
  blocks := [⟨"subGraph1", some "subGraph1", ["A"]⟩, ⟨"subGraph1", some "Two", ["B"]⟩]

/-- A source in which a node is mentioned under the id that the block goes by. -/
def mentionedSource : String :=
  "flowchart TD\nsubgraph \"One\"\nA\nend\nsubGraph0 --> A"

/-- The draft of `mentionedSource`. -/
def mentionedDraft : Draft where
  direction := some "TD"
  vertices := [⟨"A", none, none⟩, ⟨"subGraph0", none, none⟩]
  arcs := [⟨"subGraph0", "A", none, "normal", true⟩]
  blocks := [⟨"subGraph0", some "One", ["A"]⟩]

theorem load_numbered_givenSource :
    Draft.load givenSource = .ok givenDraft ∧
      (Meaning.openings (Source.statements givenSource))[1]? = some (none, some "Two") ∧
      ∃ block, givenDraft.Numbered (Source.statements givenSource) 1 block ∧
        ∀ (metadata : Metadata) (palette : Palette), ∃ position first,
          givenDraft.blocks.find? (fun other => other.id == block.id) = some first ∧
          ((Graph.ofDraft givenDraft metadata palette : Graph Rat).nodes.filter fun node =>
            node.id == block.id) = [Node.ofBlock metadata palette position first] := by
  have loaded : Draft.load givenSource = .ok givenDraft := by decide +kernel
  have opened : (Meaning.openings (Source.statements givenSource))[1]? =
      some (none, some "Two") := by
    decide +kernel
  exact ⟨loaded, opened, load_numbered loaded opened⟩

/-- Ids made from numbers are in use elsewhere. Of two blocks one swallows the other, and a node
that is an end of an arc gives way to a block. -/
theorem load_namesakes :
    (Draft.load givenSource = .ok givenDraft ∧
      (Meaning.openings (Source.statements givenSource))[1]? = some (none, some "Two") ∧
      givenDraft.blockIds = ["subGraph1", "subGraph1"] ∧
      (Graph.ofDraft givenDraft [] .standard : Graph Rat).nodes.map
          (fun node => (node.id, node.isGroup, node.parent)) =
        [("subGraph1", true, none), ("A", false, some "subGraph1"),
          ("B", false, some "subGraph1")]) ∧
    (Draft.load mentionedSource = .ok mentionedDraft ∧
      (Meaning.openings (Source.statements mentionedSource))[0]? = some (none, some "One") ∧
      mentionedDraft.vertices.map Vertex.id = ["A", "subGraph0"] ∧
      (Graph.ofDraft mentionedDraft [] .standard : Graph Rat).nodes.map
          (fun node => (node.id, node.isGroup, node.label)) =
        [("subGraph0", true, "One"), ("A", false, "A")]) := by
  refine ⟨⟨by decide +kernel, by decide +kernel, rfl, ?_⟩,
    ⟨by decide +kernel, by decide +kernel, rfl, ?_⟩⟩
  · decide +kernel
  · decide +kernel

end Flowchart
