import Flowchart.Proofs.Draft.Accepted
import Flowchart.Proofs.Draft.Records
import Flowchart.Proofs.Graph.Attached
import Flowchart.Proofs.Statement.Named

/-!
Drafts that are closed.

What is read strictly refers to nothing outside of itself: every arc and every block mentions
vertices of the draft only. Its names are not empty and its strokes and direction are known words,
so that it passes as an interpretation and keeps all its arcs in the graph.

Main definition: `Draft.Closed`. Main statement: `load_closed`.
-/

namespace Flowchart

open Flowchart.Source (Metadata statementsOf)

/-- A draft whose parts have names and refer to its vertices only. -/
structure Draft.Closed (draft : Draft) : Prop where
  /-- Vertices have ids of their own. -/
  distinct : (draft.vertices.map Vertex.id).Nodup
  vertexNames : ∀ vertex ∈ draft.vertices, vertex.id ≠ ""
  blockNames : ∀ block ∈ draft.blocks, block.id ≠ ""
  titles : ∀ block ∈ draft.blocks, ∃ title, block.title = some title ∧ title ≠ ""
  /-- Both ends of an arc are vertices. -/
  sources : ∀ arc ∈ draft.arcs, arc.source ∈ draft.vertices.map Vertex.id
  targets : ∀ arc ∈ draft.arcs, arc.target ∈ draft.vertices.map Vertex.id
  /-- A block lists vertices, each of them once. -/
  members : ∀ block ∈ draft.blocks, ∀ id ∈ block.members, id ∈ draft.vertices.map Vertex.id
  listedOnce : ∀ block ∈ draft.blocks, block.members.Nodup
  strokes : ∀ arc ∈ draft.arcs, arc.stroke ∈ ["normal", "dotted", "thick"]
  direction : ∀ word ∈ draft.direction, word ∈ ["TB", "TD", "BT", "RL", "LR"]

namespace Draft.Closed

variable {draft : Draft}

/-- A closed draft has ids for everything. -/
theorem named (closed : draft.Closed) : draft.Named where
  vertices := by
    intro vertex member
    simpa using closed.vertexNames vertex member
  arcs := by
    have nonempty : ∀ id ∈ draft.vertices.map Vertex.id, id.isEmpty = false := by
      intro id member
      obtain ⟨vertex, listed, rfl⟩ := List.mem_map.mp member
      simpa using closed.vertexNames vertex listed
    intro arc member
    exact ⟨nonempty _ (closed.sources arc member), nonempty _ (closed.targets arc member)⟩
  blocks := by
    intro block member
    simpa using closed.blockNames block member

/-- In a closed draft no edge loses an end. -/
theorem attached (closed : draft.Closed) : draft.Attached where
  sources := fun arc member => Or.inl (closed.sources arc member)
  targets := fun arc member => Or.inl (closed.targets arc member)

end Draft.Closed

/-! ### Parts of the meaning -/

section Parts

variable {statements : List Statement}

/-- The arcs of a chain lie between the nodes that it mentions, with known strokes. -/
theorem mem_chainArcs {first : List NodeRef} {hops : List Hop} {arc : Arc}
    (member : arc ∈ Statement.chainArcs first hops) :
    arc.source ∈ (first ++ hops.flatMap Hop.targets).map NodeRef.id ∧
      arc.target ∈ (first ++ hops.flatMap Hop.targets).map NodeRef.id ∧
        ∃ stroke : Stroke, arc.stroke = stroke.name := by
  induction hops generalizing first with
  | nil => simp [Statement.chainArcs] at member
  | cons hop hops ih =>
      rw [Loading.chainArcs_cons, List.mem_append] at member
      rw [List.flatMap_cons, List.map_append]
      rcases member with here | later
      · obtain ⟨source, isSource, inner⟩ := List.mem_flatMap.mp here
        obtain ⟨target, isTarget, rfl⟩ := List.mem_map.mp inner
        refine ⟨?_, ?_, hop.link.stroke, rfl⟩
        · exact List.mem_append_left _ (List.mem_map_of_mem isSource)
        · exact List.mem_append_right _ (List.mem_map_of_mem (List.mem_append_left _ isTarget))
      · obtain ⟨source, target, stroke⟩ := ih later
        exact ⟨List.mem_append_right _ source, List.mem_append_right _ target, stroke⟩

/-- Arcs have both ends among the nodes that are mentioned. -/
theorem mem_arcs {arc : Arc} (member : arc ∈ statements.flatMap Statement.arcs) :
    arc.source ∈ (Meaning.mentions statements).map NodeRef.id ∧
      arc.target ∈ (Meaning.mentions statements).map NodeRef.id ∧
        ∃ stroke : Stroke, arc.stroke = stroke.name := by
  obtain ⟨statement, made, drawn⟩ := List.mem_flatMap.mp member
  have mentioned : statement.mentions ⊆ Meaning.mentions statements :=
    fun ref inside => List.mem_flatMap_of_mem made inside
  cases statement with
  | edges first hops =>
      obtain ⟨source, target, stroke⟩ := mem_chainArcs drawn
      exact ⟨List.map_subset _ mentioned source, List.map_subset _ mentioned target, stroke⟩
  | header | blockStart | blockEnd | ignored | nodes => cases drawn

/-- What stands inside some block is mentioned. -/
theorem mem_placed {before : List Statement} {place : Option Nat × String}
    (member : place ∈ Meaning.placed before statements) :
    place.2 ∈ (Meaning.mentions statements).map NodeRef.id := by
  induction statements generalizing before with
  | nil => cases member
  | cons statement statements ih =>
      rw [Meaning.mentions, List.flatMap_cons, List.map_append, List.mem_append]
      rcases List.mem_append.mp member with here | later
      · obtain ⟨ref, mentioned, rfl⟩ := List.mem_map.mp here
        exact Or.inl (List.mem_map_of_mem mentioned)
      · exact Or.inr (ih later)

/-- Members of blocks are nodes that are mentioned. -/
theorem mem_members {number : Nat} {id : String}
    (member : id ∈ Meaning.members (Meaning.placed [] statements) number) :
    id ∈ (Meaning.mentions statements).map NodeRef.id := by
  rw [Meaning.members, List.mem_eraseDups] at member
  obtain ⟨place, listed, rfl⟩ := List.mem_map.mp member
  exact mem_placed (List.mem_filter.mp listed).1

/-- A block of the draft is one that a statement opens. -/
theorem mem_blocks {block : Block} (member : block ∈ (Draft.meaning statements).blocks) :
    ∃ number opening, opening ∈ Meaning.openings statements ∧
      block = Meaning.block (Meaning.placed [] statements) number opening := by
  obtain ⟨number, inside, rfl⟩ := List.mem_mapIdx.mp member
  exact ⟨number, _, List.getElem_mem inside, rfl⟩

theorem map_id_vertices :
    (Draft.meaning statements).vertices.map Vertex.id =
      Meaning.ids (Meaning.mentions statements) := by
  have same : Vertex.id ∘ Meaning.vertex (Meaning.mentions statements) = id := rfl
  rw [Draft.meaning, List.map_map, same, List.map_id]

/-- The id that a block goes by is not empty, given or not. -/
theorem openingId_ne_empty {given : Option String} (nonempty : ∀ id ∈ given, id ≠ "")
    (number : Nat) : given.getD ("subGraph" ++ toString number) ≠ "" := by
  cases given with
  | some id => exact nonempty id rfl
  | none =>
      intro empty
      have chars := congrArg String.toList empty
      rw [Option.getD_none, String.toList_append] at chars
      cases chars

/-- The vertices are the nodes that are mentioned. -/
theorem mem_map_id_vertices {id : String} :
    id ∈ (Draft.meaning statements).vertices.map Vertex.id ↔
      id ∈ (Meaning.mentions statements).map NodeRef.id := by
  rw [map_id_vertices]
  exact Meaning.mem_ids

/-- A direction is declared by the first statement. -/
theorem header_of_direction {word : String}
    (declared : (Draft.meaning statements).direction = some word) :
    .header (some word) ∈ statements := by
  cases statements with
  | nil => cases declared
  | cons first rest =>
      cases first with
      | header direction =>
          obtain rfl : direction = some word := declared
          exact List.mem_cons_self
      | blockStart | blockEnd | ignored | nodes | edges => cases declared

/-- Statements in which all names are given mean a closed draft. -/
theorem closed_meaning (named : ∀ statement ∈ statements, statement.Named) :
    (Draft.meaning statements).Closed := by
  have openingNamed : ∀ opening ∈ Meaning.openings statements, ∀ id ∈ opening.1, id ≠ "" := by
    intro opening member
    obtain ⟨statement, made, opens⟩ := List.mem_filterMap.mp member
    exact (named statement made).opening opening opens
  constructor
  case distinct =>
    rw [map_id_vertices]
    exact Meaning.nodup_ids _
  case vertexNames =>
    intro vertex member
    obtain ⟨ref, isRef, same⟩ :=
      List.mem_map.mp (mem_map_id_vertices.mp (List.mem_map_of_mem member))
    obtain ⟨statement, made, inside⟩ := List.mem_flatMap.mp isRef
    rw [← same]
    exact (named statement made).mentions ref inside
  case blockNames =>
    intro block member
    obtain ⟨number, opening, opened, rfl⟩ := mem_blocks member
    exact openingId_ne_empty (openingNamed opening opened) number
  case titles =>
    intro block member
    obtain ⟨number, opening, opened, rfl⟩ := mem_blocks member
    refine ⟨_, rfl, ?_⟩
    cases given : opening.2.filter fun title => !title.isEmpty with
    | none => exact openingId_ne_empty (openingNamed opening opened) number
    | some title =>
        have nonempty := (Option.filter_eq_some_iff.mp given).2
        simpa using nonempty
  case sources => exact fun arc member => mem_map_id_vertices.mpr (mem_arcs member).1
  case targets => exact fun arc member => mem_map_id_vertices.mpr (mem_arcs member).2.1
  case members =>
    intro block member id listed
    obtain ⟨number, opening, opened, rfl⟩ := mem_blocks member
    exact mem_map_id_vertices.mpr (mem_members listed)
  case listedOnce =>
    intro block member
    obtain ⟨number, opening, opened, rfl⟩ := mem_blocks member
    exact nodup_eraseDups _
  case strokes =>
    intro arc member
    obtain ⟨_, _, stroke, same⟩ := mem_arcs member
    rw [same]
    cases stroke <;> simp [Stroke.name]
  case direction =>
    intro word declared
    exact (named _ (header_of_direction declared)).direction word rfl

end Parts

/-! ### Sources -/

/-- No statement of a source has an empty id. -/
theorem named_of_mem_statementsOf {lines : List (List Char)} {statement : Statement}
    (member : statement ∈ statementsOf lines) : statement.Named := by
  obtain ⟨line, _, made⟩ := List.mem_filterMap.mp member
  exact Statement.named_of_ofLine? (Option.join_eq_some_iff.mp made)

/-- The draft of an accepted source is what the loading holds that has read its statements. -/
theorem exists_loading {source : String} {draft : Draft} (loaded : Draft.load source = .ok draft) :
    ∃ loading, Draft.loadLines none 1 (Source.trimmedLines source.toList) = .ok (some loading) ∧
      loading.HasRead (Source.statements source) ∧ draft = loading.toDraft := by
  obtain ⟨readable, direction, body, after, first, ran, _, rfl⟩ := load_eq_ok_iff.mp loaded
  have read := Loading.run_hasRead (Loading.hasRead_declaration direction) ran
  rw [List.singleton_append, ← first] at read
  exact ⟨after, loadLines_none_eq_ok_iff.mpr ⟨readable, direction, body, first, ran⟩, read, rfl⟩

/-- What is read strictly is closed, with each vertex under its id. It is received as an
interpretation without change, and its graph leaves out no arc. -/
theorem load_closed {K : Type} [Scalar K] {source : String} {draft : Draft}
    (loaded : Draft.load source = .ok draft) :
    draft.Closed ∧
      (∃ loading, Draft.loadLines none 1 (Source.trimmedLines source.toList) = .ok (some loading) ∧
        draft = loading.toDraft ∧ ∀ entry ∈ loading.vertices, entry.1 = entry.2.id) ∧
      draft.toInterpretation.toDraft = .ok draft ∧
      ∀ (metadata : Metadata) (palette : Palette),
        (Graph.ofDraft draft metadata palette : Graph K).edges =
          draft.arcs.zipIdx.map fun arc => Edge.ofArc arc.2 arc.1 := by
  obtain ⟨loading, lines, read, same⟩ := exists_loading loaded
  have closed : draft.Closed := by
    rw [same, toDraft_eq_meaning read]
    exact closed_meaning fun statement member => named_of_mem_statementsOf member
  have keyed : ∀ entry ∈ loading.vertices, entry.1 = entry.2.id := by
    intro entry member
    rw [read.represents.vertices] at member
    obtain ⟨id, _, rfl⟩ := List.mem_map.mp member
    rfl
  exact ⟨closed, ⟨loading, lines, same, keyed⟩, toDraft_toInterpretation closed.named,
    closed.attached.edges_ofDraft⟩

/-- A source in which a block takes the id of a vertex that has arcs. -/
def swallowingSource : String :=
  "graph LR\nA -.-> g\nsubgraph g\nB ==> A\nsubgraph\nB\nend\nend"

/-- The draft of `swallowingSource`. -/
def swallowingDraft : Draft where
  direction := some "LR"
  vertices := [⟨"A", none, none⟩, ⟨"g", none, none⟩, ⟨"B", none, none⟩]
  arcs := [⟨"A", "g", none, "dotted", true⟩, ⟨"B", "A", none, "thick", true⟩]
  blocks := [⟨"g", some "g", ["B", "A"]⟩, ⟨"subGraph1", some "subGraph1", ["B"]⟩]

theorem load_closed_swallowingSource :
    Draft.load swallowingSource = .ok swallowingDraft ∧
      swallowingDraft.Closed ∧
        ((Graph.ofDraft swallowingDraft [] .standard : Graph Rat).edges.map Edge.id =
          ["eA-g-0", "eB-A-1"]) := by
  have loaded : Draft.load swallowingSource = .ok swallowingDraft := by decide +kernel
  obtain ⟨closed, _, _, edges⟩ := load_closed (K := Rat) loaded
  refine ⟨loaded, closed, ?_⟩
  rw [edges]
  rfl

end Flowchart
