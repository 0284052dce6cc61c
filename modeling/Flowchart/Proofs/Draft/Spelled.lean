import Flowchart.Proofs.Draft.Closed
import Flowchart.Proofs.Scan.Scopes

/-!
Drafts without empty names.

Both readers of diagrams give every vertex and every block an id that is not empty, and a shape, if
any, that is a word. Documents rely on this: in them an empty text counts as absent.

Main definition: `Draft.Spelled`. Main statements: `spelled_of_interpret`, `spelled_scan`.
-/

namespace Flowchart

/-- A vertex whose id is not empty, nor its shape if it has one. -/
structure Vertex.Spelled (vertex : Vertex) : Prop where
  id : vertex.id ≠ ""
  shape : ∀ shape ∈ vertex.shape, shape ≠ ""

/-- A draft in which no id and no shape is empty. -/
structure Draft.Spelled (draft : Draft) : Prop where
  vertices : ∀ vertex ∈ draft.vertices, vertex.Spelled
  blocks : ∀ block ∈ draft.blocks, block.id ≠ ""

theorem Shape.name_ne_empty (shape : Shape) : shape.name ≠ "" := by
  cases shape <;> decide

/-! ### Strict reading -/

/-- The shape of a vertex is that of brackets. -/
theorem shape_ne_empty_of_mem_meaning {statements : List Statement} {vertex : Vertex}
    (member : vertex ∈ (Draft.meaning statements).vertices) :
    ∀ shape ∈ vertex.shape, shape ≠ "" := by
  obtain ⟨id, _, rfl⟩ := List.mem_map.mp member
  intro word isShape
  obtain ⟨body, _, rfl⟩ := Option.map_eq_some_iff.mp isShape
  exact body.1.name_ne_empty

/-- What is read strictly is the meaning of the statements in the source, and it is closed. -/
theorem meaning_of_load {source : String} {draft : Draft} (loaded : Draft.load source = .ok draft) :
    draft = Draft.meaning (Source.statements source) ∧ draft.Closed := by
  obtain ⟨loading, _, hasRead, same⟩ := exists_loading loaded
  have meaning : draft = Draft.meaning (Source.statements source) := by
    rw [same, toDraft_eq_meaning hasRead]
  rw [meaning]
  exact ⟨rfl, closed_meaning fun statement member => named_of_mem_statementsOf member⟩

/-- The standard interpreter makes no mistake: either it reads a draft, or the source is left to the
forgiving reader. -/
theorem interpret_standard_cases (source : String) :
    (∃ draft, Draft.load source = .ok draft ∧ Draft.interpret .standard source = .ok draft) ∨
      ∃ cause, Draft.interpret .standard source = .error (.rejected cause) := by
  cases loaded : Draft.load source with
  | error cause =>
      refine Or.inr ⟨cause, ?_⟩
      rw [Draft.interpret, Interpreter.standard, loaded]
  | ok draft =>
      rw [interpret_standard loaded (meaning_of_load loaded).2.named, Draft.checkStructure]
      split
      case isTrue => exact Or.inr ⟨_, rfl⟩
      case isFalse => exact Or.inl ⟨draft, rfl, rfl⟩

/-- What the standard interpreter reads is spelled. -/
theorem spelled_of_interpret {source : String} {draft : Draft}
    (read : Draft.interpret .standard source = .ok draft) : draft.Spelled := by
  rcases interpret_standard_cases source with ⟨own, loaded, same⟩ | ⟨cause, refused⟩
  · obtain rfl : own = draft := Except.ok.inj (same.symm.trans read)
    obtain ⟨meaning, closed⟩ := meaning_of_load loaded
    refine ⟨fun vertex member => ⟨closed.vertexNames vertex member, ?_⟩, closed.blockNames⟩
    rw [meaning] at member
    exact shape_ne_empty_of_mem_meaning member
  · rw [refused] at read
    cases read

/-! ### Forgiving reading -/

namespace Scan

open Flowchart.Plain (enter)

/-- What a line enters is a vertex of the line. -/
theorem mem_vertices_enter {blockIds : List String} {state : Scanning} {vertices : List Vertex}
    {vertex : Vertex} (member : vertex ∈ (enter blockIds state vertices).vertices) :
    vertex ∈ state.vertices ∨ vertex ∈ vertices := by
  induction vertices generalizing state with
  | nil => exact Or.inl member
  | cons first vertices ih =>
      rcases ih member with registered | later
      · rw [register] at registered
        split at registered
        case isTrue => exact Or.inl registered
        case isFalse =>
          rcases List.mem_append.mp registered with old | new
          · exact Or.inl old
          · exact Or.inr (List.mem_singleton.mp new ▸ List.mem_cons_self)
      · exact Or.inr (List.mem_cons_of_mem first later)

theorem mem_vertices_scanLine {blockIds : List String} {state : Scanning} {line : List Char}
    {vertex : Vertex} (member : vertex ∈ (scanLine blockIds state line).vertices) :
    vertex ∈ state.vertices ∨ vertex ∈ bodyVertices line := by
  have effect := scanLine_effect blockIds state line
  generalize scanLine blockIds state line = next at effect member
  cases effect with
  | quiet | opens | closes => exact Or.inl member
  | body => exact mem_vertices_enter member

/-- A vertex that has been entered is one of a line. -/
theorem mem_vertices_foldl {blockIds : List String} {lines : List (List Char)} (state : Scanning)
    {vertex : Vertex} (member : vertex ∈ (lines.foldl (scanLine blockIds) state).vertices) :
    vertex ∈ state.vertices ∨ ∃ line ∈ lines, vertex ∈ bodyVertices line := by
  induction lines generalizing state with
  | nil => exact Or.inl member
  | cons first lines ih =>
      rcases ih _ member with here | ⟨line, listed, entered⟩
      · rcases mem_vertices_scanLine here with old | new
        · exact Or.inl old
        · exact Or.inr ⟨first, List.mem_cons_self, new⟩
      · exact Or.inr ⟨line, List.mem_cons_of_mem first listed, entered⟩

theorem spelled_of_mem_bodyVertices {line : List Char} {vertex : Vertex}
    (member : vertex ∈ bodyVertices line) : vertex.Spelled := by
  refine ⟨named_of_mem_bodyVertices member, ?_⟩
  rcases List.mem_append.mp member with declared | isEnd
  · obtain ⟨declaration, _, rfl⟩ := List.mem_map.mp declared
    rintro _ ⟨⟩
    exact declaration.shape.name_ne_empty
  · obtain ⟨arc, _, inside⟩ := List.mem_flatMap.mp isEnd
    rcases List.mem_pair.mp inside with rfl | rfl <;> rintro _ ⟨⟩

theorem id_ne_empty_of_blockOfLine? {line : List Char} {block : Block}
    (opened : blockOfLine? line = some block) : block.id ≠ "" := by
  simp only [blockOfLine?, Option.bind_eq_bind, Option.bind_eq_some_iff] at opened
  obtain ⟨_, _, ⟨word, rest⟩, read, made⟩ := opened
  cases made
  exact mt String.ofList_eq_empty_iff.mp (Text.yields_run1 _ read)

/-- What is found forgivingly is spelled. -/
theorem spelled_scan (source : String) : (Draft.scan source).Spelled := by
  let lines := Source.trimmedLines (Source.cleanChars source.toList)
  let blockIds := (lines.filterMap blockOfLine?).map Block.id
  constructor
  case vertices =>
    intro vertex member
    rcases mem_vertices_foldl {} member with none | ⟨line, _, entered⟩
    · cases none
    · exact spelled_of_mem_bodyVertices entered
  case blocks =>
    intro block member
    have ids : (Draft.scan source).blocks.map Block.id = blockIds :=
      (AfterLines.foldl_scanLine blockIds lines).blocks
    have isId : block.id ∈ blockIds := by
      rw [← ids]
      exact List.mem_map_of_mem member
    obtain ⟨opened, listed, same⟩ := List.mem_map.mp isId
    obtain ⟨line, _, opens⟩ := List.mem_filterMap.mp listed
    rw [← same]
    exact id_ne_empty_of_blockOfLine? opens

end Scan

end Flowchart
