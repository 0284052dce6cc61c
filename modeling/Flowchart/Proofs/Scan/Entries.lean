import Mathlib.Data.List.Induction
import Flowchart.Proofs.Distinct
import Flowchart.Proofs.Scan.Scopes

/-!
What a diagram holds when it is read forgivingly, without the state that is carried along.

Each line of nodes and links enters vertices and draws arcs, and no other line does. The vertices
that are found are the first entries of their ids, the arcs are those of all lines, and the
direction is the first that is declared.

Main definitions: `scannedLines`, `entered`, `drawn`. Main statements: `vertices_scan`, `arcs_scan`,
`direction_scan`.
-/

namespace Flowchart.Scan

open Flowchart.Plain (connectedArc declaredVertex arcEnds enter register_preserves scanBody_eq)
open Flowchart.Source (isDeclaration isSilent)

/-! ### Lines of nodes and links -/

/-- The lines that the forgiving reader goes through. -/
def scannedLines (source : String) : List (List Char) :=
  Source.trimmedLines (Source.cleanChars source.toList)

/-- Whether a line is one of nodes and links: neither comment nor declaration nor boundary of a
block. -/
def isBodyLine (line : List Char) : Bool :=
  !(isSilent line || isDeclaration line || (boundary? line).isSome)

/-- The nodes with brackets that a line declares. -/
def declared (line : List Char) : List Declaration :=
  if isBodyLine line then declarations line else []

/-- The arcs that a line draws. -/
def drawn (line : List Char) : List Arc :=
  if isBodyLine line then bodyArcs line else []

/-- The vertices that a line enters: the nodes it declares, and then the ends of its arcs. -/
def entered (line : List Char) : List Vertex :=
  (declared line).map declaredVertex ++ (drawn line).flatMap arcEnds

/-- The direction that a line declares. -/
def direction? (line : List Char) : Option String :=
  if isSilent line then none
  else if isDeclaration line then declaredDirection? line else none

section Lines

variable {line : List Char}

theorem spoken_of_isBodyLine (body : isBodyLine line = true) :
    isSilent line = false ∧ isDeclaration line = false ∧ boundary? line = none := by
  simpa [isBodyLine, and_assoc] using body

theorem isBodyLine_of_spoken (spoken : isSilent line = false)
    (undeclared : isDeclaration line = false) (unopened : blockOfLine? line = none)
    (unclosed : closesBlock line = false) : isBodyLine line = true := by
  simp [isBodyLine, spoken, undeclared, boundary?, unopened, unclosed]

theorem blockOfLine?_of_isBodyLine (body : isBodyLine line = true) : blockOfLine? line = none := by
  rw [← join_boundary?, (spoken_of_isBodyLine body).2.2]
  rfl

theorem entered_of_isBodyLine (body : isBodyLine line = true) :
    entered line = bodyVertices line := by
  rw [entered, declared, drawn, if_pos body, if_pos body, bodyVertices]

theorem entered_of_not_isBodyLine (other : isBodyLine line = false) : entered line = [] := by
  simp [entered, declared, drawn, other]

/-- A line of links without brackets declares nothing and draws what is found on it. -/
theorem drawn_of_undeclared (body : isBodyLine line = true) (bare : declarations line = []) :
    declared line = [] ∧ drawn line = (connections line).map connectedArc := by
  rw [declared, drawn, if_pos body, if_pos body, bodyArcs, links, bare]
  exact ⟨rfl, rfl⟩

/-- The ids that a line registers are those of the vertices it enters. -/
theorem registered_eq (line : List Char) : registered line = (entered line).map Vertex.id := by
  cases body : isBodyLine line with
  | true =>
      have spoken : (isSilent line || isDeclaration line || (boundary? line).isSome) = false := by
        rwa [isBodyLine, Bool.not_eq_true'] at body
      rw [registered, spoken, entered_of_isBodyLine body, map_id_bodyVertices]
      rfl
  | false =>
      have quiet : (isSilent line || isDeclaration line || (boundary? line).isSome) = true := by
        rwa [isBodyLine, Bool.not_eq_false'] at body
      rw [registered, quiet, entered_of_not_isBodyLine body]
      rfl

/-- The ends of the arcs of a line are entered. -/
theorem mem_entered_of_mem_drawn {arc : Arc} (member : arc ∈ drawn line) :
    ∀ vertex ∈ arcEnds arc, vertex ∈ entered line := by
  intro vertex isEnd
  apply List.mem_append_right
  exact List.mem_flatMap_of_mem member isEnd

/-- A vertex is entered for a node with brackets or as an end of an arc. -/
theorem mem_entered {vertex : Vertex} (member : vertex ∈ entered line) :
    (∃ declaration ∈ declared line, vertex = declaredVertex declaration) ∨
      ∃ arc ∈ drawn line,
        vertex = ⟨arc.source, none, none⟩ ∨ vertex = ⟨arc.target, none, none⟩ := by
  rcases List.mem_append.mp member with isDeclared | isEnd
  · obtain ⟨declaration, found, rfl⟩ := List.mem_map.mp isDeclared
    exact Or.inl ⟨declaration, found, rfl⟩
  · obtain ⟨arc, found, inside⟩ := List.mem_flatMap.mp isEnd
    exact Or.inr ⟨arc, found, List.mem_pair.mp inside⟩

/-- A line of nodes and links enters its vertices and draws its arcs. -/
theorem scanLine_of_isBodyLine (body : isBodyLine line = true) (blockIds : List String)
    (state : Scanning) :
    scanLine blockIds state line =
      { enter blockIds state (entered line) with arcs := state.arcs ++ drawn line } := by
  obtain ⟨spoken, undeclared, inside⟩ := spoken_of_isBodyLine body
  have unopened := blockOfLine?_of_isBodyLine body
  have unclosed : closesBlock line = false := by
    rw [boundary?, unopened] at inside
    simpa using inside
  rw [entered_of_isBodyLine body, drawn, if_pos body, scanLine, spoken, undeclared, unopened,
    unclosed]
  exact scanBody_eq blockIds state line

/-- Any other line leaves vertices and arcs as they are, and says at most a direction. -/
theorem scanLine_of_not_isBodyLine (other : isBodyLine line = false) (blockIds : List String)
    (state : Scanning) :
    (scanLine blockIds state line).vertices = state.vertices ∧
      (scanLine blockIds state line).arcs = state.arcs ∧
        (scanLine blockIds state line).direction = state.direction.or (direction? line) := by
  rw [scanLine, direction?]
  split
  case isTrue => exact ⟨rfl, rfl, Option.or_none.symm⟩
  case isFalse spoken =>
    split
    case isTrue => exact ⟨rfl, rfl, Option.or_eq_orElse.symm⟩
    case isFalse undeclared =>
      cases opened : blockOfLine? line with
      | some block => exact ⟨rfl, rfl, Option.or_none.symm⟩
      | none =>
          dsimp only
          split
          case isTrue => exact ⟨rfl, rfl, Option.or_none.symm⟩
          case isFalse unclosed =>
            simp [isBodyLine, spoken, undeclared, boundary?, opened, unclosed] at other

theorem direction_enter (blockIds : List String) (state : Scanning) (vertices : List Vertex) :
    (enter blockIds state vertices).direction = state.direction := by
  induction vertices generalizing state with
  | nil => rfl
  | cons vertex vertices ih =>
      exact (ih _).trans (register_preserves blockIds state vertex).2.1

/-- What a line adds to what has been found, whatever the line is. -/
theorem scanLine_adds (blockIds : List String) (state : Scanning) (line : List Char) :
    (scanLine blockIds state line).vertices = (enter blockIds state (entered line)).vertices ∧
      (scanLine blockIds state line).arcs = state.arcs ++ drawn line ∧
        (scanLine blockIds state line).direction = state.direction.or (direction? line) := by
  cases body : isBodyLine line with
  | true =>
      have spoken := spoken_of_isBodyLine body
      rw [scanLine_of_isBodyLine body, direction?, spoken.1, spoken.2.1]
      exact ⟨rfl, rfl, (direction_enter blockIds state (entered line)).trans Option.or_none.symm⟩
  | false =>
      obtain ⟨vertices, arcs, direction⟩ := scanLine_of_not_isBodyLine body blockIds state
      refine ⟨?_, ?_, direction⟩
      · rw [vertices, entered_of_not_isBodyLine body]
        rfl
      · rw [arcs, drawn, body]
        exact (List.append_nil _).symm

end Lines

/-! ### Whole diagrams -/

section Runs

variable {blockIds : List String} {state : Scanning} {seen : List Vertex}

/-- An id is known exactly if it is that of a block or has been entered before. -/
theorem knows_iff (found : state.vertices = firstByKey Vertex.id blockIds seen) {id : String} :
    state.Knows blockIds id ↔ id ∈ blockIds ∨ id ∈ seen.map Vertex.id := by
  rw [Scanning.Knows, found, mem_map_firstByKey]
  by_cases isBlock : id ∈ blockIds <;> simp [isBlock]

/-- Of the vertices that are entered, the first of each id stays, unless a block has the id. -/
theorem vertices_enter (found : state.vertices = firstByKey Vertex.id blockIds seen)
    (vertices : List Vertex) :
    (enter blockIds state vertices).vertices =
      firstByKey Vertex.id blockIds (seen ++ vertices) := by
  induction vertices generalizing state seen with
  | nil => rw [List.append_nil, ← found, enter, List.foldl_nil]
  | cons vertex vertices ih =>
      have here : (register blockIds state vertex).vertices =
          firstByKey Vertex.id blockIds (seen ++ [vertex]) := by
        by_cases known : state.Knows blockIds vertex.id
        · rw [register_of_known known, found,
            firstByKey_append_of_known ((knows_iff found).mp known)]
        · have new := not_or.mp (mt (knows_iff found).mpr known)
          rw [register_of_new known, firstByKey_append_of_new new.1 new.2, ← found]
      have rest := ih here
      rw [List.append_assoc, List.singleton_append] at rest
      exact rest

/-- What has been found after lines: the first entries of all ids, all arcs, and the first
direction. -/
theorem foldl_scanLine_finds (blockIds : List String) (lines : List (List Char)) :
    (lines.foldl (scanLine blockIds) {}).vertices =
        firstByKey Vertex.id blockIds (lines.flatMap entered) ∧
      (lines.foldl (scanLine blockIds) {}).arcs = lines.flatMap drawn ∧
        (lines.foldl (scanLine blockIds) {}).direction = lines.findSome? direction? := by
  induction lines using List.reverseRecOn with
  | nil => exact ⟨rfl, rfl, rfl⟩
  | append_singleton before line ih =>
      obtain ⟨vertices, arcs, direction⟩ := ih
      have step := scanLine_adds blockIds (before.foldl (scanLine blockIds) {}) line
      rw [List.foldl_append, List.foldl_cons, List.foldl_nil, List.flatMap_append,
        List.flatMap_append, List.flatMap_singleton, List.flatMap_singleton,
        List.findSome?_append, List.findSome?_singleton]
      refine ⟨?_, ?_, ?_⟩
      · rw [step.1, vertices_enter vertices]
      · rw [step.2.1, arcs]
      · rw [step.2.2, direction]

end Runs

section Drafts

variable (source : String)

/-- The blocks of a diagram are those that its lines open. -/
theorem blockIds_scan :
    (Draft.scan source).blockIds = ((scannedLines source).filterMap blockOfLine?).map Block.id :=
  (AfterLines.foldl_scanLine _ (scannedLines source)).blocks

/-- The vertices of a diagram are the first entries of their ids. -/
theorem vertices_scan :
    (Draft.scan source).vertices =
      firstByKey Vertex.id (Draft.scan source).blockIds
        ((scannedLines source).flatMap entered) := by
  rw [blockIds_scan]
  exact (foldl_scanLine_finds _ (scannedLines source)).1

/-- The arcs of a diagram are those of its lines. -/
theorem arcs_scan : (Draft.scan source).arcs = (scannedLines source).flatMap drawn :=
  (foldl_scanLine_finds _ (scannedLines source)).2.1

/-- Each arc of a diagram is that of a link on one of its lines. -/
theorem exists_link_of_mem_arcs {source : String} {arc : Arc}
    (member : arc ∈ (Draft.scan source).arcs) :
    ∃ line ∈ scannedLines source, ∃ link ∈ links line, connectedArc link = arc := by
  rw [arcs_scan] at member
  obtain ⟨line, listed, drawnHere⟩ := List.mem_flatMap.mp member
  rw [drawn] at drawnHere
  split at drawnHere
  case isTrue => exact ⟨line, listed, List.mem_map.mp drawnHere⟩
  case isFalse => cases drawnHere

/-- The direction of a diagram is the first that a line declares. -/
theorem direction_scan :
    (Draft.scan source).direction = (scannedLines source).findSome? direction? :=
  (foldl_scanLine_finds _ (scannedLines source)).2.2

/-- A vertex of a diagram is the first entry of its id, which no block has. -/
theorem mem_vertices_scan {vertex : Vertex} :
    vertex ∈ (Draft.scan source).vertices ↔
      ((scannedLines source).flatMap entered).find? (fun other => other.id == vertex.id) =
          some vertex ∧
        vertex.id ∉ (Draft.scan source).blockIds := by
  rw [vertices_scan]
  exact mem_firstByKey

end Drafts

end Flowchart.Scan
