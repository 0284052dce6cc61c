import Flowchart.Proofs.Plain.Forgiving
import Flowchart.Proofs.Text.Yielding

/-!
Lines, as the forgiving reader tells them apart.

Whatever it looks like, a line has one of four effects: it says at most a direction, it opens a
block, it closes one, or it enters vertices and arcs. The first pass over the lines, which collects
the blocks, and the second pass agree on which lines open one, because no comment and no
declaration looks like such a line.

Main definitions: `registered`, `openBlock?`. Main statement: `scanLine_effect`.
-/

namespace Flowchart.Scan

open Flowchart.Text
open Flowchart.Plain (arcEnds blockOfLine?_of_none connectedArc declaredVertex enter scanBody_eq)
open Flowchart.Source (afterKeyword isDeclaration isSilent)

/-! ### What a line says -/

/-- The links of a line, searched after its nodes with brackets have been replaced by their ids. -/
def links (line : List Char) : List Connection :=
  connections (collapse 0 line (declarations line))

/-- What a line says about blocks: it opens one, it closes one, or nothing. -/
def boundary? (line : List Char) : Option (Option Block) :=
  match blockOfLine? line with
  | some block => some (some block)
  | none => if closesBlock line then some none else none

/-- The ids that a line registers, in order: those of its nodes with brackets, and then the ends of
its links. -/
def registered (line : List Char) : List String :=
  if isSilent line || isDeclaration line || (boundary? line).isSome then []
  else
    (declarations line).map Declaration.id ++
      (links line).flatMap fun link => [link.source, link.target]

/-- The block that is open after lines: the one that was opened last, unless it was closed. -/
def openBlock? (lines : List (List Char)) : Option Block :=
  (lines.reverse.findSome? boundary?).join

/-- The boundary of a line that opens a block is that block. -/
theorem join_boundary? (line : List Char) : (boundary? line).join = blockOfLine? line := by
  rw [boundary?]
  cases blockOfLine? line with
  | some block => rfl
  | none =>
      dsimp only
      split <;> rfl

/-- The last line decides which block is open, if it is a boundary. -/
theorem openBlock?_append (lines : List (List Char)) (line : List Char) :
    openBlock? (lines ++ [line]) = (boundary? line).getD (openBlock? lines) := by
  rw [openBlock?, List.reverse_append, List.reverse_singleton, List.singleton_append,
    List.findSome?_cons]
  cases boundary? line <;> rfl

/-! ### Lines that are no boundaries -/

/-- A line is no boundary if it does not start with the first letter of a keyword of blocks. -/
theorem boundary?_of_head {line : List Char}
    (differs : ∀ c ∈ line.head?, foldLetterDotted c ≠ 's' ∧ foldLetterDotted c ≠ 'e') :
    boundary? line = none := by
  have opens : afterCaseless foldLetterDotted "subgraph".toList line = none :=
    afterCaseless_of_head fun c first => (differs c first).1
  have closes : afterCaseless foldLetterDotted "end".toList line = none :=
    afterCaseless_of_head fun c first => (differs c first).2
  have unopened : blockOfLine? line = none := by
    apply blockOfLine?_of_none
    rw [afterWordAndBlanks, opens]
    rfl
  have unclosed : closesBlock line = false := by
    rw [closesBlock, closes]
    rfl
  rw [boundary?, unopened, unclosed]
  rfl

/-- A silent line is no boundary. -/
theorem boundary?_of_isSilent {line : List Char} (silent : isSilent line = true) :
    boundary? line = none := by
  apply boundary?_of_head
  intro c first
  cases line with
  | nil => cases first
  | cons other rest =>
      cases first
      have percent : c = '%' := by
        by_contra other
        rw [isSilent_of_ne other] at silent
        cases silent
      subst percent
      constructor <;> decide

/-- Without the blanks around it, a line that declares a diagram starts with the first letter of a
keyword for declarations. -/
theorem head_trim_of_isDeclaration {line : List Char} (declares : isDeclaration line = true) :
    ∃ c rest, trim line = c :: rest ∧ (foldLetterDotted c = 'f' ∨ foldLetterDotted c = 'g') := by
  rw [isDeclaration, List.any_eq_true] at declares
  obtain ⟨keyword, listed, found⟩ := declares
  obtain ⟨left, read⟩ := Option.isSome_iff_exists.mp found
  obtain ⟨word, starts, folded⟩ := afterCaseless_eq_some.mp (afterKeyword_eq_some.mp read).1
  rw [← folded] at listed
  cases word with
  | nil => simp at listed
  | cons c word =>
      refine ⟨c, word ++ left, starts, ?_⟩
      simp only [List.map_cons, List.mem_cons, List.not_mem_nil, or_false] at listed
      exact listed.imp (fun same => (List.cons.inj same).1) (fun same => (List.cons.inj same).1)

/-- A line that declares a diagram starts with a blank, or with the first letter of a keyword for
declarations. -/
theorem head_of_isDeclaration {line : List Char} (declares : isDeclaration line = true) :
    ∀ c ∈ line.head?,
      isBlank c = true ∨ foldLetterDotted c = 'f' ∨ foldLetterDotted c = 'g' := by
  intro c first
  obtain ⟨rest, rfl⟩ := List.head?_eq_some_iff.mp first
  cases blank : isBlank c with
  | true => exact Or.inl rfl
  | false =>
      obtain ⟨other, more, starts, letter⟩ := head_trim_of_isDeclaration declares
      have front : trim (c :: rest) <+: c :: rest := by
        rw [trim, trimLeft, List.dropWhile_cons_of_neg (by simp [blank])]
        exact trimRight_isPrefix _
      rw [starts, List.cons_prefix_cons] at front
      exact Or.inr (front.1 ▸ letter)

theorem boundary?_of_isDeclaration {line : List Char} (declares : isDeclaration line = true) :
    boundary? line = none := by
  apply boundary?_of_head
  intro c first
  rcases head_of_isDeclaration declares c first with blank | starts | starts
  · rw [foldLetterDotted_of_isBlank blank]
    constructor
    · rintro rfl
      exact absurd blank (by decide)
    · rintro rfl
      exact absurd blank (by decide)
  · rw [starts]
    constructor <;> decide
  · rw [starts]
    constructor <;> decide

/-! ### Effects -/

/-- The arcs that a line of nodes and links enters. -/
def bodyArcs (line : List Char) : List Arc :=
  (links line).map connectedArc

/-- The vertices that a line of nodes and links enters. -/
def bodyVertices (line : List Char) : List Vertex :=
  (declarations line).map declaredVertex ++ (bodyArcs line).flatMap arcEnds

/-- What the effect of a line on a state can be. -/
inductive Effect (blockIds : List String) (state : Scanning) (line : List Char) : Scanning → Prop
  /-- A comment or a declaration. -/
  | quiet (direction : Option String) (registers : registered line = [])
    (inside : boundary? line = none) : Effect blockIds state line { state with direction }
  | opens (block : Block) (registers : registered line = [])
    (opened : boundary? line = some (some block)) (empty : block.members = []) :
    Effect blockIds state line
      { state with blocks := state.blocks ++ [block], inBlock := true }
  | closes (registers : registered line = []) (closed : boundary? line = some none) :
    Effect blockIds state line { state with inBlock := false }
  /-- A line of nodes and links. -/
  | body (registers : registered line = (bodyVertices line).map Vertex.id)
    (inside : boundary? line = none) :
    Effect blockIds state line
      { enter blockIds state (bodyVertices line) with arcs := state.arcs ++ bodyArcs line }

section Effects

variable {blockIds : List String} {state : Scanning} {line : List Char}

/-- A block has no members when it is opened. -/
theorem members_of_blockOfLine? {block : Block} (opened : blockOfLine? line = some block) :
    block.members = [] := by
  simp only [blockOfLine?, Option.bind_eq_bind, Option.bind_eq_some_iff] at opened
  obtain ⟨_, _, _, _, made⟩ := opened
  cases made
  rfl

/-- On a line the nodes with brackets come first, then the ends of its connectors. -/
theorem map_id_bodyVertices (line : List Char) :
    (bodyVertices line).map Vertex.id =
      (declarations line).map Declaration.id ++
        (links line).flatMap fun link => [link.source, link.target] := by
  rw [bodyVertices, bodyArcs, List.map_append, List.map_map, List.flatMap_map, List.map_flatMap]
  rfl

/-- The effect of a line is one of the four. -/
theorem scanLine_effect (blockIds : List String) (state : Scanning) (line : List Char) :
    Effect blockIds state line (scanLine blockIds state line) := by
  rw [scanLine]
  split
  case isTrue silent =>
    have registers : registered line = [] := by simp [registered, silent]
    exact .quiet state.direction registers (boundary?_of_isSilent silent)
  case isFalse spoken =>
    split
    case isTrue declares =>
      have registers : registered line = [] := by simp [registered, declares]
      exact .quiet _ registers (boundary?_of_isDeclaration declares)
    case isFalse undeclared =>
      cases opened : blockOfLine? line with
      | some block =>
          have opens : boundary? line = some (some block) := by rw [boundary?, opened]
          have registers : registered line = [] := by simp [registered, opens]
          exact .opens block registers opens (members_of_blockOfLine? opened)
      | none =>
          dsimp only
          split
          case isTrue closed =>
            have closes : boundary? line = some none := by simp [boundary?, opened, closed]
            have registers : registered line = [] := by simp [registered, closes]
            exact .closes registers closes
          case isFalse unclosed =>
            have inside : boundary? line = none := by simp [boundary?, opened, unclosed]
            have registers : registered line = (bodyVertices line).map Vertex.id := by
              rw [map_id_bodyVertices]
              simp [registered, spoken, undeclared, inside]
            rw [scanBody_eq]
            exact .body registers inside

end Effects

/-! ### Names -/

section Names

variable {line : List Char}

/-- A node that is found in brackets has an id. -/
theorem yields_bracketed (shape : Shape) : Yields (bracketed shape) fun found => found.1 ≠ [] := by
  intro text found left read
  simp only [bracketed, Option.bind_eq_bind, Option.bind_eq_some_iff] at read
  obtain ⟨⟨id, rest⟩, word, _, _, _, _, _, _, made⟩ := read
  have nonempty : id ≠ [] := yields_run1 _ word
  cases made
  exact nonempty

/-- A connector that is found has an id at both ends. -/
theorem yields_connected (connector : Connector) :
    Yields (connected connector) fun found => found.1 ≠ [] ∧ found.2.1 ≠ [] := by
  intro text found left read
  simp only [connected, Option.bind_eq_bind, Option.bind_eq_some_iff] at read
  obtain ⟨⟨source, afterSource⟩, first, ⟨label, afterLink⟩, _, ⟨target, afterTarget⟩, second,
    made⟩ := read
  have nonempty : source ≠ [] ∧ target ≠ [] := ⟨yields_run1 _ first, yields_run1 _ second⟩
  cases made
  exact nonempty

/-- What is declared on a line has an id. -/
theorem named_of_mem_declarations {declaration : Declaration}
    (member : declaration ∈ declarations line) : declaration.id ≠ "" := by
  obtain ⟨-, shape, found⟩ := candidate_of_mem_declarations member
  obtain ⟨site, read, rfl⟩ := List.mem_map.mp found
  exact mt String.ofList_eq_empty_iff.mp ((yields_bracketed shape).of_mem_findAll 0 _ site read)

/-- What is connected on a line has ids. -/
theorem named_of_mem_connections {connection : Connection}
    (member : connection ∈ connections line) :
    connection.source ≠ "" ∧ connection.target ≠ "" := by
  obtain ⟨connector, -, found⟩ := candidate_of_mem_connections member
  obtain ⟨site, read, rfl⟩ := List.mem_map.mp found
  obtain ⟨source, target⟩ := (yields_connected connector).of_mem_findAll 0 _ site read
  exact ⟨mt String.ofList_eq_empty_iff.mp source, mt String.ofList_eq_empty_iff.mp target⟩

/-- Nothing is entered under an empty name. -/
theorem named_of_mem_bodyVertices {vertex : Vertex} (member : vertex ∈ bodyVertices line) :
    vertex.id ≠ "" := by
  rcases List.mem_append.mp member with declared | isEnd
  · obtain ⟨declaration, found, rfl⟩ := List.mem_map.mp declared
    exact named_of_mem_declarations found
  · obtain ⟨arc, drawn, inside⟩ := List.mem_flatMap.mp isEnd
    obtain ⟨connection, found, rfl⟩ := List.mem_map.mp drawn
    obtain ⟨source, target⟩ := named_of_mem_connections found
    rcases List.mem_pair.mp inside with rfl | rfl
    · exact source
    · exact target

/-- The ends of the arcs of a line are entered. -/
theorem mem_bodyVertices {arc : Arc} (member : arc ∈ bodyArcs line) :
    arc.source ∈ (bodyVertices line).map Vertex.id ∧
      arc.target ∈ (bodyVertices line).map Vertex.id := by
  have entered : ∀ vertex ∈ arcEnds arc, vertex.id ∈ (bodyVertices line).map Vertex.id := by
    intro vertex isEnd
    exact List.mem_map_of_mem
      (List.mem_append_right _ (List.mem_flatMap_of_mem member isEnd))
  exact ⟨entered ⟨arc.source, none, none⟩ (by simp [arcEnds]),
    entered ⟨arc.target, none, none⟩ (by simp [arcEnds])⟩

end Names

end Flowchart.Scan
