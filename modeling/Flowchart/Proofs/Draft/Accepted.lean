import Flowchart.Proofs.Draft.Loading

/-!
The sources that can be read strictly, and what is read from them.

A source is accepted exactly if each of its lines can be read, its first statement is a
declaration, the others can be applied one after the other, and no block is left open. Then its
draft is the meaning of its statements.

Main statements: `load_eq_ok_iff`, `load_eq_meaning`.
-/

namespace Flowchart

open Flowchart.Source (isSilent statementsOf)

/-- The loading after further statements, unless one of them is refused. -/
def Loading.run (loading : Loading) : List Statement → Option Loading
  | [] => some loading
  | statement :: statements =>
    match loading.apply 0 statement with
    | .ok next => next.run statements
    | .error _ => none

/-- A line that can be read: it is silent, says nothing, or makes a statement. -/
def Source.Readable (line : List Char) : Prop :=
  isSilent line = true ∨ (Statement.ofLine? line).isSome = true

namespace Loading

variable {loading next after : Loading} {before : List Statement}

/-- Whether a statement is accepted does not depend on the number of its line. -/
theorem apply_ok_congr {m : Nat} {statement : Statement}
    (applied : loading.apply m statement = .ok next) (n : Nat) :
    loading.apply n statement = .ok next := by
  cases statement with
  | header direction => cases applied
  | blockEnd =>
      obtain ⟨closed, outer, opened, rfl⟩ := apply_blockEnd_eq_ok applied
      simp [apply, opened]
  | blockStart | ignored | nodes | edges => exact applied

theorem run_cons_of_ok {n : Nat} {statement : Statement} (statements : List Statement)
    (applied : loading.apply n statement = .ok next) :
    loading.run (statement :: statements) = next.run statements := by
  rw [run, apply_ok_congr applied 0]

theorem run_cons_of_error {n : Nat} {statement : Statement} {cause : ParseError}
    (statements : List Statement) (refused : loading.apply n statement = .error cause) :
    loading.run (statement :: statements) = none := by
  rw [run]
  cases applied : loading.apply 0 statement with
  | error => rfl
  | ok next =>
      rw [apply_ok_congr applied n] at refused
      cases refused

/-- A run of statements leads to the loading that has read them all. -/
theorem run_hasRead (read : loading.HasRead before) {statements : List Statement}
    (ran : loading.run statements = some after) : after.HasRead (before ++ statements) := by
  induction statements generalizing loading before with
  | nil =>
      cases ran
      simpa using read
  | cons statement statements ih =>
      cases applied : loading.apply 0 statement with
      | error cause =>
          rw [run_cons_of_error statements applied] at ran
          cases ran
      | ok next =>
          rw [run_cons_of_ok statements applied] at ran
          have rest := ih (apply_hasRead read applied) ran
          simpa [List.append_assoc] using rest

end Loading

/-! ### Lines -/

section Lines

variable {line : List Char} {lines : List (List Char)} {loading after : Loading}
  {lineNumber : Nat}

/-- A line that starts with anything but a percent sign is taken into account. -/
theorem isSilent_of_ne {c : Char} (other : c ≠ '%') (rest : List Char) :
    isSilent (c :: rest) = false := by
  simp [isSilent, List.isPrefixOf, other.symm]

theorem statementsOf_cons {statement : Statement} (spoken : isSilent line = false)
    (read : Statement.ofLine? line = some (some statement)) :
    statementsOf (line :: lines) = statement :: statementsOf lines := by
  simp [statementsOf, spoken, read]

/-- The statements of two parts of a source are those of the first and then those of the second. -/
theorem statementsOf_append (before after : List (List Char)) :
    statementsOf (before ++ after) = statementsOf before ++ statementsOf after := by
  simp [statementsOf]

/-- A line that cannot be read is refused with its text. -/
theorem loadLine_unread (state : Option Loading) (spoken : isSilent line = false)
    (unread : Statement.ofLine? line = none) :
    Draft.loadLine state lineNumber line =
      .error (.unrecognizedStatement (String.ofList line)) := by
  simp [Draft.loadLine, spoken, unread]

/-- A line that can be read is applied to what has been loaded. -/
theorem loadLine_statement {statement : Statement} (spoken : isSilent line = false)
    (read : Statement.ofLine? line = some (some statement)) :
    Draft.loadLine (some loading) lineNumber line =
      (loading.apply lineNumber statement).map some := by
  simp [Draft.loadLine, spoken, read]

/-- A line leaves everything as it is, or it counts and cannot be read, or it makes a statement. -/
theorem line_cases (line : List Char) :
    (Source.Readable line ∧ (∀ state lineNumber, Draft.loadLine state lineNumber line = .ok state) ∧
        ∀ lines, statementsOf (line :: lines) = statementsOf lines) ∨
      isSilent line = false ∧ (Statement.ofLine? line = none ∨
        ∃ statement, Statement.ofLine? line = some (some statement)) := by
  cases silent : isSilent line with
  | true =>
      exact .inl ⟨.inl silent, by simp [Draft.loadLine, silent], by simp [statementsOf, silent]⟩
  | false =>
      cases read : Statement.ofLine? line with
      | none => exact .inr ⟨rfl, .inl rfl⟩
      | some made =>
          cases made with
          | none =>
              refine .inl ⟨.inr ?_, ?_, ?_⟩
              · simp [read]
              · simp [Draft.loadLine, silent, read]
              · simp [statementsOf, silent, read]
          | some statement => exact .inr ⟨rfl, .inr ⟨statement, rfl⟩⟩

/-- Lines after the declaration are accepted if each can be read and the statements they make can
be applied in order. -/
theorem loadLines_some_eq_ok_iff {final : Option Loading} :
    Draft.loadLines (some loading) lineNumber lines = .ok final ↔
      (∀ line ∈ lines, Source.Readable line) ∧
        ∃ after, loading.run (statementsOf lines) = some after ∧ final = some after := by
  induction lines generalizing loading lineNumber with
  | nil =>
      simp [Draft.loadLines, statementsOf, Loading.run, eq_comm]
  | cons line lines ih =>
      rw [List.forall_mem_cons, Draft.loadLines]
      rcases line_cases line with ⟨readable, loads, adds⟩ | ⟨spoken, unread | ⟨statement, read⟩⟩
      · rw [loads, adds]
        simp [ih, readable]
      · rw [loadLine_unread _ spoken unread]
        simp [Source.Readable, spoken, unread]
      · rw [loadLine_statement spoken read, statementsOf_cons spoken read]
        cases applied : loading.apply lineNumber statement with
        | error cause =>
            rw [Loading.run_cons_of_error _ applied]
            simp [Except.map]
        | ok next =>
            rw [Loading.run_cons_of_ok _ applied]
            simp [Except.map, ih, Source.Readable, read]

/-- Lines from the declaration on are accepted if each can be read, the first statement is the
declaration, and the others can be applied in order. -/
theorem loadLines_none_eq_ok_iff :
    Draft.loadLines none lineNumber lines = .ok (some after) ↔
      (∀ line ∈ lines, Source.Readable line) ∧
        ∃ direction body, statementsOf lines = .header direction :: body ∧
          ({ direction } : Loading).run body = some after := by
  induction lines generalizing lineNumber with
  | nil => simp [Draft.loadLines, statementsOf]
  | cons line lines ih =>
      rw [List.forall_mem_cons, Draft.loadLines]
      rcases line_cases line with ⟨readable, loads, adds⟩ | ⟨spoken, unread | ⟨statement, read⟩⟩
      · rw [loads, adds]
        simp [ih, readable]
      · rw [loadLine_unread _ spoken unread]
        simp [Source.Readable, spoken, unread]
      · rw [statementsOf_cons spoken read]
        cases statement with
        | header direction =>
            simp [Draft.loadLine, spoken, read, loadLines_some_eq_ok_iff, Source.Readable]
        | blockStart | blockEnd | ignored | nodes | edges => simp [Draft.loadLine, spoken, read]

end Lines

/-! ### Sources -/

/-- A source is accepted exactly if its lines can be read, its statements are a declaration and
statements that can be applied in order, and no block is open at the end. -/
theorem load_eq_ok_iff {source : String} {draft : Draft} :
    Draft.load source = .ok draft ↔
      (∀ line ∈ Source.trimmedLines source.toList, Source.Readable line) ∧
        ∃ direction body after, Source.statements source = .header direction :: body ∧
          ({ direction } : Loading).run body = some after ∧ after.openBlocks = [] ∧
            draft = after.toDraft := by
  unfold Draft.load Source.statements
  constructor
  · intro loaded
    split at loaded
    case h_1 state lines =>
      cases state with
      | none => cases loaded
      | some after =>
          obtain ⟨readable, direction, body, first, ran⟩ := loadLines_none_eq_ok_iff.mp lines
          refine ⟨readable, direction, body, after, first, ran, ?_⟩
          cases opened : after.openBlocks with
          | nil => simpa [Draft.finish, opened, eq_comm] using loaded
          | cons innermost outer => simp [Draft.finish, opened] at loaded
    case h_2 cause lines => cases loaded
  · rintro ⟨readable, direction, body, after, first, ran, closed, rfl⟩
    have lines : Draft.loadLines none 1 (Source.trimmedLines source.toList) = .ok (some after) :=
      loadLines_none_eq_ok_iff.mpr ⟨readable, direction, body, first, ran⟩
    rw [lines]
    simp [Draft.finish, closed]

/-- What a loading has read in the end is the meaning of the statements. -/
theorem toDraft_eq_meaning {loading : Loading} {statements : List Statement}
    (read : loading.HasRead statements) : loading.toDraft = Draft.meaning statements := by
  obtain ⟨body, first⟩ := read.declared
  have direction : loading.direction = Meaning.direction statements := by
    rw [first]
    rfl
  have vertices : loading.vertices.values = (Draft.meaning statements).vertices := by
    rw [read.represents.vertices, Meaning.entries, Keyed.values, List.map_map]
    rfl
  rw [Loading.toDraft, direction, vertices, read.represents.arcs, read.represents.blocks]
  rfl

/-- An accepted source has the draft that its statements mean, and each of its lines is silent,
says nothing, or makes one of these statements. -/
theorem load_eq_meaning {source : String} {draft : Draft}
    (loaded : Draft.load source = .ok draft) :
    (∀ line ∈ Source.trimmedLines source.toList, Source.Readable line) ∧
      draft = Draft.meaning (Source.statements source) := by
  obtain ⟨readable, direction, body, after, first, ran, _, rfl⟩ := load_eq_ok_iff.mp loaded
  have read := Loading.run_hasRead (Loading.hasRead_declaration direction) ran
  rw [List.singleton_append, ← first] at read
  exact ⟨readable, toDraft_eq_meaning read⟩

/-- A source with a block inside a block, groups on both ends of a link, and a node that is
declared twice. -/
def nestedSource : String :=
  "graph TB\nsubgraph g\nA[x] & B --> C & D -->|t| E\nsubgraph\nF --> A(y)\nend\nend\nA --> G"

/-- The draft of `nestedSource`. -/
def nestedDraft : Draft where
  direction := some "TB"
  vertices :=
    [⟨"A", some "y", some "round"⟩, ⟨"B", none, none⟩, ⟨"C", none, none⟩, ⟨"D", none, none⟩,
      ⟨"E", none, none⟩, ⟨"F", none, none⟩, ⟨"G", none, none⟩]
  arcs :=
    [{ source := "A", target := "C" }, { source := "A", target := "D" },
      { source := "B", target := "C" }, { source := "B", target := "D" },
      { source := "C", target := "E", text := some "t" },
      { source := "D", target := "E", text := some "t" },
      { source := "F", target := "A" }, { source := "A", target := "G" }]
  blocks :=
    [⟨"g", some "g", ["A", "B", "C", "D", "E"]⟩,
      ⟨"subGraph1", some "subGraph1", ["F", "A"]⟩]

theorem load_eq_meaning_nestedSource :
    Draft.load nestedSource = .ok nestedDraft ∧
      (∀ line ∈ Source.trimmedLines nestedSource.toList, Source.Readable line) ∧
        nestedDraft = Draft.meaning (Source.statements nestedSource) :=
  have loaded : Draft.load nestedSource = .ok nestedDraft := by decide +kernel
  ⟨loaded, load_eq_meaning loaded⟩

end Flowchart
