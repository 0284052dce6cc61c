import Flowchart.Proofs.Draft.Accepted

/-!
Which sources are refused, and where.

A source is accepted exactly if each of its lines can be read and its statements are those of a
whole diagram: one declaration, in front, and as many `end` statements as blocks, never more of
them so far. Any other source is refused at the first line that is out of order, or after the last
one.

Main statement: `load_iff_wellStructured`.
-/

namespace Flowchart

open Flowchart.Source (isSilent statementsOf Readable)

/-- The lines of a source that readers of diagrams take into account. -/
def Source.spokenLines (source : String) : List (List Char) :=
  (Source.trimmedLines source.toList).filter fun line => !isSilent line

/-! ### Structure of statements -/

namespace Statement

/-- How many blocks statements open. -/
def starts (statements : List Statement) : Nat :=
  (Meaning.openings statements).length

/-- How many blocks statements close. -/
def ends (statements : List Statement) : Nat :=
  statements.count .blockEnd

/-- The statements of a whole diagram. -/
structure WellStructured (statements : List Statement) : Prop where
  /-- The first statement is a declaration. -/
  declared : ∃ direction, statements.head? = some (.header direction)
  /-- No other statement is one. -/
  single : ∀ direction, .header direction ∉ statements.tail
  /-- A block is closed only after it has been opened. -/
  nested : ∀ before, before <+: statements → ends before ≤ starts before
  /-- Every block is closed. -/
  closed : ends statements = starts statements

/-- The statements of the front of a diagram, which may be empty and may leave blocks open. -/
structure Orderly (statements : List Statement) : Prop where
  declared : ∀ statement ∈ statements.head?, ∃ direction, statement = .header direction
  single : ∀ direction, .header direction ∉ statements.tail
  nested : ∀ before, before <+: statements → ends before ≤ starts before

variable {statements : List Statement} {statement : Statement}

theorem starts_append (before after : List Statement) :
    starts (before ++ after) = starts before + starts after := by
  rw [starts, Meaning.openings_append, List.length_append]
  rfl

theorem ends_append (before after : List Statement) :
    ends (before ++ after) = ends before + ends after :=
  List.count_append

theorem wellStructured_iff :
    WellStructured statements ↔
      Orderly statements ∧ statements ≠ [] ∧ ends statements = starts statements := by
  constructor
  · rintro ⟨⟨direction, first⟩, single, nested, closed⟩
    refine ⟨⟨?_, single, nested⟩, ?_, closed⟩
    · intro statement isFirst
      rw [first] at isFirst
      exact ⟨direction, (Option.mem_some.mp isFirst).symm⟩
    · rintro rfl
      cases first
  · rintro ⟨⟨declared, single, nested⟩, nonempty, closed⟩
    refine ⟨?_, single, nested, closed⟩
    obtain ⟨first, rest, rfl⟩ := List.exists_cons_of_ne_nil nonempty
    obtain ⟨direction, rfl⟩ := declared first rfl
    exact ⟨direction, rfl⟩

theorem orderly_nil : Orderly [] where
  declared := by simp
  single := by simp
  nested := by
    intro before front
    rw [List.prefix_nil.mp front]
    exact Nat.le_refl 0

/-- A front of statements in order is in order. -/
theorem Orderly.of_prefix {before : List Statement} (orderly : Orderly statements)
    (front : before <+: statements) : Orderly before where
  declared := by
    obtain ⟨rest, rfl⟩ := front
    cases before with
    | nil => simp
    | cons first before => exact orderly.declared
  single := by
    obtain ⟨rest, rfl⟩ := front
    intro direction member
    cases before with
    | nil => cases member
    | cons first before => exact orderly.single direction (List.mem_append_left rest member)
  nested := fun earlier shorter => orderly.nested earlier (shorter.trans front)

/-- What one more statement needs: the first one is a declaration, a later one is none, and an
`end` has a block to close. -/
theorem orderly_append_iff :
    Orderly (statements ++ [statement]) ↔
      Orderly statements ∧ ((∃ direction, statement = .header direction) ↔ statements = []) ∧
        ends (statements ++ [statement]) ≤ starts (statements ++ [statement]) := by
  constructor
  · intro orderly
    refine ⟨orderly.of_prefix (List.prefix_append _ _), ?_, orderly.nested _ List.prefix_rfl⟩
    cases statements with
    | nil => simpa using orderly.declared statement rfl
    | cons first statements =>
        constructor
        · rintro ⟨direction, rfl⟩
          exact absurd (List.mem_append_right _ (by simp)) (orderly.single direction)
        · intro empty
          cases empty
  · rintro ⟨orderly, declares, level⟩
    refine ⟨?_, ?_, ?_⟩
    · cases statements with
      | nil =>
          intro first isFirst
          obtain ⟨direction, same⟩ := declares.mpr rfl
          exact ⟨direction, (Option.mem_some.mp isFirst).symm.trans same⟩
      | cons first statements => exact orderly.declared
    · intro direction member
      cases statements with
      | nil => cases member
      | cons first statements =>
          rcases List.mem_append.mp member with earlier | isLast
          · exact orderly.single direction earlier
          · have declared := declares.mp ⟨direction, (List.mem_singleton.mp isLast).symm⟩
            cases declared
    · intro before front
      rcases List.prefix_concat_iff.mp front with rfl | shorter
      · exact level
      · exact orderly.nested before shorter

end Statement

open Statement (starts ends Orderly WellStructured)

/-! ### Lines out of order -/

/-- Lines with which a diagram may begin. -/
structure Source.InOrder (lines : List (List Char)) : Prop where
  readable : ∀ line ∈ lines, Readable line
  orderly : Orderly (statementsOf lines)

/-- Why a line is refused that stands after others. -/
inductive Source.Refusal (before : List (List Char)) (line : List Char) : ParseError → Prop
  /-- The line makes no statement. -/
  | unreadable (spoken : isSilent line = false) (unread : Statement.ofLine? line = none) :
    Refusal before line (.unrecognizedStatement (String.ofList line))
  /-- The line makes the first statement, which is no declaration. -/
  | undeclared (statement : Statement) (makes : statementsOf [line] = [statement])
    (first : statementsOf before = []) (other : ∀ direction, statement ≠ .header direction) :
    Refusal before line (.missingDeclaration (before.length + 1) (String.ofList line))
  /-- The line makes a further declaration. -/
  | declaredAgain (direction : Option String) (makes : statementsOf [line] = [.header direction])
    (later : statementsOf before ≠ []) :
    Refusal before line (.duplicateDeclaration (before.length + 1))
  /-- The line closes a block, and none is open. -/
  | unmatched (makes : statementsOf [line] = [.blockEnd]) (later : statementsOf before ≠ [])
    (level : ends (statementsOf before) = starts (statementsOf before)) :
    Refusal before line (.unmatchedEnd (before.length + 1))

/-- Why lines are refused: at the first line that is out of order, or after the last line. -/
inductive Source.Refused (lines : List (List Char)) : ParseError → Prop
  | atLine (before : List (List Char)) (line : List Char) (after : List (List Char))
    (cause : ParseError) (split : lines = before ++ line :: after) (sound : InOrder before)
    (refusal : Refusal before line cause) : Refused lines cause
  /-- No line makes a statement. -/
  | empty (sound : InOrder lines) (silent : statementsOf lines = []) :
    Refused lines .emptyDiagram
  /-- A block is left open; the innermost one is named. -/
  | unclosed (sound : InOrder lines)
    (more : ends (statementsOf lines) < starts (statementsOf lines))
    (number : Nat) (innermost : Meaning.innermost (statementsOf lines) = some number)
    (block : Block) (found : (Draft.meaning (statementsOf lines)).blocks[number]? = some block) :
    Refused lines (.unclosedBlock block.id)

section Lines

variable {before lines : List (List Char)} {line : List Char} {cause : ParseError}
  {statement : Statement}

theorem Source.InOrder.of_append {after : List (List Char)}
    (sound : Source.InOrder (before ++ after)) : Source.InOrder before where
  readable := fun line member => sound.readable line (List.mem_append_left after member)
  orderly := by
    have whole := sound.orderly
    rw [statementsOf_append] at whole
    exact whole.of_prefix (List.prefix_append _ _)

/-- A line that can be read keeps lines in order if it makes no statement, or one that fits. -/
theorem Source.InOrder.append_line (sound : Source.InOrder before) (readable : Readable line)
    (fits : Orderly (statementsOf before ++ statementsOf [line])) :
    Source.InOrder (before ++ [line]) where
  readable := by
    intro other member
    rcases List.mem_append.mp member with earlier | isLast
    · exact sound.readable other earlier
    · exact List.mem_singleton.mp isLast ▸ readable
  orderly := by
    rw [statementsOf_append]
    exact fits

/-- A line that is refused is out of order. -/
theorem Source.Refusal.not_inOrder (refusal : Source.Refusal before line cause) :
    ¬ Source.InOrder (before ++ [line]) := by
  intro sound
  have fits := sound.orderly
  rw [statementsOf_append] at fits
  cases refusal with
  | unreadable spoken unread =>
      rcases sound.readable line (List.mem_append_right before (by simp)) with silent | read
      · rw [spoken] at silent
        cases silent
      · rw [unread] at read
        cases read
  | undeclared statement makes first other =>
      rw [makes] at fits
      obtain ⟨direction, same⟩ := (Statement.orderly_append_iff.mp fits).2.1.mpr first
      exact other direction same
  | declaredAgain direction makes later =>
      rw [makes] at fits
      exact later ((Statement.orderly_append_iff.mp fits).2.1.mp ⟨direction, rfl⟩)
  | unmatched makes later level =>
      rw [makes] at fits
      have deeper := (Statement.orderly_append_iff.mp fits).2.2
      rw [Statement.ends_append, Statement.starts_append, level] at deeper
      exact absurd deeper (by simp [ends, starts, Meaning.openings, Statement.opening?])

theorem statementsOf_unread (unread : Statement.ofLine? line = none) :
    statementsOf [line] = [] := by
  cases silent : isSilent line <;> simp [statementsOf, silent, unread]

/-- A line is refused for one cause only. -/
theorem Source.Refusal.unique {other : ParseError} (left : Source.Refusal before line cause)
    (right : Source.Refusal before line other) : cause = other := by
  cases left with
  | unreadable spoken unread =>
      cases right with
      | unreadable => rfl
      | undeclared _ makes | declaredAgain _ makes | unmatched makes =>
          rw [statementsOf_unread unread] at makes
          cases makes
  | undeclared statement makes first different =>
      cases right with
      | unreadable spoken unread =>
          rw [statementsOf_unread unread] at makes
          cases makes
      | undeclared => rfl
      | declaredAgain _ _ later | unmatched _ later => exact absurd first later
  | declaredAgain direction makes later =>
      cases right with
      | unreadable spoken unread =>
          rw [statementsOf_unread unread] at makes
          cases makes
      | undeclared _ _ first => exact absurd first later
      | declaredAgain => rfl
      | unmatched closes =>
          rw [makes] at closes
          cases closes
  | unmatched closes later level =>
      cases right with
      | unreadable spoken unread =>
          rw [statementsOf_unread unread] at closes
          cases closes
      | undeclared _ _ first => exact absurd first later
      | declaredAgain _ makes =>
          rw [makes] at closes
          cases closes
      | unmatched => rfl

/-! ### Reading lines -/

/-- A statement after the declaration moves the number of open blocks by what it opens and
closes. -/
theorem Loading.apply_level {loading next : Loading} {lineNumber : Nat}
    (applied : loading.apply lineNumber statement = .ok next) :
    next.openBlocks.length + ends [statement] = loading.openBlocks.length + starts [statement] := by
  cases statement with
  | header direction => cases applied
  | blockStart id title =>
      cases applied
      rfl
  | blockEnd =>
      obtain ⟨closed, outer, opened, rfl⟩ := apply_blockEnd_eq_ok applied
      rw [opened]
      rfl
  | ignored =>
      cases applied
      rfl
  | nodes refs =>
      cases applied
      simp [ends, starts, Meaning.openings, Statement.opening?]
  | edges first hops =>
      cases applied
      simp [ends, starts, Meaning.openings, Statement.opening?]

/-- The statements that are refused after the declaration. -/
theorem Loading.apply_eq_error {loading : Loading} {lineNumber : Nat}
    (refused : loading.apply lineNumber statement = .error cause) :
    (∃ direction, statement = .header direction ∧ cause = .duplicateDeclaration lineNumber) ∨
      statement = .blockEnd ∧ loading.openBlocks = [] ∧ cause = .unmatchedEnd lineNumber := by
  cases statement with
  | header direction =>
      cases refused
      exact Or.inl ⟨direction, rfl, rfl⟩
  | blockEnd =>
      cases opened : loading.openBlocks with
      | nil =>
          simp only [apply, opened, Except.error.injEq] at refused
          exact Or.inr ⟨rfl, rfl, refused.symm⟩
      | cons closed outer => simp [apply, opened] at refused
  | blockStart | ignored | nodes | edges => cases refused

/-- What has been read of lines in order: nothing before the declaration, and then their
statements, with as many blocks open as are not closed. -/
structure Source.Reached (before : List (List Char)) (state : Option Loading) : Prop where
  sound : Source.InOrder before
  waiting : state = none ↔ statementsOf before = []
  read : ∀ loading ∈ state, loading.HasRead (statementsOf before)
  level : ∀ loading ∈ state,
    loading.openBlocks.length + ends (statementsOf before) = starts (statementsOf before)

theorem Source.reached_nil : Source.Reached [] none where
  sound := ⟨by simp, Statement.orderly_nil⟩
  waiting := by simp [statementsOf]
  read := by simp
  level := by simp

namespace Source.Reached

variable {state : Option Loading}

/-- A line that makes no statement changes nothing. -/
theorem append_nothing (reached : Source.Reached before state) (readable : Readable line)
    (nothing : statementsOf [line] = []) : Source.Reached (before ++ [line]) state := by
  have same : statementsOf (before ++ [line]) = statementsOf before := by
    rw [statementsOf_append, nothing, List.append_nil]
  have fits : Orderly (statementsOf before ++ statementsOf [line]) := by
    rw [nothing, List.append_nil]
    exact reached.sound.orderly
  refine ⟨reached.sound.append_line readable fits, ?_, ?_, ?_⟩
  · rw [same]
    exact reached.waiting
  · rw [same]
    exact reached.read
  · rw [same]
    exact reached.level

/-- The declaration. -/
theorem append_declaration (reached : Source.Reached before none) (readable : Readable line)
    {direction : Option String} (makes : statementsOf [line] = [.header direction]) :
    Source.Reached (before ++ [line]) (some { direction }) := by
  have first := reached.waiting.mp rfl
  have read : statementsOf (before ++ [line]) = [.header direction] := by
    rw [statementsOf_append, first, makes]
    rfl
  have fits : Orderly (statementsOf before ++ statementsOf [line]) := by
    rw [first, makes]
    refine Statement.orderly_append_iff.mpr ⟨Statement.orderly_nil, by simp, ?_⟩
    simp [ends]
  refine ⟨reached.sound.append_line readable fits, by simp [read], ?_, ?_⟩
  · rintro loading ⟨⟩
    rw [read]
    exact Loading.hasRead_declaration direction
  · rintro loading ⟨⟩
    rw [read]
    rfl

/-- A statement that is accepted after the declaration. -/
theorem append_statement {loading next : Loading} {lineNumber : Nat}
    (reached : Source.Reached before (some loading)) (readable : Readable line)
    (makes : statementsOf [line] = [statement])
    (applied : loading.apply lineNumber statement = .ok next) :
    Source.Reached (before ++ [line]) (some next) := by
  have later : statementsOf before ≠ [] := fun first => by
    cases reached.waiting.mpr first
  have read : statementsOf (before ++ [line]) = statementsOf before ++ [statement] := by
    rw [statementsOf_append, makes]
  have level : next.openBlocks.length + ends (statementsOf before ++ [statement]) =
      starts (statementsOf before ++ [statement]) := by
    have whole := reached.level loading rfl
    have step := Loading.apply_level applied
    rw [Statement.ends_append, Statement.starts_append]
    omega
  have fits : Orderly (statementsOf before ++ statementsOf [line]) := by
    rw [makes]
    refine Statement.orderly_append_iff.mpr ⟨reached.sound.orderly, ?_, by omega⟩
    refine ⟨?_, fun first => absurd first later⟩
    rintro ⟨direction, rfl⟩
    cases applied
  refine ⟨reached.sound.append_line readable fits, by simp [read], ?_, ?_⟩
  · rintro loading ⟨⟩
    rw [read]
    exact Loading.apply_hasRead (reached.read _ rfl) applied
  · rintro loading ⟨⟩
    rw [read]
    exact level

/-- A statement is either accepted or refused. -/
theorem next_or_refusal_of_statement (reached : Source.Reached before state)
    (spoken : isSilent line = false) (read : Statement.ofLine? line = some (some statement)) :
    (∃ next, Draft.loadLine state (before.length + 1) line = .ok next ∧
      Source.Reached (before ++ [line]) next) ∨
      ∃ cause, Draft.loadLine state (before.length + 1) line = .error cause ∧
        Source.Refusal before line cause := by
  have makes : statementsOf [line] = [statement] := statementsOf_cons spoken read
  have readable : Readable line := Or.inr (by rw [read]; rfl)
  cases state with
  | none =>
      by_cases declares : ∃ direction, statement = .header direction
      · obtain ⟨direction, rfl⟩ := declares
        refine Or.inl ⟨some { direction }, ?_, reached.append_declaration readable makes⟩
        simp [Draft.loadLine, spoken, read]
      · have other : ∀ direction, statement ≠ .header direction :=
          fun direction same => declares ⟨direction, same⟩
        refine Or.inr ⟨_, ?_, .undeclared statement makes (reached.waiting.mp rfl) other⟩
        cases statement with
        | header direction => exact absurd rfl (other direction)
        | blockStart | blockEnd | ignored | nodes | edges => simp [Draft.loadLine, spoken, read]
  | some loading =>
      have later : statementsOf before ≠ [] := fun first => by
        cases reached.waiting.mpr first
      cases applied : loading.apply (before.length + 1) statement with
      | ok next =>
          refine Or.inl ⟨some next, ?_, reached.append_statement readable makes applied⟩
          rw [loadLine_statement spoken read, applied]
          rfl
      | error cause =>
          refine Or.inr ⟨cause, by rw [loadLine_statement spoken read, applied]; rfl, ?_⟩
          rcases Loading.apply_eq_error applied with ⟨direction, rfl, rfl⟩ | ⟨rfl, none, rfl⟩
          · exact .declaredAgain direction makes later
          · have level := reached.level loading rfl
            rw [none, List.length_nil, Nat.zero_add] at level
            exact .unmatched makes later level

/-- A line is either in order or refused. -/
theorem next_or_refusal (reached : Source.Reached before state) (line : List Char) :
    (∃ next, Draft.loadLine state (before.length + 1) line = .ok next ∧
      Source.Reached (before ++ [line]) next) ∨
      ∃ cause, Draft.loadLine state (before.length + 1) line = .error cause ∧
        Source.Refusal before line cause := by
  rcases line_cases line with ⟨readable, loads, adds⟩ | ⟨spoken, unread | ⟨statement, read⟩⟩
  · exact Or.inl ⟨state, loads _ _, reached.append_nothing readable (adds [])⟩
  · exact Or.inr ⟨_, loadLine_unread state spoken unread, .unreadable spoken unread⟩
  · exact reached.next_or_refusal_of_statement spoken read

/-- Lines that are in order are read to their end. -/
theorem loadLines_of_inOrder (reached : Source.Reached before state)
    (sound : Source.InOrder (before ++ lines)) :
    ∃ final, Draft.loadLines state (before.length + 1) lines = .ok final ∧
      Source.Reached (before ++ lines) final := by
  induction lines generalizing before state with
  | nil =>
      rw [List.append_nil]
      exact ⟨state, rfl, reached⟩
  | cons line lines ih =>
      rw [List.append_cons] at sound ⊢
      rcases reached.next_or_refusal line with ⟨next, read, further⟩ | ⟨cause, _, refusal⟩
      · obtain ⟨final, rest, whole⟩ := ih further sound
        rw [List.length_append, List.length_singleton] at rest
        exact ⟨final, by rw [Draft.loadLines, read]; exact rest, whole⟩
      · exact absurd sound.of_append refusal.not_inOrder

/-- Lines are refused at the first one that is out of order. -/
theorem loadLines_of_refusal (reached : Source.Reached before state) {front : List (List Char)}
    (sound : Source.InOrder (before ++ front))
    (refusal : Source.Refusal (before ++ front) line cause) (after : List (List Char)) :
    Draft.loadLines state (before.length + 1) (front ++ line :: after) = .error cause := by
  induction front generalizing before state with
  | nil =>
      rw [List.append_nil] at refusal
      rcases reached.next_or_refusal line with ⟨next, _, further⟩ | ⟨other, refused, isRefusal⟩
      · exact absurd further.sound refusal.not_inOrder
      · rw [List.nil_append, Draft.loadLines, refused, isRefusal.unique refusal]
  | cons first front ih =>
      rw [List.append_cons] at sound refusal
      rcases reached.next_or_refusal first with ⟨next, read, further⟩ | ⟨other, _, isRefusal⟩
      · have rest := ih further sound refusal
        rw [List.length_append, List.length_singleton] at rest
        rw [List.cons_append, Draft.loadLines, read]
        exact rest
      · exact absurd sound.of_append isRefusal.not_inOrder

/-- Lines that are not in order have a first one that is refused. -/
theorem exists_refusal (reached : Source.Reached before state)
    (disorder : ¬ Source.InOrder (before ++ lines)) :
    ∃ front line after cause, lines = front ++ line :: after ∧
      Source.InOrder (before ++ front) ∧ Source.Refusal (before ++ front) line cause := by
  induction lines generalizing before state with
  | nil =>
      rw [List.append_nil] at disorder
      exact absurd reached.sound disorder
  | cons line lines ih =>
      rcases reached.next_or_refusal line with ⟨next, _, further⟩ | ⟨cause, _, refusal⟩
      · rw [List.append_cons] at disorder
        obtain ⟨front, refused, after, cause, rfl, sound, refusal⟩ := ih further disorder
        rw [List.append_assoc, List.singleton_append] at sound refusal
        exact ⟨line :: front, refused, after, cause, rfl, sound, refusal⟩
      · refine ⟨[], line, lines, cause, rfl, ?_, ?_⟩
        · rw [List.append_nil]
          exact reached.sound
        · rw [List.append_nil]
          exact refusal

/-- A diagram that is read to its end is accepted if it is well structured. -/
theorem finish_eq_ok (reached : Source.Reached lines state)
    (whole : WellStructured (statementsOf lines)) : ∃ draft, Draft.finish state = .ok draft := by
  cases state with
  | none =>
      obtain ⟨direction, first⟩ := whole.declared
      rw [reached.waiting.mp rfl] at first
      cases first
  | some loading =>
      have level := reached.level loading rfl
      have none : loading.openBlocks = [] := by
        rw [whole.closed] at level
        exact List.eq_nil_of_length_eq_zero (by omega)
      exact ⟨loading.toDraft, by simp [Draft.finish, none]⟩

/-- A diagram that is read to its end is well structured, or refused for what is missing. -/
theorem wellStructured_or_refused (reached : Source.Reached lines state) :
    WellStructured (statementsOf lines) ∨ ∃ cause, Source.Refused lines cause := by
  cases state with
  | none =>
      have silent := reached.waiting.mp rfl
      exact Or.inr ⟨_, .empty reached.sound silent⟩
  | some loading =>
      have read := reached.read loading rfl
      have level := reached.level loading rfl
      have spoken : statementsOf lines ≠ [] := fun silent => by
        cases reached.waiting.mpr silent
      cases opened : loading.openBlocks with
      | nil =>
          rw [opened, List.length_nil, Nat.zero_add] at level
          exact Or.inl (Statement.wellStructured_iff.mpr ⟨reached.sound.orderly, spoken, level⟩)
      | cons number outer =>
          have innermost : Meaning.innermost (statementsOf lines) = some number := by
            rw [← read.head?_openBlocks, opened]
            rfl
          have inside : number < loading.blocks.length := by
            rw [read.length_blocks]
            exact Meaning.innermost_lt innermost
          have found : (Draft.meaning (statementsOf lines)).blocks[number]? =
              some loading.blocks[number] := by
            rw [← toDraft_eq_meaning read]
            exact List.getElem?_eq_getElem inside
          rw [opened, List.length_cons] at level
          exact Or.inr ⟨_, .unclosed reached.sound (by omega) number innermost _ found⟩

/-- A diagram that is read to its end and refused is refused there. -/
theorem finish_eq_error (reached : Source.Reached lines state)
    (refused : Source.Refused lines cause) : Draft.finish state = .error cause := by
  cases refused with
  | atLine front line after _ split _ refusal =>
      have sound := reached.sound
      rw [split, List.append_cons] at sound
      exact absurd sound.of_append refusal.not_inOrder
  | empty _ silent =>
      rw [reached.waiting.mpr silent]
      rfl
  | unclosed _ more number innermost block found =>
      cases state with
      | none =>
          rw [reached.waiting.mp rfl] at more
          cases more
      | some loading =>
          have read := reached.read loading rfl
          have first : loading.openBlocks.head? = some number :=
            read.head?_openBlocks.trans innermost
          obtain ⟨outer, opened⟩ := List.head?_eq_some_iff.mp first
          rw [← toDraft_eq_meaning read] at found
          have there : loading.blocks[number]? = some block := found
          simp [Draft.finish, opened, there]

end Source.Reached

/-- Every cause for which lines are refused is reported as a fault of the grammar. -/
theorem Source.Refused.kind (refused : Source.Refused lines cause) :
    cause.toFailure.kind = .grammar := by
  cases refused with
  | atLine front line after cause split _ refusal => cases refusal <;> rfl
  | empty | unclosed => rfl

end Lines

/-! ### Sources -/

theorem inOrder_iff {source : String} :
    Source.InOrder (Source.trimmedLines source.toList) ↔
      (∀ line ∈ Source.spokenLines source,
        ∃ statement, Statement.ofText (String.ofList line) = .ok statement) ∧
        Orderly (Source.statements source) := by
  have accepted : ∀ line, (∃ statement, Statement.ofText (String.ofList line) = .ok statement) ↔
      (Statement.ofLine? line).isSome = true := by
    intro line
    rw [Statement.ofText, String.toList_ofList]
    cases Statement.ofLine? line <;> simp
  have spoken : (∀ line ∈ Source.spokenLines source, (Statement.ofLine? line).isSome = true) ↔
      ∀ line ∈ Source.trimmedLines source.toList, Readable line := by
    refine List.forall_mem_filter.trans (forall₂_congr fun line _ => ?_)
    cases silent : isSilent line <;> simp [Readable, silent]
  constructor
  · rintro ⟨readable, orderly⟩
    exact ⟨fun line member => (accepted line).mpr (spoken.mpr readable line member), orderly⟩
  · rintro ⟨readable, orderly⟩
    exact ⟨spoken.mp fun line member => (accepted line).mp (readable line member), orderly⟩

/-- A source whose lines are in order is read to its end. -/
theorem load_of_inOrder {source : String}
    (sound : Source.InOrder (Source.trimmedLines source.toList)) :
    ∃ final, Source.Reached (Source.trimmedLines source.toList) final ∧
      Draft.load source = Draft.finish final := by
  obtain ⟨final, read, reached⟩ := Source.reached_nil.loadLines_of_inOrder sound
  have lines : Draft.loadLines none 1 (Source.trimmedLines source.toList) = .ok final := read
  exact ⟨final, reached, by rw [Draft.load, lines]⟩

theorem load_of_refused {source : String} {cause : ParseError}
    (refused : Source.Refused (Source.trimmedLines source.toList) cause) :
    Draft.load source = .error cause := by
  by_cases sound : Source.InOrder (Source.trimmedLines source.toList)
  · obtain ⟨final, reached, loaded⟩ := load_of_inOrder sound
    rw [loaded, reached.finish_eq_error refused]
  · cases refused with
    | atLine before line after _ split earlier refusal =>
        have lines := Source.reached_nil.loadLines_of_refusal earlier refusal after
        rw [Draft.load, split]
        simp only [List.length_nil, Nat.zero_add] at lines
        rw [lines]
    | empty inOrder | unclosed inOrder => exact absurd inOrder sound

/-- A source is well structured, or it is refused. -/
theorem wellStructured_or_refused (source : String) :
    Source.InOrder (Source.trimmedLines source.toList) ∧
        WellStructured (Source.statements source) ∨
      ∃ cause, Source.Refused (Source.trimmedLines source.toList) cause := by
  by_cases sound : Source.InOrder (Source.trimmedLines source.toList)
  · obtain ⟨final, reached, _⟩ := load_of_inOrder sound
    rcases reached.wellStructured_or_refused with whole | ⟨cause, refused⟩
    · exact Or.inl ⟨sound, whole⟩
    · exact Or.inr ⟨cause, refused⟩
  · obtain ⟨before, line, after, cause, split, earlier, refusal⟩ :=
      Source.reached_nil.exists_refusal sound
    exact Or.inr ⟨cause, .atLine before line after cause split earlier refusal⟩

/-- A source is accepted exactly if each of its lines makes a statement or says nothing, and its
statements are those of a whole diagram. Otherwise it is refused for a fault of the grammar, and
this at its first line that is out of order, or after the last line. -/
theorem load_iff_wellStructured (source : String) :
    ((∃ draft, Draft.load source = .ok draft) ↔
      (∀ line ∈ Source.spokenLines source,
        ∃ statement, Statement.ofText (String.ofList line) = .ok statement) ∧
        WellStructured (Source.statements source)) ∧
      ∀ cause, Draft.load source = .error cause ↔
        Source.Refused (Source.trimmedLines source.toList) cause ∧
          cause.toFailure.kind = .grammar := by
  have accepts : ∀ {draft}, Draft.load source = .ok draft →
      Source.InOrder (Source.trimmedLines source.toList) ∧
        WellStructured (Source.statements source) := by
    intro draft loaded
    rcases wellStructured_or_refused source with whole | ⟨cause, refused⟩
    · exact whole
    · rw [load_of_refused refused] at loaded
      cases loaded
  constructor
  · constructor
    · rintro ⟨draft, loaded⟩
      obtain ⟨sound, whole⟩ := accepts loaded
      exact ⟨(inOrder_iff.mp sound).1, whole⟩
    · rintro ⟨readable, whole⟩
      have orderly := (Statement.wellStructured_iff.mp whole).1
      obtain ⟨final, reached, loaded⟩ := load_of_inOrder (inOrder_iff.mpr ⟨readable, orderly⟩)
      obtain ⟨draft, finished⟩ := reached.finish_eq_ok whole
      exact ⟨draft, loaded.trans finished⟩
  · intro cause
    constructor
    · intro refused
      rcases wellStructured_or_refused source with ⟨sound, whole⟩ | ⟨other, isRefused⟩
      · obtain ⟨final, reached, loaded⟩ := load_of_inOrder sound
        obtain ⟨draft, finished⟩ := reached.finish_eq_ok whole
        rw [loaded, finished] at refused
        cases refused
      · have same := (load_of_refused isRefused).symm.trans refused
        cases same
        exact ⟨isRefused, isRefused.kind⟩
    · rintro ⟨refused, _⟩
      exact load_of_refused refused

end Flowchart
