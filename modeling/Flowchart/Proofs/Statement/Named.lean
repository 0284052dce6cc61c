import Flowchart.Proofs.Draft.Meaning
import Flowchart.Proofs.Text.Yielding

/-!
Kinds of statements, and the names in them.

Whatever a line looks like, the statement that is read from it is read by the reader of its kind. It
mentions no node and opens no block under an empty name, and declares no direction but the known
ones.

Main statements: `read_of_anyStatement`, `named_of_ofLine?`.
-/

namespace Flowchart.Statement

open Flowchart.Text

/-- A statement in which no name is empty and every direction is known. -/
structure Named (statement : Statement) : Prop where
  mentions : ∀ ref ∈ statement.mentions, ref.id ≠ ""
  opening : ∀ opening ∈ statement.opening?, ∀ id ∈ opening.1, id ≠ ""
  direction : ∀ word, statement = .header (some word) → word ∈ directionWords

/-! ### Kinds of statements -/

/-- The reader for headers makes nothing but headers. -/
theorem yields_headerStatement_kind :
    Yields headerStatement (∃ direction, · = .header direction) := by
  intro text statement left read
  simp only [headerStatement, Option.bind_eq_bind, Option.bind_eq_some_iff] at read
  obtain ⟨rest, _, made⟩ := read
  split at made <;> (cases made; exact ⟨_, rfl⟩)

theorem yields_blockEndStatement_kind : Yields blockEndStatement (· = .blockEnd) := by
  intro text statement left read
  simp only [blockEndStatement, Option.bind_eq_bind, Option.bind_eq_some_iff] at read
  obtain ⟨rest, _, made⟩ := read
  split at made
  case isTrue => cases made; rfl
  case isFalse => cases made

/-- The reader for the starts of blocks makes nothing but those, whichever of its heads fits. -/
theorem yields_blockStartStatement_kind :
    Yields blockStartStatement (∃ id title, · = .blockStart id title) := by
  intro text statement left read
  simp only [blockStartStatement, Option.bind_eq_bind, Option.bind_eq_some_iff] at read
  obtain ⟨rest, _, made⟩ := read
  split at made <;> (cases made; exact ⟨_, _, rfl⟩)

theorem yields_ignoredStatement_kind : Yields ignoredStatement (· = .ignored) := by
  intro text statement left read
  simp only [ignoredStatement, Option.bind_eq_bind, Option.bind_eq_some_iff] at read
  obtain ⟨rest, _, made⟩ := read
  cases made
  rfl

/-- The reader for chains of links makes nothing but chains. -/
theorem yields_edgesStatement_kind :
    Yields edgesStatement (∃ first hops, · = .edges first hops) := by
  intro text statement left read
  simp only [edgesStatement, Option.bind_eq_bind, Option.bind_eq_some_iff] at read
  obtain ⟨⟨first, rest⟩, _, made⟩ := read
  split at made
  case h_1 => cases made; exact ⟨_, _, rfl⟩
  case h_2 => cases made

theorem yields_nodesStatement_kind : Yields nodesStatement (∃ refs, · = .nodes refs) := by
  intro text statement left read
  simp only [nodesStatement, Option.bind_eq_bind, Option.bind_eq_some_iff] at read
  obtain ⟨⟨refs, rest⟩, _, made⟩ := read
  split at made
  case isTrue => cases made; exact ⟨_, rfl⟩
  case isFalse => cases made

/-- A statement is read by the reader of its kind. -/
theorem read_of_anyStatement {text left : List Char} {statement : Statement}
    (read : anyStatement text = some (statement, left)) :
    match statement with
    | .header _ => headerStatement text = some (statement, left)
    | .blockEnd => blockEndStatement text = some (statement, left)
    | .blockStart _ _ => blockStartStatement text = some (statement, left)
    | .ignored => ignoredStatement text = some (statement, left)
    | .edges _ _ => edgesStatement text = some (statement, left)
    | .nodes _ => nodesStatement text = some (statement, left) := by
  obtain ⟨choice, listed, chosen⟩ := List.exists_of_findSome?_eq_some read
  simp only [List.mem_cons, List.not_mem_nil, or_false] at listed
  rcases listed with rfl | rfl | rfl | rfl | rfl | rfl
  · obtain ⟨direction, rfl⟩ := yields_headerStatement_kind chosen
    exact chosen
  · cases yields_blockEndStatement_kind chosen
    exact chosen
  · obtain ⟨id, title, rfl⟩ := yields_blockStartStatement_kind chosen
    exact chosen
  · cases yields_ignoredStatement_kind chosen
    exact chosen
  · obtain ⟨first, hops, rfl⟩ := yields_edgesStatement_kind chosen
    exact chosen
  · obtain ⟨refs, rfl⟩ := yields_nodesStatement_kind chosen
    exact chosen

/-- The statement of a line is read after its blanks, up to its end. -/
theorem read_of_ofLine? {line : List Char} {statement : Statement}
    (read : ofLine? line = some (some statement)) :
    ∃ left, anyStatement (skipInline line) = some (statement, left) ∧ atLineEnd left = true := by
  rw [ofLine?] at read
  cases any : anyStatement (skipInline line) with
  | none => simp [any] at read
  | some made =>
      obtain ⟨other, left⟩ := made
      simp only [any, Option.ite_none_right_eq_some, Option.some.injEq] at read
      obtain ⟨ended, rfl⟩ := read
      exact ⟨left, rfl, ended⟩

/-! ### Nodes -/

/-- An identifier that has been read is not empty. -/
theorem yields_identifier : Yields identifier (· ≠ "") := by
  intro text id left read
  simp only [identifier, Option.bind_eq_bind, Option.bind_eq_some_iff] at read
  obtain ⟨⟨first, rest⟩, word, joined⟩ := read
  have nonempty : first ≠ [] := yields_run1 _ word
  cases joined
  exact mt String.ofList_eq_empty_iff.mp fun empty => nonempty (List.append_eq_nil_iff.mp empty).1

/-- A node that has been read has an id, with brackets or without. -/
theorem yields_nodeRef : Yields nodeRef fun ref => ref.id ≠ "" := by
  intro text ref left read
  simp only [nodeRef, Option.bind_eq_bind, Option.bind_eq_some_iff] at read
  obtain ⟨⟨id, rest⟩, named, made⟩ := read
  have nonempty : id ≠ "" := yields_identifier named
  cases made
  exact nonempty

theorem yields_furtherRef : Yields furtherRef fun ref => ref.id ≠ "" := by
  intro text ref left read
  simp only [furtherRef, Option.bind_eq_bind, Option.bind_eq_some_iff] at read
  obtain ⟨rest, _, named⟩ := read
  exact yields_nodeRef named

/-- Every node of a group has an id. -/
theorem yields_nodeGroup : Yields nodeGroup fun refs => ∀ ref ∈ refs, ref.id ≠ "" := by
  intro text refs left read
  simp only [nodeGroup, Option.bind_eq_bind, Option.bind_eq_some_iff] at read
  obtain ⟨⟨first, rest⟩, named, made⟩ := read
  cases made
  intro ref member
  rcases List.mem_cons.mp member with rfl | further
  · exact yields_nodeRef named
  · exact yields_furtherRef.of_mem_many rest ref further

/-- Every node that a link leads to has an id. -/
theorem yields_hop : Yields hop fun hop => ∀ ref ∈ hop.targets, ref.id ≠ "" := by
  intro text hop left read
  simp only [Statement.hop, Option.bind_eq_bind, Option.bind_eq_some_iff] at read
  obtain ⟨⟨link, rest⟩, _, ⟨targets, after⟩, group, made⟩ := read
  cases made
  exact yields_nodeGroup group

/-! ### Heads of blocks -/

/-- The id before the title of a block, where there is one, is not empty. -/
theorem yields_bracketedHead : Yields bracketedHead fun head => ∀ id ∈ head.1, id ≠ "" := by
  intro text head left read
  simp only [bracketedHead, Option.bind_eq_bind, Option.bind_eq_some_iff] at read
  obtain ⟨⟨id, rest⟩, named, inner, _, closed, _, made⟩ := read
  have nonempty : id ≠ "" := yields_identifier named
  cases made
  simpa using nonempty

theorem yields_namedHead : Yields namedHead fun head => ∀ id ∈ head.1, id ≠ "" := by
  intro text head left read
  simp only [namedHead, Option.bind_eq_bind, Option.bind_eq_some_iff] at read
  obtain ⟨⟨id, rest⟩, named, made⟩ := read
  have nonempty : id ≠ "" := yields_identifier named
  split at made
  · cases made
    simpa using nonempty
  · cases made

theorem yields_quotedHead : Yields quotedHead fun head => ∀ id ∈ head.1, id ≠ "" := by
  intro text head left read
  obtain ⟨title, _, made⟩ := Option.map_eq_some_iff.mp read
  cases made
  simp

/-- A title alone comes without an id. -/
theorem yields_textHead : Yields textHead fun head => ∀ id ∈ head.1, id ≠ "" := by
  intro text head left read
  obtain ⟨title, _, made⟩ := Option.map_eq_some_iff.mp read
  cases made
  simp

/-! ### Statements -/

theorem yields_headerStatement : Yields headerStatement Named := by
  intro text statement left read
  simp only [headerStatement, Option.bind_eq_bind, Option.bind_eq_some_iff] at read
  obtain ⟨rest, _, made⟩ := read
  cases declared : headerDirection rest with
  | none =>
      rw [declared] at made
      cases made
      exact ⟨by simp [mentions], by simp [opening?], by simp⟩
  | some found =>
      obtain ⟨word, after⟩ := found
      rw [declared] at made
      cases made
      simp only [headerDirection, Option.bind_eq_bind, Option.bind_eq_some_iff] at declared
      obtain ⟨_, _, chosen⟩ := declared
      obtain ⟨known, member, same⟩ := List.exists_of_findSome?_eq_some chosen
      obtain ⟨_, _, pair⟩ := Option.map_eq_some_iff.mp same
      cases pair
      refine ⟨by simp [mentions], by simp [opening?], ?_⟩
      rintro other ⟨⟩
      exact member

theorem yields_blockEndStatement : Yields blockEndStatement Named := by
  intro text statement left read
  cases yields_blockEndStatement_kind read
  exact ⟨by simp [mentions], by simp [opening?], by simp⟩

/-- The start of a block gives no empty id: a head without an id has none at all. -/
theorem yields_blockStartStatement : Yields blockStartStatement Named := by
  intro text statement left read
  simp only [blockStartStatement, Option.bind_eq_bind, Option.bind_eq_some_iff] at read
  obtain ⟨rest, _, made⟩ := read
  have heads : Yields (firstOf [bracketedHead, quotedHead, namedHead, textHead])
      fun head => ∀ id ∈ head.1, id ≠ "" := by
    apply yields_firstOf
    simp only [List.mem_cons, List.not_mem_nil, or_false]
    rintro choice (rfl | rfl | rfl | rfl)
    · exact yields_bracketedHead
    · exact yields_quotedHead
    · exact yields_namedHead
    · exact yields_textHead
  split at made
  · rename_i id title after head
    have named := heads head
    cases made
    exact ⟨by simp [mentions], by simpa [opening?] using named, by simp⟩
  · cases made
    exact ⟨by simp [mentions], by simp [opening?], by simp⟩

theorem yields_ignoredStatement : Yields ignoredStatement Named := by
  intro text statement left read
  cases yields_ignoredStatement_kind read
  exact ⟨by simp [mentions], by simp [opening?], by simp⟩

/-- All nodes of a chain of links have ids. -/
theorem yields_edgesStatement : Yields edgesStatement Named := by
  intro text statement left read
  simp only [edgesStatement, Option.bind_eq_bind, Option.bind_eq_some_iff] at read
  obtain ⟨⟨first, rest⟩, group, made⟩ := read
  have hops := yields_hop.of_mem_many rest
  split at made
  · rename_i step steps after walked
    rw [walked] at hops
    cases made
    refine ⟨?_, by simp [opening?], by simp⟩
    intro ref member
    rcases List.mem_append.mp member with source | target
    · exact yields_nodeGroup group ref source
    · obtain ⟨hop, walks, reached⟩ := List.mem_flatMap.mp target
      exact hops hop walks ref reached
  · cases made

/-- All nodes of a line without links have ids. -/
theorem yields_nodesStatement : Yields nodesStatement Named := by
  intro text statement left read
  simp only [nodesStatement, Option.bind_eq_bind, Option.bind_eq_some_iff] at read
  obtain ⟨⟨refs, rest⟩, group, made⟩ := read
  split at made
  · cases made
    exact ⟨yields_nodeGroup group, by simp [opening?], by simp⟩
  · cases made

/-- Whatever statement a line is read as, no id in it is empty. -/
theorem yields_anyStatement : Yields anyStatement Named := by
  apply yields_firstOf
  simp only [List.mem_cons, List.not_mem_nil, or_false]
  rintro choice (rfl | rfl | rfl | rfl | rfl | rfl)
  · exact yields_headerStatement
  · exact yields_blockEndStatement
  · exact yields_blockStartStatement
  · exact yields_ignoredStatement
  · exact yields_edgesStatement
  · exact yields_nodesStatement

/-- The statement of a line has names and a known direction. -/
theorem named_of_ofLine? {line : List Char} {statement : Statement}
    (read : ofLine? line = some (some statement)) : statement.Named := by
  obtain ⟨left, any, -⟩ := read_of_ofLine? read
  exact yields_anyStatement any

end Flowchart.Statement
