import Flowchart.Proofs.Statement.Named
import Flowchart.Proofs.Statement.RoundTrip

/-!
Lines about styling and interaction.

Such a line starts with one of a few words, in exactly their spelling, and goes on with any text at
all. Since no other kind of statement starts with one of these words, the rest of the line is looked
at by nothing.

Main definition: `IgnoredText`. Main statement: `ofLine?_eq_ignored_iff`.
-/

namespace Flowchart.Notation

open Flowchart.Text
open Flowchart.Statement (ignoredWords)

/-- A line that starts with an ignored word. What stands after the word is free, but does not make
it a longer word. -/
inductive IgnoredText : List Char → Prop where
  | line {lead rest : List Char} {word : String} :
      Gap lead → word ∈ ignoredWords → Stops isWordChar rest → '\n' ∉ rest →
      IgnoredText (lead ++ (word.toList ++ rest))

end Flowchart.Notation

namespace Flowchart.Statement

open Flowchart.Text Flowchart.Notation
open Flowchart.Source (afterKeyword)

/-! ### Exact words -/

theorem afterExactWord_eq_some {word : String} {text rest : List Char} :
    afterExactWord word text = some rest ↔
      text = word.toList ++ rest ∧ Stops isWordChar rest := by
  rw [afterExactWord, afterKeyword_eq_some, ← afterLiteral_eq, afterLiteral_eq_some]

/-! ### Ignored words -/

section Words

variable {word : String}

/-- The keywords of the other statements are no front of an ignored word, in either way to compare
letters. -/
theorem afterCaseless_ignored (listed : word ∈ ignoredWords) (rest : List Char)
    {keyword : String} (other : keyword ∈ ["flowchart", "graph", "end", "subgraph"]) :
    afterCaseless foldLetter keyword.toList (word.toList ++ rest) = none ∧
      afterCaseless foldLetterDotted keyword.toList (word.toList ++ rest) = none := by
  simp only [ignoredWords, List.mem_cons, List.not_mem_nil, or_false] at listed other
  rcases listed with rfl | rfl | rfl | rfl | rfl | rfl <;>
    rcases other with rfl | rfl | rfl | rfl <;> exact ⟨rfl, rfl⟩

/-- None of these words begins like a comment, a line break or a fence. -/
theorem head_ignored (listed : word ∈ ignoredWords) :
    ∃ c more, word.toList = c :: more ∧ isBlank c = false ∧ c ∉ "%i:/>".toList := by
  simp only [ignoredWords, List.mem_cons, List.not_mem_nil, or_false] at listed
  rcases listed with rfl | rfl | rfl | rfl | rfl | rfl <;>
    exact ⟨_, _, rfl, by decide, by decide⟩

theorem isTrimmed_ignored : ∀ word ∈ ignoredWords, IsTrimmed word.toList := by
  decide

theorem whole_ignored : ∀ word ∈ ignoredWords, '\n' ∉ word.toList := by
  decide

/-- No other kind of statement is read where an ignored word stands. -/
theorem anyStatement_eq_ignoredStatement (listed : word ∈ ignoredWords) (rest : List Char)
    (read : (ignoredStatement (word.toList ++ rest)).isSome = true) :
    anyStatement (word.toList ++ rest) = ignoredStatement (word.toList ++ rest) := by
  obtain ⟨found, ignored⟩ := Option.isSome_iff_exists.mp read
  have keyless : ∀ keyword ∈ ["flowchart", "graph", "end", "subgraph"],
      afterCaselessWord keyword (word.toList ++ rest) = none := by
    intro keyword other
    rw [afterCaselessWord, afterKeyword, (afterCaseless_ignored listed rest other).1]
    rfl
  have header : headerStatement (word.toList ++ rest) = none :=
    headerStatement_of_none (keyless "flowchart" (by simp)) (keyless "graph" (by simp))
  have blockEnd : blockEndStatement (word.toList ++ rest) = none := by
    rw [blockEndStatement, (afterCaseless_ignored listed rest (by simp)).1]
    rfl
  have blockStart : blockStartStatement (word.toList ++ rest) = none :=
    blockStartStatement_of_none (keyless "subgraph" (by simp))
  rw [anyStatement, firstOf_of_none header, firstOf_of_none blockEnd, firstOf_of_none blockStart,
    firstOf_of_some ignored, ignored]

/-- After an ignored word, everything up to the end of the line is passed over. -/
theorem ignoredStatement_ignored (listed : word ∈ ignoredWords) {rest : List Char}
    (stops : Stops isWordChar rest) (whole : '\n' ∉ rest) :
    ignoredStatement (word.toList ++ rest) = some (.ignored, []) := by
  have read : afterExactWord word (word.toList ++ rest) = some rest :=
    afterExactWord_eq_some.mpr ⟨rfl, stops⟩
  have found : (ignoredWords.findSome? fun keyword =>
      afterExactWord keyword (word.toList ++ rest)).isSome = true :=
    List.findSome?_isSome_iff.mpr ⟨word, listed, by rw [read]; rfl⟩
  -- The word that is found may be another one that starts the same way.
  obtain ⟨left, first⟩ := Option.isSome_iff_exists.mp found
  obtain ⟨keyword, _, here⟩ := List.exists_of_findSome?_eq_some first
  have suffix : left <:+ word.toList ++ rest := by
    rw [(afterExactWord_eq_some.mp here).1]
    exact List.suffix_append _ _
  have passed : left.dropWhile (· != '\n') = [] := by
    rw [List.dropWhile_eq_nil_iff]
    intro c member
    have inside := List.mem_append.mp (suffix.subset member)
    rw [bne_iff_ne]
    rintro rfl
    exact inside.elim (whole_ignored word listed) whole
  rw [ignoredStatement, first]
  simp only [Option.bind_eq_bind, Option.bind_some, passed]

end Words

/-! ### Ignored lines -/

/-- A line is ignored exactly if it starts with an ignored word. -/
theorem ofLine?_eq_ignored_iff {line : List Char} :
    ofLine? line = some (some .ignored) ↔ IgnoredText line := by
  constructor
  · intro read
    obtain ⟨left, any, ended⟩ := read_of_ofLine? read
    have ignored := read_of_anyStatement any
    simp only [ignoredStatement, Option.bind_eq_bind, Option.bind_eq_some_iff] at ignored
    obtain ⟨rest, first, made⟩ := ignored
    obtain ⟨word, listed, here⟩ := List.exists_of_findSome?_eq_some first
    obtain ⟨starts, stops⟩ := afterExactWord_eq_some.mp here
    have whole : '\n' ∉ rest := by
      intro member
      rw [← List.takeWhile_append_dropWhile (p := (· != '\n')) (l := rest)] at member
      rcases List.mem_append.mp member with before | after
      · exact absurd (List.mem_takeWhile_imp before) (by decide)
      · cases made
        have ends := mem_of_atLineEnd ended '\n' after
        revert ends
        decide
    have split : line.takeWhile isInlineBlank ++ skipInline line = line :=
      List.takeWhile_append_dropWhile
    rw [← split, starts]
    exact .line (fun c member => List.mem_takeWhile_imp member) listed stops whole
  · intro written
    cases written with
    | @line lead rest word blank listed stops whole =>
        have ignored := ignoredStatement_ignored listed stops whole
        have any := anyStatement_eq_ignoredStatement listed rest (by rw [ignored]; rfl)
        have skipped : skipInline (lead ++ (word.toList ++ rest)) = word.toList ++ rest := by
          obtain ⟨c, more, starts, visible, _⟩ := head_ignored listed
          have inline : isInlineBlank c = false := by
            rw [Bool.eq_false_iff]
            intro gap
            exact absurd (isBlank_of_isInlineBlank gap) (by simp [visible])
          rw [starts]
          exact skipInline_gap blank (stops_cons inline)
        simp only [ofLine?, skipped, any, ignored]
        rfl

theorem whole_ignoredText {line : List Char} (written : IgnoredText line) : '\n' ∉ line := by
  cases written with
  | @line lead rest word blank listed stops whole =>
      rw [List.mem_append, List.mem_append]
      rintro (inLead | inWord | inRest)
      · exact absurd (blank '\n' inLead) (by decide)
      · exact whole_ignored word listed inWord
      · exact whole inRest

/-- Without the blanks around it, an ignored line starts with its word. -/
theorem trim_ignored {line : List Char} (ignored : ofLine? line = some (some .ignored)) :
    ∃ word rest, word ∈ ignoredWords ∧ trim line = word.toList ++ rest ∧
      Stops isWordChar rest ∧ '\n' ∉ rest := by
  cases ofLine?_eq_ignored_iff.mp ignored with
  | @line lead rest word blank listed stops whole =>
      have trimmed := isTrimmed_ignored word listed
      refine ⟨word, trimRight rest, listed, ?_, ?_, ?_⟩
      · have front : trimLeft (lead ++ (word.toList ++ rest)) = word.toList ++ rest :=
          dropWhile_append_stops (isBlank_of_gap blank)
            (stops_append trimmed.nonempty trimmed.first rest)
        rw [trim, front, trimRight_append trimmed.last]
      · intro c first
        obtain ⟨more, starts⟩ := List.head?_eq_some_iff.mp first
        obtain ⟨blanks, split⟩ := trimRight_isPrefix rest
        rw [starts] at split
        exact stops c (by rw [← split]; rfl)
      · intro member
        exact whole ((trimRight_isPrefix rest).subset member)

/-- An ignored line is ignored without the blanks around it as well. -/
theorem ofLine?_trim_ignored {line : List Char} (ignored : ofLine? line = some (some .ignored)) :
    ofLine? (trim line) = some (some .ignored) := by
  obtain ⟨word, rest, listed, trimmed, stops, whole⟩ := trim_ignored ignored
  rw [ofLine?_eq_ignored_iff, trimmed]
  exact @IgnoredText.line [] rest word gap_nil listed stops whole

end Flowchart.Statement
