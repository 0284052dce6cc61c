import Mathlib.Data.List.TakeWhile
import Flowchart.Proofs.Text.Ascii
import Flowchart.Source.Clean

/-!
Reading from the front of a text that begins with something known.

`Stops` says that a run of characters cannot go on into a text. What a recognizer reads from a text
in two parts is then settled by the first part.
-/

namespace Flowchart.Text

/-- A text that does not begin with a character of a class. -/
def Stops (belongs : Char → Bool) (text : List Char) : Prop :=
  ∀ c ∈ text.head?, belongs c = false

section Runs

variable {belongs : Char → Bool} {word rest : List Char}

theorem stops_nil (belongs : Char → Bool) : Stops belongs [] := by
  simp [Stops]

theorem stops_cons {c : Char} (outside : belongs c = false) : Stops belongs (c :: rest) := by
  simp [Stops, outside]

theorem takeWhile_of_stops (stops : Stops belongs rest) : rest.takeWhile belongs = [] := by
  cases rest with
  | nil => rfl
  | cons c rest =>
      have outside : belongs c = false := stops c rfl
      simp [outside]

theorem dropWhile_of_stops (stops : Stops belongs rest) : rest.dropWhile belongs = rest := by
  cases rest with
  | nil => rfl
  | cons c rest =>
      have outside : belongs c = false := stops c rfl
      simp [outside]

theorem stops_dropWhile (belongs : Char → Bool) (text : List Char) :
    Stops belongs (text.dropWhile belongs) := by
  intro c first
  have outside := List.head?_dropWhile_not belongs text
  rw [Option.mem_def.mp first] at outside
  simpa using outside

/-- A run is taken up to where the text stops. -/
theorem takeWhile_append_stops (inside : ∀ c ∈ word, belongs c = true)
    (stops : Stops belongs rest) : (word ++ rest).takeWhile belongs = word := by
  rw [List.takeWhile_append_of_pos inside, takeWhile_of_stops stops, List.append_nil]

/-- A run is dropped up to where the text stops. -/
theorem dropWhile_append_stops (inside : ∀ c ∈ word, belongs c = true)
    (stops : Stops belongs rest) : (word ++ rest).dropWhile belongs = rest := by
  rw [List.dropWhile_append_of_pos inside, dropWhile_of_stops stops]

/-- A run ends where a text goes on with something else. -/
theorem takeWhile_append_of_stops (stops : Stops belongs rest) (text : List Char) :
    (text ++ rest).takeWhile belongs = text.takeWhile belongs := by
  induction text with
  | nil => exact takeWhile_of_stops stops
  | cons c text ih => cases inside : belongs c <;> simp [inside, ih]

/-- Something that stops at once does not take part in a run before it. -/
theorem dropWhile_append_of_stops (stops : Stops belongs rest) (text : List Char) :
    (text ++ rest).dropWhile belongs = text.dropWhile belongs ++ rest := by
  induction text with
  | nil => exact dropWhile_of_stops stops
  | cons c text ih => cases inside : belongs c <;> simp [inside, ih]

/-- A run that ends inside of a text is not changed by what comes behind the text. -/
theorem dropWhile_append_of_ne_nil {text : List Char} (left : text.dropWhile belongs ≠ [])
    (rest : List Char) : (text ++ rest).dropWhile belongs = text.dropWhile belongs ++ rest := by
  rw [List.dropWhile_append, if_neg]
  exact fun empty => left (List.isEmpty_iff.mp empty)

/-- A run reads a whole word of its class and no further. -/
theorem run_append (inside : ∀ c ∈ word, belongs c = true) (stops : Stops belongs rest) :
    run belongs (word ++ rest) = (word, rest) := by
  rw [run, takeWhile_append_stops inside stops, dropWhile_append_stops inside stops]

/-- A run that is not empty is read up to where the text stops. -/
theorem run1_append (nonempty : word ≠ []) (inside : ∀ c ∈ word, belongs c = true)
    (stops : Stops belongs rest) : run1 belongs (word ++ rest) = some (word, rest) := by
  cases word with
  | nil => exact absurd rfl nonempty
  | cons c word =>
      rw [List.cons_append, run1, if_pos (inside c (by simp)), ← List.cons_append,
        run_append inside stops]

theorem run1_of_stops (stops : Stops belongs rest) : run1 belongs rest = none := by
  cases rest with
  | nil => rfl
  | cons c rest =>
      have outside : belongs c = false := stops c rfl
      simp [run1, outside]

/-- A run is read if it is not empty, and goes on as far as it can. -/
theorem run1_eq_some {text : List Char} : run1 belongs text = some (word, rest) ↔
    word ≠ [] ∧ run belongs text = (word, rest) := by
  have empty : ∀ left : List Char, ¬(word ≠ [] ∧ ([], left) = (word, rest)) := by
    rintro left ⟨nonempty, same⟩
    exact nonempty (congrArg Prod.fst same).symm
  cases text with
  | nil => simpa [run1, run] using empty []
  | cons c text =>
      cases inside : belongs c with
      | false => simpa [run1, run, inside] using empty (c :: text)
      | true =>
          simp only [run1, inside, if_true, Option.some.injEq, iff_and_self]
          intro read
          obtain ⟨rfl, -⟩ := Prod.mk.inj read
          simp [inside]

end Runs

/-! ### Blanks inside a statement -/

/-- Spaces and tabs, possibly none. -/
def Gap (text : List Char) : Prop :=
  ∀ c ∈ text, isInlineBlank c = true

instance (text : List Char) : Decidable (Gap text) :=
  decidable_of_iff (text.all isInlineBlank = true) List.all_eq_true

theorem gap_nil : Gap [] := by
  simp [Gap]

/-- A gap is skipped together with the blanks behind it. -/
theorem skipInline_append {gap : List Char} (blank : Gap gap) (rest : List Char) :
    skipInline (gap ++ rest) = skipInline rest :=
  List.dropWhile_append_of_pos blank

theorem skipInline_of_stops {rest : List Char} (stops : Stops isInlineBlank rest) :
    skipInline rest = rest :=
  dropWhile_of_stops stops

/-- A gap is skipped up to where the text stops. -/
theorem skipInline_gap {gap rest : List Char} (blank : Gap gap)
    (stops : Stops isInlineBlank rest) : skipInline (gap ++ rest) = rest := by
  rw [skipInline_append blank, skipInline_of_stops stops]

/-! ### Literals -/

@[simp] theorem afterLiteral_append (literal rest : List Char) :
    afterLiteral literal (literal ++ rest) = some rest := by
  induction literal with
  | nil => rfl
  | cons c literal ih => simp [afterLiteral, ih]

/-- What is left after a literal follows it in the text. -/
theorem afterLiteral_eq_some {literal text rest : List Char} :
    afterLiteral literal text = some rest ↔ text = literal ++ rest := by
  induction literal generalizing text with
  | nil => simp [afterLiteral, eq_comm]
  | cons expected literal ih =>
      cases text with
      | nil => simp [afterLiteral]
      | cons c text =>
          by_cases same : c = expected <;> simp [afterLiteral, same, ih]

/-- A literal is not found only where the text does not begin with it. -/
theorem afterLiteral_eq_none {literal text : List Char} :
    afterLiteral literal text = none ↔ ¬literal <+: text := by
  rw [Option.eq_none_iff_forall_not_mem]
  constructor
  · rintro unread ⟨rest, split⟩
    exact unread rest (afterLiteral_eq_some.mpr split.symm)
  · intro other rest read
    exact other ⟨rest, (afterLiteral_eq_some.mp read).symm⟩

/-- Reading a literal is the caseless reading with nothing folded. -/
theorem afterLiteral_eq (literal text : List Char) :
    afterLiteral literal text = afterCaseless id literal text := by
  induction literal generalizing text with
  | nil => cases text <;> rfl
  | cons expected literal ih =>
      cases text with
      | nil => rfl
      | cons c text =>
          rw [afterLiteral, afterCaseless, ih]
          rfl

/-- A literal does not begin before its first character. -/
theorem afterFirst_append {c : Char} {literal front : List Char} (free : c ∉ front)
    (rest : List Char) :
    afterFirst (c :: literal) (front ++ rest) = afterFirst (c :: literal) rest := by
  induction front with
  | nil => rfl
  | cons d front ih =>
      have other : d ≠ c := fun same => free (by simp [same])
      have tail := ih fun member => free (List.mem_cons_of_mem d member)
      rw [List.cons_append, afterFirst, afterLiteral, if_neg other, tail]
      rfl

/-! ### Choice -/

section FirstOf

variable {α : Type} {choice : Recognizer α} {others : List (Recognizer α)} {text : List Char}

/-- A choice that fits is taken, whatever the others are. -/
theorem firstOf_of_some {found : α × List Char} (read : choice text = some found) :
    firstOf (choice :: others) text = some found := by
  rw [firstOf, List.findSome?_cons, read]

/-- A choice that does not fit leaves it to the others. -/
theorem firstOf_of_none (refused : choice text = none) :
    firstOf (choice :: others) text = firstOf others text := by
  rw [firstOf, List.findSome?_cons, refused]
  rfl

end FirstOf

/-! ### Repetition -/

section Many

variable {α : Type} {item : Recognizer α} {text rest : List Char}

theorem many_of_none (refused : item text = none) : many item text = ([], text) := by
  rw [many, refused]

theorem many_of_some {value : α} (read : item text = some (value, rest))
    (shorter : rest.length < text.length) :
    many item text = (value :: (many item rest).1, (many item rest).2) := by
  rw [many, read]
  simp [shorter]

end Many

/-! ### Keywords -/

/-- A word is not found where its first letter is missing. -/
theorem afterCaseless_of_head {fold : Char → Char} {expected : Char} {word line : List Char}
    (differs : ∀ c ∈ line.head?, fold c ≠ expected) :
    afterCaseless fold (expected :: word) line = none := by
  cases line with
  | nil => rfl
  | cons c rest => rw [afterCaseless, if_neg (differs c rfl)]

/-- A literal is found in any case at the front of a text that begins with a spelling of it. -/
theorem afterCaseless_eq_some {fold : Char → Char} {literal text rest : List Char} :
    afterCaseless fold literal text = some rest ↔
      ∃ word, text = word ++ rest ∧ word.map fold = literal := by
  constructor
  · intro read
    induction literal generalizing text with
    | nil => exact ⟨[], by simpa [afterCaseless] using read, rfl⟩
    | cons letter literal ih =>
        cases text with
        | nil => cases read
        | cons c text =>
            by_cases same : fold c = letter
            · obtain ⟨word, rfl, folded⟩ := ih (by simpa [afterCaseless, same] using read)
              exact ⟨c :: word, rfl, by simp [same, folded]⟩
            · simp [afterCaseless, same] at read
  · rintro ⟨word, rfl, rfl⟩
    induction word with
    | nil => rfl
    | cons c word ih => simpa [afterCaseless] using ih

/-- A keyword is found where it is read and no longer word stands. -/
theorem afterKeyword_eq_some {belongs : Char → Bool} {fold : Char → Char}
    {keyword text rest : List Char} :
    Source.afterKeyword belongs fold keyword text = some rest ↔
      afterCaseless fold keyword text = some rest ∧ Stops belongs rest := by
  rw [Source.afterKeyword]
  cases read : afterCaseless fold keyword text with
  | none => simp
  | some left =>
      cases left with
      | nil =>
          constructor
          · rintro ⟨⟩
            exact ⟨rfl, stops_nil belongs⟩
          · rintro ⟨⟨⟩, _⟩
            rfl
      | cons c left =>
          cases inside : belongs c with
          | true =>
              simp only [Option.bind_eq_bind, Option.bind_some, inside, if_true]
              constructor
              · intro none
                cases none
              · rintro ⟨⟨⟩, stops⟩
                exact absurd (stops c rfl) (by simp [inside])
          | false =>
              simp only [Option.bind_eq_bind, Option.bind_some, inside]
              constructor
              · rintro ⟨⟩
                exact ⟨rfl, stops_cons inside⟩
              · rintro ⟨⟨⟩, _⟩
                rfl

/-- A keyword is not found where another word stands: `word` is the whole word at the front, and
no letter of the keyword can be read from what follows it. -/
theorem afterKeyword_of_ne {isWord : Char → Bool} {fold : Char → Char}
    {keyword word rest : List Char} (inside : ∀ c ∈ word, isWord c = true)
    (stops : Stops isWord rest) (foreign : ∀ c ∈ rest.head?, fold c ∉ keyword)
    (differs : word.map fold ≠ keyword) :
    Source.afterKeyword isWord fold keyword (word ++ rest) = none := by
  induction keyword generalizing word with
  | nil =>
      cases word with
      | nil => exact absurd rfl differs
      | cons c word =>
          simp [Source.afterKeyword, afterCaseless, inside c (by simp)]
  | cons letter keyword ih =>
      cases word with
      | nil =>
          cases rest with
          | nil => rfl
          | cons c rest =>
              have other : fold c ≠ letter := by
                intro same
                exact foreign c rfl (by simp [same])
              simp [Source.afterKeyword, afterCaseless, other]
      | cons c word =>
          by_cases same : fold c = letter
          · have tail := @ih word (fun d member => inside d (List.mem_cons_of_mem _ member))
              (fun d first member => foreign d first (List.mem_cons_of_mem _ member))
              (fun equal => differs (by simp [same, equal]))
            simpa [Source.afterKeyword, afterCaseless, same] using tail
          · simp [Source.afterKeyword, afterCaseless, same]

/-! ### What is left -/

section Left

variable {fold : Char → Char} {literal text after : List Char}

theorem afterLiteral_isSuffix (read : afterLiteral literal text = some after) : after <:+ text :=
  ⟨literal, (afterLiteral_eq_some.mp read).symm⟩

theorem run1_isSuffix {belongs : Char → Bool} {word rest : List Char}
    (read : run1 belongs text = some (word, rest)) : rest <:+ text := by
  have same : text.dropWhile belongs = rest := congrArg Prod.snd (run1_eq_some.mp read).2
  exact same ▸ List.dropWhile_suffix belongs

/-- Where a literal is found, the text in front of it, the literal and the rest make up the text. -/
theorem afterFirst_split (read : afterFirst literal text = some after) :
    ∃ front, text = front ++ (literal ++ after) := by
  induction text with
  | nil =>
      have split : [] = literal ++ after := afterLiteral_eq_some.mp read
      exact ⟨[], split⟩
  | cons c text ih =>
      rw [afterFirst] at read
      cases here : afterLiteral literal (c :: text) with
      | some left =>
          rw [here] at read
          cases read
          have split := afterLiteral_eq_some.mp here
          exact ⟨[], split⟩
      | none =>
          rw [here] at read
          obtain ⟨front, split⟩ := ih read
          exact ⟨c :: front, congrArg (c :: ·) split⟩

theorem afterFirst_isSuffix (read : afterFirst literal text = some after) : after <:+ text := by
  obtain ⟨front, split⟩ := afterFirst_split read
  exact ⟨front ++ literal, by rw [split, List.append_assoc]⟩

/-- Text put behind a text is put behind what is left of it. -/
theorem afterLiteral_append_right (read : afterLiteral literal text = some after)
    (rest : List Char) : afterLiteral literal (text ++ rest) = some (after ++ rest) := by
  rw [afterLiteral_eq_some.mp read, List.append_assoc, afterLiteral_append]

/-- The first place of a literal does not change with what is put behind the text. -/
theorem afterFirst_append_right (read : afterFirst literal text = some after)
    (rest : List Char) : afterFirst literal (text ++ rest) = some (after ++ rest) := by
  induction text with
  | nil =>
      obtain ⟨rfl, rfl⟩ := List.nil_eq_append_iff.mp (afterLiteral_eq_some.mp read)
      cases rest <;> rfl
  | cons c text ih =>
      rw [afterFirst] at read
      rw [List.cons_append, afterFirst]
      cases here : afterLiteral literal (c :: text) with
      | some left =>
          rw [here] at read
          cases read
          rw [← List.cons_append, afterLiteral_append_right here rest]
          rfl
      | none =>
          rw [here] at read
          -- The literal fits into the text further on, so it does not run over the end here.
          have fits : literal.length ≤ (c :: text).length := by
            obtain ⟨front, split⟩ := afterFirst_split read
            rw [split]
            simp only [List.length_cons, List.length_append]
            omega
          have absent : afterLiteral literal (c :: (text ++ rest)) = none := by
            rw [afterLiteral_eq_none] at here ⊢
            exact fun starts => here
              (List.prefix_of_prefix_length_le starts (List.prefix_append (c :: text) rest) fits)
          rw [absent]
          exact ih read

theorem afterCaseless_isSuffix {expected c : Char}
    (read : afterCaseless fold (expected :: literal) (c :: text) = some after) :
    after <:+ text := by
  obtain ⟨word, split, folded⟩ := afterCaseless_eq_some.mp read
  cases word with
  | nil => cases folded
  | cons d word => exact ⟨word, (List.cons.inj split).2.symm⟩

/-- Reading a literal in any case takes as many characters as it has. -/
theorem length_afterCaseless (read : afterCaseless fold literal text = some after) :
    text.length = literal.length + after.length := by
  obtain ⟨word, rfl, rfl⟩ := afterCaseless_eq_some.mp read
  rw [List.length_append, List.length_map]

end Left

end Flowchart.Text
