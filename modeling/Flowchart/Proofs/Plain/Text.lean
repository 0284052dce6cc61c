import Flowchart.Proofs.Plain.Diagram

/-!
The characters of plain diagrams.

Names and texts are read back wherever they stand, because of the few characters they are made of.
The lines of a plain diagram start and end with something visible and hold no line end, so they are
found again in its source.
-/

namespace Flowchart.Plain

open Flowchart.Text

/-! ### Words -/

theorem isAsciiWord_of_isAlphanum {c : Char} (alphanumeric : c.isAlphanum = true) :
    isAsciiWord c = true := by
  simp [isAsciiWord, alphanumeric]

/-- Letters and digits of ASCII make a word. -/
theorem isWord_of_isAlphanum {word : List Char} (nonempty : word ≠ [])
    (alphanumeric : ∀ c ∈ word, c.isAlphanum = true) : Notation.IsWord word :=
  ⟨nonempty, fun c member => isAsciiWord_of_isAlphanum (alphanumeric c member)⟩

/-- ASCII words, joined by single spaces or single hyphens. -/
inductive AreWords : List Char → Prop where
  | word {word : List Char} : Notation.IsWord word → AreWords word
  | joined {word rest : List Char} {mark : Char} : Notation.IsWord word →
      mark = ' ' ∨ mark = '-' → AreWords rest → AreWords (word ++ mark :: rest)

theorem exists_last {text : List Char} (nonempty : text ≠ [])
    (visible : isBlank (text.getLast nonempty) = false) :
    ∃ front c, text = front ++ [c] ∧ isBlank c = false :=
  ⟨text.dropLast, text.getLast nonempty, (List.dropLast_concat_getLast nonempty).symm, visible⟩

theorem isTrimmed_of_ends {text front rest : List Char} {first last : Char}
    (starts : text = first :: rest) (firstVisible : isBlank first = false)
    (ends : text = front ++ [last]) (lastVisible : isBlank last = false) : IsTrimmed text where
  nonempty := by
    rw [starts]
    exact List.cons_ne_nil _ _
  first := by
    rw [starts]
    exact stops_cons firstVisible
  last := by
    rw [ends, List.reverse_append]
    exact stops_cons lastVisible

namespace AreWords

variable {text : List Char}

/-- Words in a row hold nothing but the characters of words, blanks and hyphens. -/
theorem chars (areWords : AreWords text) :
    ∀ c ∈ text, isAsciiWord c = true ∨ c = ' ' ∨ c = '-' := by
  induction areWords with
  | word isWord => exact fun c member => Or.inl (isWord.ascii c member)
  | joined isWord isMark _ ih =>
      intro c member
      rcases List.mem_append.mp member with inWord | later
      · exact Or.inl (isWord.ascii c inWord)
      · rcases List.mem_cons.mp later with rfl | inRest
        · exact Or.inr isMark
        · exact ih c inRest

theorem head (areWords : AreWords text) : ∃ c rest, text = c :: rest ∧ isAsciiWord c = true := by
  have start : ∀ {word : List Char} (tail : List Char), Notation.IsWord word →
      ∃ c rest, word ++ tail = c :: rest ∧ isAsciiWord c = true := by
    intro word tail isWord
    obtain ⟨c, word, rfl⟩ := List.exists_cons_of_ne_nil isWord.nonempty
    exact ⟨c, word ++ tail, rfl, isWord.ascii c List.mem_cons_self⟩
  cases areWords with
  | word isWord => simpa using start [] isWord
  | joined isWord => exact start _ isWord

theorem last (areWords : AreWords text) :
    ∃ front c, text = front ++ [c] ∧ isAsciiWord c = true := by
  induction areWords with
  | @word word isWord =>
      have split := List.dropLast_concat_getLast isWord.nonempty
      exact ⟨word.dropLast, word.getLast isWord.nonempty, split.symm,
        isWord.ascii _ (List.getLast_mem isWord.nonempty)⟩
  | @joined word rest mark _ _ _ ih =>
      obtain ⟨front, c, rfl, visible⟩ := ih
      exact ⟨word ++ mark :: front, c, by simp, visible⟩

theorem isTrimmed (areWords : AreWords text) : IsTrimmed text := by
  obtain ⟨first, rest, starts, firstWord⟩ := areWords.head
  obtain ⟨front, last, ends, lastWord⟩ := areWords.last
  exact isTrimmed_of_ends starts (isBlank_of_isAsciiWord firstWord) ends
    (isBlank_of_isAsciiWord lastWord)

/-- A mark other than the two that join words does not stand between words. -/
theorem ne_of_mem (areWords : AreWords text) {c mark : Char} (member : c ∈ text)
    (isMark : isMark mark = true) (other : mark ≠ ' ' ∧ mark ≠ '-') : c ≠ mark := by
  rcases areWords.chars c member with word | rfl | rfl
  · exact ne_of_isMark word isMark
  · exact other.1.symm
  · exact other.2.symm

end AreWords

/-- An identifier is a row of words with hyphens between them. -/
theorem areWords_of_isIdentifier {id : List Char} (isIdentifier : Notation.IsIdentifier id) :
    AreWords id := by
  induction isIdentifier with
  | word isWord => exact .word isWord
  | joined isWord _ ih => exact .joined isWord (Or.inr rfl) ih

/-! ### Phrases -/

/-- A phrase is a row of words with blanks between them. -/
theorem IsPhrase.areWords {text : List Char} (isPhrase : IsPhrase text) : AreWords text := by
  induction isPhrase with
  | word nonempty alphanumeric => exact .word (isWord_of_isAlphanum nonempty alphanumeric)
  | joined nonempty alphanumeric _ ih =>
      exact .joined (isWord_of_isAlphanum nonempty alphanumeric) (Or.inl rfl) ih

/-- A phrase holds letters, digits and spaces. -/
theorem IsPhrase.chars {text : List Char} (isPhrase : IsPhrase text) :
    ∀ c ∈ text, isAsciiWord c = true ∨ c = ' ' := by
  induction isPhrase with
  | word _ alphanumeric =>
      intro c member
      exact Or.inl (isAsciiWord_of_isAlphanum (alphanumeric c member))
  | joined _ alphanumeric _ ih =>
      intro c member
      rcases List.mem_append.mp member with member | member
      · exact Or.inl (isAsciiWord_of_isAlphanum (alphanumeric c member))
      · rcases List.mem_cons.mp member with rfl | member
        · exact Or.inr rfl
        · exact ih c member

/-- A phrase starts with a word. -/
theorem IsPhrase.head {text : List Char} (isPhrase : IsPhrase text) :
    ∃ c rest, text = c :: rest ∧ isAsciiWord c = true :=
  isPhrase.areWords.head

theorem IsPhrase.isTrimmed {text : List Char} (isPhrase : IsPhrase text) : IsTrimmed text :=
  isPhrase.areWords.isTrimmed

/-- A mark other than the space does not stand in a phrase. -/
theorem IsPhrase.notMem {text : List Char} (isPhrase : IsPhrase text) {c : Char}
    (mark : isMark c = true) (visible : c ≠ ' ') : c ∉ text := by
  intro member
  rcases isPhrase.chars c member with word | space
  · exact ne_of_isMark word mark rfl
  · exact visible space

/-- The only mark in a phrase is the blank. -/
theorem IsPhrase.ne_of_mem {text : List Char} (isPhrase : IsPhrase text) {c mark : Char}
    (member : c ∈ text) (isMark : isMark mark = true) (visible : mark ≠ ' ') : c ≠ mark := by
  rintro rfl
  exact isPhrase.notMem isMark visible member

theorem Phrase.isEmpty (phrase : Phrase) : (String.ofList phrase.text).isEmpty = false := by
  obtain ⟨c, rest, text, _⟩ := phrase.isPhrase.head
  rw [text]
  simp

/-! ### Lines -/

/-- The characters of the lines of a plain diagram. -/
def isPlain (c : Char) : Bool :=
  isAsciiWord c || " []()\x7b\x7d-=.>|".toList.contains c

/-- A text of plain characters that starts with a word and ends with something visible. -/
structure IsLine (text : List Char) : Prop where
  plain : ∀ c ∈ text, isPlain c = true
  head : ∃ c rest, text = c :: rest ∧ isAsciiWord c = true
  last : ∃ front c, text = front ++ [c] ∧ isBlank c = false

/-- No blanks stand around a line of a plain diagram. -/
theorem IsLine.isTrimmed {text : List Char} (isLine : IsLine text) : IsTrimmed text := by
  obtain ⟨first, rest, starts, word⟩ := isLine.head
  obtain ⟨front, last, ends, visible⟩ := isLine.last
  exact isTrimmed_of_ends starts (isBlank_of_isAsciiWord word) ends visible

/-- A phrase is plain, that is, cleaning and masking leave it alone. -/
theorem isPlain_of_isPhrase {text : List Char} (isPhrase : IsPhrase text) :
    ∀ c ∈ text, isPlain c = true := by
  intro c member
  rcases isPhrase.chars c member with word | rfl
  · simp [isPlain, word]
  · decide

theorem isPlain_of_isWord {word : List Char} (isWord : Notation.IsWord word) :
    ∀ c ∈ word, isPlain c = true := by
  intro c member
  simp [isPlain, isWord.ascii c member]

/-- Plain texts one after the other are plain. -/
theorem forall_append {property : Char → Prop} {left right : List Char}
    (inLeft : ∀ c ∈ left, property c) (inRight : ∀ c ∈ right, property c) :
    ∀ c ∈ left ++ right, property c := by
  intro c member
  rcases List.mem_append.mp member with member | member
  · exact inLeft c member
  · exact inRight c member

theorem isPlain_of_all {text : List Char} (plain : text.all isPlain = true) :
    ∀ c ∈ text, isPlain c = true :=
  List.all_eq_true.mp plain

/-- A text in brackets is plain, and so are the brackets. -/
theorem Bracket.isPlain_chars (bracket : Bracket) : ∀ c ∈ bracket.chars, isPlain c = true := by
  have opening : bracket.shape.opening.all isPlain = true := by
    cases bracket.shape <;> decide
  have closing : bracket.shape.closing.all isPlain = true := by
    cases bracket.shape <;> decide
  exact forall_append (forall_append (isPlain_of_all opening)
    (isPlain_of_isPhrase bracket.text.isPhrase)) (isPlain_of_all closing)

/-- A node with or without brackets is plain. -/
theorem Mention.isPlain_chars (mention : Mention) : ∀ c ∈ mention.chars, isPlain c = true := by
  refine forall_append (isPlain_of_isWord mention.name.isWord) ?_
  cases mention.bracket with
  | none => simp
  | some bracket => exact bracket.isPlain_chars

/-- A connector is plain, with or without a text. -/
theorem Tie.isPlain_chars (tie : Tie) : ∀ c ∈ tie.chars, isPlain c = true := by
  cases tie with
  | arrow | dotted | thick | line => exact isPlain_of_all (by decide)
  | labeledArrow text | labeledDotted text | textArrow text =>
      exact forall_append (forall_append (isPlain_of_all (by decide))
        (isPlain_of_isPhrase text.isPhrase)) (isPlain_of_all (by decide))

/-- A space before a plain text is plain. -/
theorem isPlain_space {text : List Char} (plain : ∀ c ∈ text, isPlain c = true) :
    ∀ c ∈ ' ' :: text, isPlain c = true := by
  intro c member
  rcases List.mem_cons.mp member with rfl | member
  · decide
  · exact plain c member

theorem Step.isPlain_chars (step : Step) : ∀ c ∈ step.chars, isPlain c = true :=
  isPlain_space (forall_append step.tie.isPlain_chars (isPlain_space step.target.isPlain_chars))

theorem Name.head (name : Name) : ∃ c rest, name.text = c :: rest ∧ isAsciiWord c = true := by
  cases text : name.text with
  | nil => exact absurd text name.isWord.nonempty
  | cons c rest => exact ⟨c, rest, rfl, name.isWord.ascii c (by simp [text])⟩

theorem Name.last (name : Name) :
    ∃ front c, name.text = front ++ [c] ∧ isBlank c = false := by
  have nonempty := name.isWord.nonempty
  exact exists_last nonempty
    (isBlank_of_isAsciiWord (name.isWord.ascii _ (List.getLast_mem nonempty)))

/-- A node ends with the last letter of its id, or with the end of its brackets. -/
theorem Mention.last (mention : Mention) :
    ∃ front c, mention.chars = front ++ [c] ∧ isBlank c = false := by
  cases bracketed : mention.bracket with
  | none =>
      obtain ⟨front, c, ends, visible⟩ := mention.name.last
      exact ⟨front, c, by simp [Mention.chars, bracketed, ends], visible⟩
  | some bracket =>
      have nonempty : bracket.shape.closing ≠ [] := by
        cases bracket.shape <;> decide
      have closing : isBlank (bracket.shape.closing.getLast nonempty) = false := by
        revert nonempty
        cases bracket.shape <;> decide
      obtain ⟨front, c, closes, visible⟩ := exists_last nonempty closing
      refine ⟨mention.name.text ++ (bracket.shape.opening ++ bracket.text.text ++ front), c, ?_,
        visible⟩
      simp [Mention.chars, bracketed, Bracket.chars, closes]

/-- The line of a chain. -/
theorem Chain.isLine (chain : Chain) : IsLine chain.chars where
  plain := by
    apply forall_append chain.first.isPlain_chars
    intro c member
    obtain ⟨step, _, inStep⟩ := List.mem_flatMap.mp member
    exact step.isPlain_chars c inStep
  head := by
    obtain ⟨c, rest, text, word⟩ := chain.first.name.head
    exact ⟨c, _, by rw [Chain.chars, Mention.chars, text]; rfl, word⟩
  last := by
    obtain ⟨steps, step, split⟩ : ∃ steps step, chain.steps = steps ++ [step] :=
      ⟨_, _, (List.dropLast_concat_getLast chain.linked).symm⟩
    obtain ⟨front, c, ends, visible⟩ := step.target.last
    refine ⟨chain.first.chars ++ (steps.flatMap Step.chars ++
      ' ' :: (step.tie.chars ++ ' ' :: front)), c, ?_, visible⟩
    simp [Chain.chars, split, Step.chars, ends]

theorem isPlain_titleChars (title : Option Phrase) :
    ∀ c ∈ titleChars title, isPlain c = true := by
  cases title with
  | none => simp [titleChars]
  | some title =>
      have open_ : ∀ c ∈ ['['], isPlain c = true := isPlain_of_all (by decide)
      have close : ∀ c ∈ [']'], isPlain c = true := isPlain_of_all (by decide)
      exact isPlain_space (forall_append open_
        (forall_append (isPlain_of_isPhrase title.isPhrase) close))

/-- The line that opens a block. -/
theorem isLine_openingLine (name : Name) (title : Option Phrase) :
    IsLine (openingLine name title) where
  plain := by
    have keyword : ∀ c ∈ "subgraph".toList, isPlain c = true := isPlain_of_all (by decide)
    exact forall_append keyword (isPlain_space
      (forall_append (isPlain_of_isWord name.isWord) (isPlain_titleChars title)))
  head := ⟨'s', "ubgraph".toList ++ ' ' :: (name.text ++ titleChars title),
    by simp [openingLine_eq], by decide⟩
  last := by
    cases title with
    | none =>
        obtain ⟨front, c, ends, visible⟩ := name.last
        refine ⟨"subgraph".toList ++ ' ' :: front, c, ?_, visible⟩
        simp [openingLine_eq, titleChars, ends]
    | some title =>
        refine ⟨"subgraph".toList ++ ' ' :: (name.text ++ ' ' :: '[' :: title.text), ']', ?_,
          by decide⟩
        simp [openingLine_eq, titleChars]

theorem isLine_end : IsLine "end".toList where
  plain := isPlain_of_all (by decide)
  head := ⟨'e', _, rfl, by decide⟩
  last := ⟨"en".toList, 'd', rfl, by decide⟩

/-- The declaration of a diagram, as its line. -/
def Diagram.declaration (diagram : Diagram) : List Char :=
  diagram.keyword.toList ++ ' ' :: diagram.direction.toList

end Flowchart.Plain
