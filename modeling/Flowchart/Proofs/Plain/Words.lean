import Flowchart.Proofs.Plain.Source
import Flowchart.Proofs.Text.Finding
import Flowchart.Text.Markup

/-!
The words of phrases.

A search that is led by words passes over all words but the last, if it reads nothing after a word
that another word follows. Taking the markup out of a phrase leaves it as it is.

Main statements: `findAll_lead`, `cleanLabelChars_phrase`.
-/

namespace Flowchart.Plain

open Flowchart.Text

/-! ### The words before the last -/

/-- The first word of a text. -/
def firstWord (text : List Char) : List Char :=
  text.takeWhile isAsciiWord

/-- The last word of a text. -/
def lastWord (text : List Char) : List Char :=
  (text.reverse.takeWhile isAsciiWord).reverse

/-- What stands before the last word of a text. -/
def lead (text : List Char) : List Char :=
  (text.reverse.dropWhile isAsciiWord).reverse

/-- A text is its last word with everything in front of it. -/
theorem lead_append_lastWord (text : List Char) : lead text ++ lastWord text = text := by
  rw [lead, lastWord, ← List.reverse_append, List.takeWhile_append_dropWhile, List.reverse_reverse]

/-- The words before the last, where a word is followed by a mark and more. -/
theorem lead_joined {mark : Char} (outside : isAsciiWord mark = false)
    (front rest : List Char) :
    lead (front ++ mark :: rest) = front ++ mark :: lead rest ∧
      lastWord (front ++ mark :: rest) = lastWord rest := by
  have reversed : (front ++ mark :: rest).reverse = rest.reverse ++ mark :: front.reverse := by
    simp
  have stop : Stops isAsciiWord (mark :: front.reverse) := stops_cons outside
  rw [lead, lead, lastWord, lastWord, reversed, dropWhile_append_of_stops stop,
    takeWhile_append_of_stops stop]
  exact ⟨by simp, rfl⟩

theorem lead_word {word : List Char} (isWord : Notation.IsWord word) :
    lead word = [] ∧ lastWord word = word := by
  have inside : ∀ c ∈ word.reverse, isAsciiWord c = true :=
    fun c member => isWord.ascii c (List.mem_reverse.mp member)
  rw [lead, lastWord, List.dropWhile_eq_nil_iff.mpr inside, List.takeWhile_eq_self_iff.mpr inside,
    List.reverse_reverse]
  exact ⟨rfl, rfl⟩

theorem firstWord_word {word : List Char} (isWord : Notation.IsWord word) :
    firstWord word = word :=
  List.takeWhile_eq_self_iff.mpr isWord.ascii

theorem isNameChar_of_all {text : List Char} (outside : text.all (fun c => !isNameChar c) = true) :
    ∀ c ∈ text, isNameChar c = false := by
  intro c member
  simpa using List.all_eq_true.mp outside c member

theorem isNameChar_of_isWord {word : List Char} (isWord : Notation.IsWord word) :
    ∀ c ∈ word, isNameChar c = true :=
  fun c member => isNameChar_of_isAsciiWord (isWord.ascii c member)

theorem isNameChar_of_joint {mark : Char} (joint : mark = ' ' ∨ mark = '-') :
    isAsciiWord mark = false ∧ isNameChar mark = false := by
  rcases joint with rfl | rfl <;> decide

/-- Words are the first of them, and a mark and other words after it. -/
theorem firstWord_split {text : List Char} (areWords : AreWords text) :
    Notation.IsWord (firstWord text) ∧
      ∃ rest, text = firstWord text ++ rest ∧ Stops isNameChar rest := by
  cases areWords with
  | word isWord =>
      rw [firstWord_word isWord]
      exact ⟨isWord, [], (List.append_nil text).symm, stops_nil _⟩
  | @joined word rest mark isWord joint =>
      obtain ⟨outside, unnamed⟩ := isNameChar_of_joint joint
      have first : firstWord (word ++ mark :: rest) = word :=
        takeWhile_append_stops isWord.ascii (stops_cons outside)
      rw [first]
      exact ⟨isWord, mark :: rest, rfl, stops_cons unnamed⟩

section Search

variable {α β : Type} {item : Recognizer α} {after : Recognizer β} {make : List Char → β → α}
  {text : List Char}

/-- The last of words in a row is a word. -/
theorem isWord_lastWord (areWords : AreWords text) : Notation.IsWord (lastWord text) := by
  induction areWords with
  | word isWord =>
      rw [(lead_word isWord).2]
      exact isWord
  | joined _ joint _ ih =>
      rw [(lead_joined (isNameChar_of_joint joint).1 _ _).2]
      exact ih

/-- A search that reads nothing between words passes over the words before the last. -/
theorem findAll_lead (led : WordLed item after make) (areWords : AreWords text)
    (between : ∀ mark ∈ text, mark = ' ' ∨ mark = '-' →
      ∀ c rest, isAsciiWord c = true → after (mark :: c :: rest) = none)
    (position : Nat) (rest : List Char) :
    findAll item position (text ++ rest) =
      findAll item (position + (lead text).length) (lastWord text ++ rest) := by
  induction areWords generalizing position with
  | word isWord =>
      obtain ⟨noLead, whole⟩ := lead_word isWord
      rw [noLead, whole]
      rfl
  | @joined word others mark isWord joint areWords ih =>
      obtain ⟨outside, unnamed⟩ := isNameChar_of_joint joint
      have refused : after (mark :: (others ++ rest)) = none := by
        obtain ⟨c, tail, starts, next⟩ := areWords.head
        rw [starts]
        exact between mark (by simp) joint c (tail ++ rest) next
      have passed := led.findAll_word_none (isNameChar_of_isWord isWord) (stops_cons unnamed)
        refused position
      have behind : ∀ c ∈ [mark], isNameChar c = false := by simpa using unnamed
      have joined := led.findAll_others behind (position + word.length) (others ++ rest)
      have onward := ih
        (fun other member => between other (by simp [member])) (position + word.length + 1)
      obtain ⟨splitLead, splitWord⟩ := lead_joined outside word others
      rw [List.append_assoc, List.cons_append, passed, splitLead, splitWord]
      refine joined.trans (onward.trans ?_)
      congr 1
      simp only [List.length_append, List.length_cons]
      omega

/-- A search that reads nothing after the last word either passes over all of them. -/
theorem findAll_words (led : WordLed item after make) (areWords : AreWords text)
    (between : ∀ mark ∈ text, mark = ' ' ∨ mark = '-' →
      ∀ c rest, isAsciiWord c = true → after (mark :: c :: rest) = none)
    {rest : List Char} (stops : Stops isNameChar rest) (refused : after rest = none)
    (position : Nat) :
    findAll item position (text ++ rest) = findAll item (position + text.length) rest := by
  have length := congrArg List.length (lead_append_lastWord text)
  have last := led.findAll_word_none (isNameChar_of_isWord (isWord_lastWord areWords)) stops refused
    (position + (lead text).length)
  rw [findAll_lead led areWords between, last, Nat.add_assoc, ← List.length_append,
    lead_append_lastWord]

end Search

/-- Only spaces stand between the words of a phrase. -/
theorem IsPhrase.between {text : List Char} (isPhrase : IsPhrase text)
    {property : Char → Prop} (space : property ' ') :
    ∀ mark ∈ text, mark = ' ' ∨ mark = '-' → property mark := by
  rintro mark member (rfl | rfl)
  · exact space
  · exact absurd member (isPhrase.notMem (by decide) (by decide))

/-! ### Phrases without markup -/

theorem isBlank_of_mem_space : ∀ c ∈ [' '], isBlank c = true :=
  List.all_eq_true.mp (by decide)

/-- Visible characters are kept when blanks are collapsed. -/
theorem collapseBlanks_append {word : List Char} (visible : ∀ c ∈ word, isBlank c = false)
    (rest : List Char) : collapseBlanks (word ++ rest) = word ++ collapseBlanks rest := by
  induction word with
  | nil => rfl
  | cons c word ih =>
      have tail := ih fun d member => visible d (List.mem_cons_of_mem c member)
      rw [List.cons_append, collapseBlanks.eq_def]
      simp [visible c (by simp), tail]

/-- The blanks between words stand alone. -/
theorem collapseBlanks_words {text : List Char} (areWords : AreWords text) :
    collapseBlanks text = text := by
  have visible : ∀ {word : List Char}, Notation.IsWord word → ∀ c ∈ word, isBlank c = false :=
    fun isWord c member => isBlank_of_isAsciiWord (isWord.ascii c member)
  induction areWords with
  | word isWord =>
      have collapsed := collapseBlanks_append (visible isWord) []
      simpa [collapseBlanks] using collapsed
  | @joined first rest mark isWord joint areWords ih =>
      obtain ⟨c, tail, starts, word⟩ := areWords.head
      have alone : collapseBlanks (mark :: rest) = mark :: collapseBlanks rest := by
        rw [starts, collapseBlanks.eq_def]
        rcases joint with rfl | rfl
        · have blank : isBlank ' ' = true := by decide
          simp [blank, isBlank_of_isAsciiWord word]
        · have visible : isBlank '-' = false := by decide
          simp [visible]
      rw [collapseBlanks_append (visible isWord), alone, ih]

/-- A label without angles stays as it is when its blanks are in order. -/
theorem cleanLabelChars_of_untagged {text : List Char}
    (untagged : ∀ c ∈ text, foldLetterDotted c ≠ '<' ∧ c ≠ '<')
    (collapsed : collapseBlanks text = text) (trimmed : IsTrimmed text) :
    cleanLabelChars text = text := by
  have breaks : breaksToSpaces text = text :=
    replaceAllWith_of_none _ fun c member => afterLineBreak_of_ne (untagged c member).1
  have tags : dropTags text = text := by
    apply replaceAllWith_of_none
    intro c member rest
    rw [afterTag]
    intro tail same
    exact (untagged c member).2 (List.cons.inj same).1
  rw [cleanLabelChars, breaks, tags, collapsed, trim_of_isTrimmed trimmed]

/-- A word character is no angle, in whatever case. -/
theorem untagged_of_isAsciiWord {c : Char} (word : isAsciiWord c = true) :
    foldLetterDotted c ≠ '<' ∧ c ≠ '<' :=
  ⟨foldLetterDotted_ne (Or.inr (by simp [isPlain, word])), ne_of_isMark word (by decide)⟩

/-- A label of words stays as it is when its blanks are in order. -/
theorem cleanLabelChars_of_words {text : List Char}
    (plain : ∀ c ∈ text, isAsciiWord c = true ∨ c = ' ') (collapsed : collapseBlanks text = text)
    (trimmed : IsTrimmed text) : cleanLabelChars text = text := by
  apply cleanLabelChars_of_untagged _ collapsed trimmed
  intro c member
  rcases plain c member with word | rfl
  · exact untagged_of_isAsciiWord word
  · decide

/-- Cleaning leaves a phrase alone. -/
theorem cleanLabelChars_phrase {text : List Char} (isPhrase : IsPhrase text) :
    cleanLabelChars text = text :=
  cleanLabelChars_of_words isPhrase.chars (collapseBlanks_words isPhrase.areWords)
    isPhrase.isTrimmed

theorem isTrimmed_of_isWord {word : List Char} (isWord : Notation.IsWord word) :
    IsTrimmed word :=
  (AreWords.word isWord).isTrimmed

/-- Cleaning leaves a word alone. -/
theorem cleanLabelChars_word {word : List Char} (isWord : Notation.IsWord word) :
    cleanLabelChars word = word :=
  cleanLabelChars_of_words (fun c member => Or.inl (isWord.ascii c member))
    (collapseBlanks_words (.word isWord)) (isTrimmed_of_isWord isWord)

end Flowchart.Plain
