import Flowchart.Proofs.Text.LineEnds
import Flowchart.Proofs.Text.Replacing

/-!
The fronts of lines.

A word heads a line if nothing but blanks stands before it. Rewriting a text can bring a word to
the front of a line: what stood before it is taken away, a line end is put before it, or its
letters come together. Where none of this happens, a word that heads a line of the rewritten text
heads a line of the text itself.

Main definition: `HeadsLine`. Main statements: `headsLine_iff`,
`Consumes.headsLine_of_replaceAll`, `headsLine_of_normalizeLineEnds`.
-/

namespace Flowchart.Text

/-- A text that starts with a word, with the letters in any case. -/
def Begins (word text : List Char) : Prop :=
  (afterCaseless foldLetterDotted word text).isSome = true

instance (word text : List Char) : Decidable (Begins word text) :=
  inferInstanceAs (Decidable (_ = true))

/-- A blank that does not end the line. -/
def isMargin (c : Char) : Bool :=
  isBlank c && c != '\n'

/-- A text without the blanks in front of the first line. -/
def skipMargin (text : List Char) : List Char :=
  text.dropWhile isMargin

/-- Nothing visible stands on the first line of a text. -/
def EndsLine (text : List Char) : Prop :=
  ∀ c ∈ (skipMargin text).head?, c = '\n'

instance (text : List Char) : Decidable (EndsLine text) :=
  decidable_of_iff ((skipMargin text).head?.all (· == '\n') = true) (by
    simp [Option.all_eq_true, EndsLine])

/-- A word is the first visible thing on the first line of a text. -/
def Heads (word text : List Char) : Prop :=
  Begins word (skipMargin text)

/-- A tail of a text that starts where one of the lines does. -/
def LineStart (text tail : List Char) : Prop :=
  tail = text ∨ '\n' :: tail <:+ text

/-- A word is the first visible thing on some line of a text. -/
def HeadsLine (word text : List Char) : Prop :=
  ∃ tail, LineStart text tail ∧ Heads word tail

theorem LineStart.isSuffix {text tail : List Char} (start : LineStart text tail) :
    tail <:+ text := by
  rcases start with rfl | behind
  · exact List.suffix_rfl
  · exact (List.suffix_cons _ _).trans behind

/-! ### Words at the front -/

section Fronts

variable {word text : List Char} {letter c : Char}

theorem begins_cons : Begins (letter :: word) (c :: text) ↔
    foldLetterDotted c = letter ∧ Begins word text := by
  rw [Begins, afterCaseless]
  split
  case isTrue same => exact (and_iff_right same).symm
  case isFalse other => exact iff_of_false (by simp) (fun both => other both.1)

theorem begins_iff : Begins word text ↔ ∃ front rest, text = front ++ rest ∧
    front.map foldLetterDotted = word := by
  rw [Begins, Option.isSome_iff_exists]
  constructor
  · rintro ⟨rest, read⟩
    obtain ⟨front, split, folded⟩ := afterCaseless_eq_some.mp read
    exact ⟨front, rest, split, folded⟩
  · rintro ⟨front, rest, split, folded⟩
    exact ⟨rest, afterCaseless_eq_some.mpr ⟨front, split, folded⟩⟩

/-- What is put behind a text does not change its beginning. -/
theorem Begins.append (begins : Begins word text) (rest : List Char) :
    Begins word (text ++ rest) := by
  obtain ⟨front, more, rfl, folded⟩ := begins_iff.mp begins
  exact begins_iff.mpr ⟨front, more ++ rest, List.append_assoc front more rest, folded⟩

/-- A word is read from a line alone as it is from the line and all that follows it. -/
theorem begins_append_iff (whole : '\n' ∉ word) {rest : List Char}
    (ends : ∀ c ∈ rest.head?, c = '\n') : Begins word (text ++ rest) ↔ Begins word text := by
  refine ⟨fun begins => ?_, fun begins => begins.append rest⟩
  induction word generalizing text with
  | nil => rfl
  | cons letter word ih =>
      cases text with
      | nil =>
          cases rest with
          | nil => exact begins
          | cons c rest =>
              have same := (begins_cons.mp begins).1
              rw [ends c rfl, foldLetterDotted_of_isBlank (by decide)] at same
              exact absurd (List.mem_cons_self (a := letter)) (same ▸ whole)
      | cons c text =>
          rw [List.cons_append, begins_cons] at begins
          exact begins_cons.mpr ⟨begins.1,
            ih (fun member => whole (List.mem_cons_of_mem _ member)) begins.2⟩

end Fronts

/-- A word that can be seen: not empty, and without blanks. -/
structure IsVisible (word : List Char) : Prop where
  nonempty : word ≠ []
  letters : ∀ c ∈ word, isBlank c = false

instance (word : List Char) : Decidable (IsVisible word) :=
  decidable_of_iff (word ≠ [] ∧ word.all (fun c => !isBlank c) = true)
    ⟨fun ⟨nonempty, letters⟩ => ⟨nonempty, visible_of_all letters⟩, fun ⟨nonempty, letters⟩ =>
      ⟨nonempty, List.all_eq_true.mpr fun c member => by rw [letters c member]; rfl⟩⟩

section Visible

variable {word text : List Char} {c : Char}

theorem IsVisible.whole (visible : IsVisible word) : '\n' ∉ word := fun member =>
  absurd (visible.letters '\n' member) (by decide)

/-- A visible word does not begin with a blank, and no text without a visible front begins with
it. -/
theorem IsVisible.not_begins (visible : IsVisible word)
    (blank : Stops (fun c => !isBlank c) text) : ¬Begins word text := by
  obtain ⟨nonempty, letters⟩ := visible
  intro begins
  cases word with
  | nil => exact nonempty rfl
  | cons letter word =>
      cases text with
      | nil => cases begins
      | cons c text =>
          have isBlank : isBlank c = true := by simpa using blank c rfl
          have same := (begins_cons.mp begins).1
          rw [foldLetterDotted_of_isBlank isBlank] at same
          have seen := letters letter List.mem_cons_self
          rw [← same, isBlank] at seen
          cases seen

/-- A text that begins with a visible word does not begin with a blank. -/
theorem IsVisible.stops (visible : IsVisible word) (begins : Begins word text) :
    Stops isBlank text := by
  intro c first
  rw [← Bool.not_eq_true]
  intro blank
  apply visible.not_begins _ begins
  intro d same
  rw [Option.mem_unique same first]
  simp [blank]

theorem skipMargin_cons_of_isMargin (margin : isMargin c = true) :
    skipMargin (c :: text) = skipMargin text :=
  List.dropWhile_cons_of_pos margin

theorem skipMargin_cons_of_not (visible : isMargin c = false) :
    skipMargin (c :: text) = c :: text :=
  List.dropWhile_cons_of_neg (by simp [visible])

theorem EndsLine.skipInline (ends : EndsLine text) : EndsLine (skipInline text) := by
  induction text with
  | nil => exact ends
  | cons c text ih =>
      cases inline : isInlineBlank c with
      | true =>
          have lineFeed : c ≠ '\n' := by
            rintro rfl
            cases inline
          have margin : isMargin c = true := by
            simp [isMargin, isBlank_of_isInlineBlank inline, lineFeed]
          rw [EndsLine, skipMargin_cons_of_isMargin margin] at ends
          rw [Text.skipInline, List.dropWhile_cons_of_pos inline]
          exact ih ends
      | false =>
          rwa [Text.skipInline, List.dropWhile_cons_of_neg (by simp [inline])]

/-- Where only blanks follow up to the end of the line, this also holds in a part at the front. -/
theorem EndsLine.of_front {front : List Char} (ends : EndsLine text) (isFront : front <+: text) :
    EndsLine front := by
  obtain ⟨rest, rfl⟩ := isFront
  intro c first
  have left : skipMargin front ≠ [] := by
    rintro empty
    rw [empty] at first
    cases first
  apply ends c
  rw [skipMargin, dropWhile_append_of_ne_nil left, List.head?_append, ← skipMargin,
    Option.mem_def.mp first]
  rfl

theorem heads_cons_of_isMargin (margin : isMargin c = true) :
    Heads word (c :: text) ↔ Heads word text := by
  rw [Heads, skipMargin_cons_of_isMargin margin, Heads]

theorem heads_cons_of_not (seen : isMargin c = false) :
    Heads word (c :: text) ↔ Begins word (c :: text) := by
  rw [Heads, skipMargin_cons_of_not seen]

/-- No visible word heads a line on which only blanks follow. -/
theorem IsVisible.not_heads (visible : IsVisible word) (ends : EndsLine text) :
    ¬Heads word text := by
  apply visible.not_begins
  intro c first
  rw [ends c first]
  rfl

/-- What is put behind a text does not change its head. -/
theorem IsVisible.heads_append (visible : IsVisible word) (heads : Heads word text)
    (rest : List Char) : Heads word (text ++ rest) := by
  have left : skipMargin text ≠ [] := by
    intro empty
    apply visible.not_heads _ heads
    rw [EndsLine, empty]
    exact fun c first => absurd first (by simp)
  rw [Heads, skipMargin, dropWhile_append_of_ne_nil left]
  exact Begins.append heads rest

/-- Blanks before a line, or lines of blanks before it, do not change what heads it. -/
theorem HeadsLine.cons_blank (heads : HeadsLine word text) (blank : isBlank c = true) :
    HeadsLine word (c :: text) := by
  obtain ⟨tail, rfl | behind, first⟩ := heads
  · by_cases lineFeed : c = '\n'
    · subst lineFeed
      exact ⟨tail, Or.inr List.suffix_rfl, first⟩
    · have margin : isMargin c = true := by simp [isMargin, blank, lineFeed]
      exact ⟨c :: tail, Or.inl rfl, (heads_cons_of_isMargin margin).mpr first⟩
  · exact ⟨tail, Or.inr (behind.trans (List.suffix_cons c text)), first⟩

/-- Blanks in front of a text leave the heads of its lines. -/
theorem HeadsLine.append_left {blanks : List Char} (blank : ∀ c ∈ blanks, isBlank c = true)
    (heads : HeadsLine word text) : HeadsLine word (blanks ++ text) := by
  induction blanks with
  | nil => exact heads
  | cons c blanks ih =>
      have tail := ih fun d member => blank d (List.mem_cons_of_mem c member)
      exact tail.cons_blank (blank c List.mem_cons_self)

/-- What heads a line of a front of a text heads a line of the text. -/
theorem IsVisible.headsLine_of_front (visible : IsVisible word) {front : List Char}
    (isFront : front <+: text) (heads : HeadsLine word front) : HeadsLine word text := by
  obtain ⟨rest, rfl⟩ := isFront
  obtain ⟨tail, start, first⟩ := heads
  refine ⟨tail ++ rest, ?_, visible.heads_append first rest⟩
  rcases start with rfl | ⟨before, rfl⟩
  · exact Or.inl rfl
  · exact Or.inr ⟨before, by simp⟩

/-- A word that heads a trimmed text heads a line of the text itself. -/
theorem IsVisible.headsLine_of_trim (visible : IsVisible word)
    (heads : HeadsLine word (trim text)) : HeadsLine word text := by
  have front := visible.headsLine_of_front (trimRight_isPrefix (trimLeft text)) heads
  have blank : ∀ c ∈ text.takeWhile isBlank, isBlank c = true :=
    fun c member => List.mem_takeWhile_imp member
  have whole := front.append_left blank
  rwa [trimLeft, List.takeWhile_append_dropWhile] at whole

end Visible

/-! ### Lines -/

section Lines

variable {word text line tail : List Char}

/-- The first line of a text, and the rest from the line feed on. -/
theorem cutLines_fst (text : List Char) : (cutLines text).1 = text.takeWhile (· != '\n') := by
  induction text with
  | nil => rfl
  | cons c text ih =>
      rw [cutLines]
      by_cases lineFeed : c = '\n' <;> simp [lineFeed, ih]

/-- The lines after the first one follow the line feeds. -/
theorem mem_cutLines_snd : line ∈ (cutLines text).2 ↔
    ∃ tail, '\n' :: tail <:+ text ∧ line = tail.takeWhile (· != '\n') := by
  induction text with
  | nil => simp [cutLines]
  | cons c text ih =>
      rw [cutLines]
      by_cases lineFeed : c = '\n'
      · simp only [if_pos lineFeed, List.mem_cons, ih, cutLines_fst]
        constructor
        · rintro (rfl | ⟨tail, behind, rfl⟩)
          · exact ⟨text, lineFeed ▸ List.suffix_rfl, rfl⟩
          · exact ⟨tail, behind.trans (List.suffix_cons c text), rfl⟩
        · rintro ⟨tail, behind, rfl⟩
          rcases List.suffix_cons_iff.mp behind with same | behind
          · obtain ⟨-, rfl⟩ := List.cons.inj same
            exact Or.inl rfl
          · exact Or.inr ⟨tail, behind, rfl⟩
      · simp only [if_neg lineFeed, ih]
        constructor
        · rintro ⟨tail, behind, rfl⟩
          exact ⟨tail, behind.trans (List.suffix_cons c text), rfl⟩
        · rintro ⟨tail, behind, rfl⟩
          rcases List.suffix_cons_iff.mp behind with same | behind
          · exact absurd (List.cons.inj same).1.symm lineFeed
          · exact ⟨tail, behind, rfl⟩

/-- A line is what stands between the start of a line and the next line feed. -/
theorem mem_splitLines : line ∈ splitLines text ↔
    ∃ tail, LineStart text tail ∧ line = tail.takeWhile (· != '\n') := by
  rw [splitLines, List.mem_cons, mem_cutLines_snd, cutLines_fst]
  simp only [LineStart, or_and_right, exists_or, exists_eq_left]

/-- A margin is what can be trimmed away in front of the first line. -/
theorem skipMargin_append {rest : List Char} (whole : '\n' ∉ line)
    (ends : ∀ c ∈ rest.head?, c = '\n') : skipMargin (line ++ rest) = trimLeft line ++ rest := by
  induction line with
  | nil =>
      refine dropWhile_of_stops fun c first => ?_
      rw [ends c first]
      rfl
  | cons c line ih =>
      rw [List.mem_cons, not_or] at whole
      have margin : isMargin c = isBlank c := by simp [isMargin, Ne.symm whole.1]
      have tail := ih whole.2
      rw [skipMargin, trimLeft] at tail ⊢
      cases blank : isBlank c with
      | true => simpa [margin, blank] using tail
      | false => simp [margin, blank]

/-- What heads a text heads its first line, and blanks before it can be trimmed away. -/
theorem IsVisible.heads_iff (visible : IsVisible word) :
    Heads word text ↔ Begins word (trimLeft (text.takeWhile (· != '\n'))) := by
  have split : text.takeWhile (· != '\n') ++ text.dropWhile (· != '\n') = text :=
    List.takeWhile_append_dropWhile
  have whole : '\n' ∉ text.takeWhile (· != '\n') := fun member =>
    absurd (List.mem_takeWhile_imp member) (by decide)
  have ends : ∀ c ∈ (text.dropWhile (· != '\n')).head?, c = '\n' := by
    intro c first
    simpa using stops_dropWhile (· != '\n') text c first
  have skipped := skipMargin_append whole ends
  rw [split] at skipped
  rw [Heads, skipped, begins_append_iff visible.whole ends]

/-- A word heads a line of a text exactly if one of the lines starts with it after blanks. -/
theorem headsLine_iff (visible : IsVisible word) :
    HeadsLine word text ↔ ∃ line ∈ splitLines text, Begins word (trimLeft line) := by
  constructor
  · rintro ⟨tail, start, heads⟩
    exact ⟨_, mem_splitLines.mpr ⟨tail, start, rfl⟩, visible.heads_iff.mp heads⟩
  · rintro ⟨line, member, begins⟩
    obtain ⟨tail, start, rfl⟩ := mem_splitLines.mp member
    exact ⟨tail, start, visible.heads_iff.mpr begins⟩

/-- A part of a text that holds no line feed stands on one of the lines. -/
theorem exists_line_of_isInfix {part : List Char} (whole : '\n' ∉ part) (inside : part <:+: text) :
    ∃ line ∈ splitLines text, part <:+: line := by
  induction text with
  | nil => exact ⟨[], by simp [splitLines, cutLines], inside⟩
  | cons c text ih =>
      rcases List.infix_cons_iff.mp inside with ⟨rest, split⟩ | inside
      · rw [← split, splitLines, cutLines_append whole]
        exact ⟨_, List.mem_cons_self, (List.prefix_append part _).isInfix⟩
      · obtain ⟨line, member, onLine⟩ := ih inside
        rw [splitLines, cutLines]
        by_cases lineFeed : c = '\n'
        · simp only [if_pos lineFeed]
          exact ⟨line, List.mem_cons_of_mem _ member, onLine⟩
        · simp only [if_neg lineFeed]
          rcases List.mem_cons.mp member with rfl | later
          · exact ⟨_, List.mem_cons_self, onLine.trans (List.suffix_cons c _).isInfix⟩
          · exact ⟨line, List.mem_cons_of_mem _ later, onLine⟩

end Lines

/-! ### Replacing -/

section Replacing

variable {occurrence : List Char → Option (List Char)} {replacement word text : List Char}

/-- What is put in the place of an occurrence, and what follows it, does not start with anything
visible. So an occurrence ends a word. -/
def Parts (occurrence : List Char → Option (List Char)) (replacement text : List Char) : Prop :=
  ∀ ⦃tail after : List Char⦄, tail <:+ text → occurrence tail = some after →
    Stops (fun c => !isBlank c) (replacement ++ replaceAll occurrence replacement after)

theorem Parts.tail {c : Char} (parts : Parts occurrence replacement (c :: text)) :
    Parts occurrence replacement text :=
  fun _ _ behind => parts (behind.trans (List.suffix_cons c text))

/-- A word at the front of a text in which occurrences have been replaced was there before. -/
theorem Consumes.begins_of_replaceAll (consumes : Consumes occurrence)
    (visible : ∀ c ∈ word, isBlank c = false) (parts : Parts occurrence replacement text)
    (begins : Begins word (replaceAll occurrence replacement text)) : Begins word text := by
  induction word generalizing text with
  | nil => rfl
  | cons letter word ih =>
      cases text with
      | nil => rwa [replaceAll_nil] at begins
      | cons c text =>
          cases read : occurrence (c :: text) with
          | some after =>
              rw [consumes.replaceAll_of_some read] at begins
              have seen : IsVisible (letter :: word) := ⟨List.cons_ne_nil letter word, visible⟩
              exact absurd begins (seen.not_begins (parts List.suffix_rfl read))
          | none =>
              rw [replaceAll_of_none read, begins_cons] at begins
              exact begins_cons.mpr ⟨begins.1,
                ih (fun d member => visible d (List.mem_cons_of_mem _ member)) parts.tail begins.2⟩

/-- A word that heads a text after a replacement headed it before, unless something that occurs
stood in front of it. -/
theorem Consumes.heads_of_replaceAll (consumes : Consumes occurrence)
    (unblank : ∀ c, isBlank c = true → ∀ rest, occurrence (c :: rest) = none)
    (visible : IsVisible word) (parts : Parts occurrence replacement text)
    (first : ∀ after, occurrence (skipMargin text) = some after →
      ¬Heads word (replacement ++ replaceAll occurrence replacement after))
    (heads : Heads word (replaceAll occurrence replacement text)) : Heads word text := by
  induction text with
  | nil => rwa [replaceAll_nil] at heads
  | cons c text ih =>
      cases margin : isMargin c with
      | true =>
          have blank : isBlank c = true := (Bool.and_eq_true_iff.mp margin).1
          rw [skipMargin_cons_of_isMargin margin] at first
          rw [replaceAll_of_none (unblank c blank text), heads_cons_of_isMargin margin] at heads
          exact (heads_cons_of_isMargin margin).mpr (ih parts.tail first heads)
      | false =>
          rw [skipMargin_cons_of_not margin] at first
          rw [heads_cons_of_not margin]
          apply consumes.begins_of_replaceAll visible.letters parts
          cases read : occurrence (c :: text) with
          | some after =>
              rw [consumes.replaceAll_of_some read] at heads
              exact absurd heads (first after read)
          | none =>
              rw [replaceAll_of_none read] at heads ⊢
              exact (heads_cons_of_not margin).mp heads

/-- A suffix that starts with a character that is not in the left part lies in the right one. -/
theorem suffix_of_notMem {c : Char} {left right rest : List Char} (foreign : c ∉ left)
    (behind : c :: rest <:+ left ++ right) : c :: rest <:+ right := by
  induction left with
  | nil => exact behind
  | cons d left ih =>
      rw [List.mem_cons, not_or] at foreign
      rcases List.suffix_cons_iff.mp behind with same | later
      · exact absurd (List.cons.inj same).1 foreign.1
      · exact ih foreign.2 later

/-- A character that no replacement brings in was there before, and what follows it is what was
made of the text after it. -/
theorem Consumes.exists_suffix_of_replaceAll (consumes : Consumes occurrence) {c : Char}
    (foreign : c ∉ replacement) {rest : List Char}
    (behind : c :: rest <:+ replaceAll occurrence replacement text) :
    ∃ tail, c :: tail <:+ text ∧ rest = replaceAll occurrence replacement tail := by
  induction text using consumes.induction with
  | nil =>
      rw [replaceAll_nil] at behind
      exact absurd (List.suffix_nil.mp behind) (List.cons_ne_nil c rest)
  | found d text after read ih =>
      rw [consumes.replaceAll_of_some read] at behind
      obtain ⟨tail, inside, same⟩ := ih (suffix_of_notMem foreign behind)
      exact ⟨tail, inside.trans ((consumes read).trans (List.suffix_cons d text)), same⟩
  | unread d text unread ih =>
      rw [replaceAll_of_none unread] at behind
      rcases List.suffix_cons_iff.mp behind with same | later
      · obtain ⟨rfl, rfl⟩ := List.cons.inj same
        exact ⟨text, List.suffix_rfl, rfl⟩
      · obtain ⟨tail, inside, same⟩ := ih later
        exact ⟨tail, inside.trans (List.suffix_cons d text), same⟩

/-- A word that heads a line after a replacement headed a line before, unless something that occurs
stood in front of it. -/
theorem Consumes.headsLine_of_replaceAll (consumes : Consumes occurrence)
    (unblank : ∀ c, isBlank c = true → ∀ rest, occurrence (c :: rest) = none)
    (oneLine : '\n' ∉ replacement) (visible : IsVisible word)
    (parts : Parts occurrence replacement text)
    (first : ∀ tail after, LineStart text tail → occurrence (skipMargin tail) = some after →
      ¬Heads word (replacement ++ replaceAll occurrence replacement after))
    (heads : HeadsLine word (replaceAll occurrence replacement text)) : HeadsLine word text := by
  obtain ⟨_, rfl | behind, heads⟩ := heads
  · exact ⟨text, Or.inl rfl, consumes.heads_of_replaceAll unblank visible parts
      (fun after => first text after (Or.inl rfl)) heads⟩
  · obtain ⟨tail, inside, rfl⟩ := consumes.exists_suffix_of_replaceAll oneLine behind
    have start : LineStart text tail := Or.inr inside
    exact ⟨tail, start, consumes.heads_of_replaceAll unblank visible
      (fun _ _ deeper => parts (deeper.trans start.isSuffix))
      (fun after => first tail after start) heads⟩

end Replacing

/-! ### Line ends -/

section LineEnds

variable {word text : List Char}

/-- A carriage return stands only before a line feed or at the end. -/
def ReturnsAtLineEnds (text : List Char) : Prop :=
  ∀ ⦃rest : List Char⦄, '\r' :: rest <:+ text → ∀ c ∈ rest.head?, c = '\n'

theorem ReturnsAtLineEnds.tail {c : Char} (returns : ReturnsAtLineEnds (c :: text)) :
    ReturnsAtLineEnds text :=
  fun _ behind => returns (behind.trans (List.suffix_cons c text))

theorem ReturnsAtLineEnds.of_suffix {tail : List Char} (returns : ReturnsAtLineEnds text)
    (isTail : tail <:+ text) : ReturnsAtLineEnds tail :=
  fun _ behind => returns (behind.trans isTail)

theorem ReturnsAtLineEnds.of_front {front : List Char} (returns : ReturnsAtLineEnds text)
    (isFront : front <+: text) : ReturnsAtLineEnds front := by
  obtain ⟨back, rfl⟩ := isFront
  rintro rest ⟨before, rfl⟩ c first
  have behind : '\r' :: (rest ++ back) <:+ before ++ '\r' :: rest ++ back := ⟨before, by simp⟩
  apply returns behind
  rw [List.head?_append, Option.mem_def.mp first]
  rfl

/-- Replacing occurrences without blanks leaves carriage returns at the ends of lines. -/
theorem ReturnsAtLineEnds.replaceAll {occurrence : List Char → Option (List Char)}
    {replacement : List Char} (returns : ReturnsAtLineEnds text)
    (consumes : Consumes occurrence)
    (unblank : ∀ c, isBlank c = true → ∀ rest, occurrence (c :: rest) = none)
    (returnless : '\r' ∉ replacement) :
    ReturnsAtLineEnds (replaceAll occurrence replacement text) := by
  intro rest behind c first
  obtain ⟨tail, inside, rfl⟩ := consumes.exists_suffix_of_replaceAll returnless behind
  cases tail with
  | nil =>
      rw [replaceAll_nil] at first
      cases first
  | cons d tail =>
      have lineFeed : d = '\n' := returns inside d rfl
      rw [lineFeed, replaceAll_of_none (unblank '\n' (by decide) tail)] at first
      cases first
      rfl

/-- A carriage return becomes a line feed, alone or with one behind it. -/
theorem normalizeLineEnds_return (text : List Char) :
    ∃ rest, normalizeLineEnds ('\r' :: text) = '\n' :: rest := by
  cases text with
  | nil => exact ⟨[], rfl⟩
  | cons c text =>
      by_cases lineFeed : c = '\n'
      · subst lineFeed
        exact ⟨_, normalizeLineEnds.eq_2 text⟩
      · refine ⟨_, normalizeLineEnds.eq_3 '\r' (c :: text) ?_⟩
        intro rest _ same
        exact lineFeed (List.cons.inj same).1

/-- A visible word at the front of a text with normal line ends was there before. -/
theorem begins_of_normalizeLineEnds (visible : ∀ c ∈ word, isBlank c = false)
    (begins : Begins word (normalizeLineEnds text)) : Begins word text := by
  induction word generalizing text with
  | nil => rfl
  | cons letter word ih =>
      have seen : IsVisible (letter :: word) := ⟨List.cons_ne_nil letter word, visible⟩
      cases text with
      | nil => exact begins
      | cons c text =>
          by_cases returns : c = '\r'
          · obtain ⟨rest, starts⟩ := normalizeLineEnds_return text
            rw [returns, starts] at begins
            exact absurd begins (seen.not_begins (stops_cons (by decide)))
          · rw [normalizeLineEnds_cons returns, begins_cons] at begins
            exact begins_cons.mpr ⟨begins.1,
              ih (fun d member => visible d (List.mem_cons_of_mem _ member)) begins.2⟩

/-- A visible word at its head was there before, too. -/
theorem heads_of_normalizeLineEnds (visible : IsVisible word)
    (heads : Heads word (normalizeLineEnds text)) : Heads word text := by
  induction text with
  | nil => exact heads
  | cons c text ih =>
      by_cases returns : c = '\r'
      · obtain ⟨rest, starts⟩ := normalizeLineEnds_return text
        rw [returns, starts, heads_cons_of_not (by decide)] at heads
        exact absurd heads (visible.not_begins (stops_cons (by decide)))
      · rw [normalizeLineEnds_cons returns] at heads
        cases margin : isMargin c with
        | true =>
            rw [heads_cons_of_isMargin margin] at heads ⊢
            exact ih heads
        | false =>
            rw [heads_cons_of_not margin, ← normalizeLineEnds_cons returns] at heads
            rw [heads_cons_of_not margin]
            exact begins_of_normalizeLineEnds visible.letters heads

/-- With carriage returns at line ends only, the lines are those of the text. -/
theorem ReturnsAtLineEnds.exists_suffix (returns : ReturnsAtLineEnds text) {rest : List Char}
    (behind : '\n' :: rest <:+ normalizeLineEnds text) :
    rest = [] ∨ ∃ tail, '\n' :: tail <:+ text ∧ rest = normalizeLineEnds tail := by
  have further : ∀ {c : Char} {text : List Char},
      (rest = [] ∨ ∃ tail, '\n' :: tail <:+ text ∧ rest = normalizeLineEnds tail) →
        rest = [] ∨ ∃ tail, '\n' :: tail <:+ c :: text ∧ rest = normalizeLineEnds tail :=
    fun found => found.imp_right fun ⟨tail, inside, same⟩ =>
      ⟨tail, inside.trans (List.suffix_cons _ _), same⟩
  fun_induction normalizeLineEnds text with
  | case1 => exact absurd (List.suffix_nil.mp behind) (List.cons_ne_nil _ _)
  | case2 text ih =>
      rcases List.suffix_cons_iff.mp behind with same | later
      · obtain ⟨-, rfl⟩ := List.cons.inj same
        exact Or.inr ⟨text, List.suffix_cons _ _, rfl⟩
      · exact further (further (ih returns.tail.tail later))
  | case3 c text notPair ih =>
      rcases List.suffix_cons_iff.mp behind with same | later
      · obtain ⟨first, rfl⟩ := List.cons.inj same
        by_cases isReturn : c = '\r'
        · cases text with
          | nil => exact Or.inl rfl
          | cons d text =>
              have inside : '\r' :: d :: text <:+ c :: d :: text := isReturn ▸ List.suffix_rfl
              have lineFeed : d = '\n' := returns inside d rfl
              exact absurd (lineFeed ▸ rfl) (notPair text isReturn)
        · rw [if_neg isReturn] at first
          exact Or.inr ⟨text, first ▸ List.suffix_rfl, rfl⟩
      · exact further (ih returns.tail later)

/-- A word that heads a line with uniform line ends heads a line of the text. -/
theorem headsLine_of_normalizeLineEnds (visible : IsVisible word)
    (returns : ReturnsAtLineEnds text) (heads : HeadsLine word (normalizeLineEnds text)) :
    HeadsLine word text := by
  obtain ⟨_, rfl | behind, heads⟩ := heads
  · exact ⟨text, Or.inl rfl, heads_of_normalizeLineEnds visible heads⟩
  · rcases returns.exists_suffix behind with rfl | ⟨tail, inside, rfl⟩
    · exact absurd heads (visible.not_heads (by decide))
    · exact ⟨tail, Or.inr inside, heads_of_normalizeLineEnds visible heads⟩

end LineEnds

end Flowchart.Text
