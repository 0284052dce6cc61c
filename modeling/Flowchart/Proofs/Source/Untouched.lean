import Flowchart.Proofs.Plain.Source

/-!
The sources that cleaning leaves alone.

No step of cleaning makes a text longer, and one that finds something to take away makes it
shorter. So a source that comes out as it went in holds nothing that any of the steps would take
away.

Main definition: `Untouched`. Main statements: `cleanChars_of_untouched`,
`untouched_of_cleanChars`.
-/

namespace Flowchart.Text

/-! ### What does not occur -/

/-- Nowhere in a text does an occurrence begin. -/
def Absent (occurrence : List Char → Option (List Char)) : List Char → Prop
  | [] => True
  | c :: rest => occurrence (c :: rest) = none ∧ Absent occurrence rest

/-- Where reading says whether one of certain parts is at the front, none of them is read anywhere
exactly if none of them is part of the text. -/
theorem absent_iff {occurrence : List Char → Option (List Char)} {IsPart : List Char → Prop}
    (nonempty : ¬IsPart [])
    (reads : ∀ text, occurrence text = none ↔ ∀ part, part <+: text → ¬IsPart part)
    {text : List Char} : Absent occurrence text ↔ ∀ part, part <:+: text → ¬IsPart part := by
  induction text with
  | nil =>
      refine iff_of_true trivial fun part inside => ?_
      rwa [List.infix_nil.mp inside]
  | cons c text ih =>
      rw [Absent, reads, ih]
      constructor
      · rintro ⟨front, later⟩ part inside
        rcases List.infix_cons_iff.mp inside with starts | inside
        · exact front part starts
        · exact later part inside
      · intro free
        exact ⟨fun part starts => free part starts.isInfix,
          fun part inside => free part (inside.trans (List.suffix_cons c text).isInfix)⟩

section Replacing

variable {occurrence : List Char → Option (List Char)} {replacement : List Char}

/-- What does not occur is not replaced. -/
theorem replaceAll_of_absent {text : List Char} (absent : Absent occurrence text) :
    replaceAll occurrence replacement text = text := by
  induction text with
  | nil => exact replaceAllWith.eq_1 _ _
  | cons c text ih =>
      have tail := ih absent.2
      rw [replaceAll] at tail ⊢
      rw [replaceAllWith, absent.1, tail]

/-- Replacing occurrences by something shorter makes no text longer, and keeps the length only of a
text in which nothing occurs. -/
theorem length_replaceAll
    (shorter : ∀ {text after}, occurrence text = some after →
      after.length + replacement.length < text.length) (text : List Char) :
    (replaceAll occurrence replacement text).length ≤ text.length ∧
      ((replaceAll occurrence replacement text).length = text.length →
        Absent occurrence text) := by
  unfold replaceAll
  fun_induction replaceAllWith occurrence (fun _ => replacement) text with
  | case1 => exact ⟨Nat.le_refl _, fun _ => trivial⟩
  | case2 c rest after found fits ih =>
      have bound := shorter found
      rw [List.length_append]
      constructor
      · omega
      · intro same
        omega
  | case3 c rest after found unfit ih =>
      have bound := shorter found
      rw [List.length_cons] at bound
      omega
  | case4 c rest absent ih =>
      rw [List.length_cons, List.length_cons]
      constructor
      · omega
      · intro same
        exact ⟨absent, ih.2 (Nat.succ.inj same)⟩

end Replacing

theorem length_dropWhile (belongs : Char → Bool) (text : List Char) :
    (text.dropWhile belongs).length ≤ text.length :=
  (List.dropWhile_sublist belongs).length_le

theorem length_trim (text : List Char) : (trim text).length ≤ text.length := by
  have front := length_dropWhile isBlank text
  have back := length_dropWhile isBlank (trimLeft text).reverse
  rw [trim, trimRight, List.length_reverse]
  rw [List.length_reverse] at back
  exact Nat.le_trans back front

theorem length_normalizeLineEnds (text : List Char) :
    (normalizeLineEnds text).length ≤ text.length := by
  fun_induction normalizeLineEnds text with
  | case1 => exact Nat.le_refl _
  | case2 rest ih =>
      simp only [List.length_cons]
      omega
  | case3 c rest _ ih =>
      simp only [List.length_cons]
      omega

/-- With normal line ends no carriage return is left. -/
theorem notMem_normalizeLineEnds (text : List Char) : '\r' ∉ normalizeLineEnds text := by
  fun_induction normalizeLineEnds text with
  | case1 => simp
  | case2 rest ih => simpa using ih
  | case3 c rest _ ih =>
      rw [List.mem_cons, not_or]
      refine ⟨?_, ih⟩
      split
      · decide
      · rename_i other
        exact fun same => other same.symm

end Flowchart.Text

namespace Flowchart.Source

open Flowchart.Text

/-! ### The steps of cleaning -/

theorem length_afterDirective {text after : List Char} (found : afterDirective text = some after) :
    after.length + ([] : List Char).length < text.length := by
  simp only [afterDirective, Option.bind_eq_bind, Option.bind_eq_some_iff] at found
  obtain ⟨opened, opens, named, names, body, colon, ends⟩ := found
  have first := congrArg List.length (afterLiteral_eq_some.mp opens)
  have second := congrArg List.length (afterLiteral_eq_some.mp names)
  have third := congrArg List.length (afterLiteral_eq_some.mp colon)
  have fourth := (afterFirst_isSuffix ends).length_le
  have openedBlanks := length_dropWhile isBlank opened
  have namedBlanks := length_dropWhile isBlank named
  rw [List.length_append] at first second third
  have mark : "%%\x7b".toList.length = 3 := by decide
  simp only [List.length_nil]
  omega

/-- A line break of markup is longer than the blank that it leaves. -/
theorem length_afterLineBreak {text after : List Char} (found : afterLineBreak text = some after) :
    after.length + [' '].length < text.length := by
  simp only [afterLineBreak, Option.bind_eq_bind, Option.bind_eq_some_iff] at found
  obtain ⟨rest, opens, closes⟩ := found
  have first := length_afterCaseless opens
  have blanks := length_dropWhile isBlank rest
  have mark : "<br".toList.length = 3 := by decide
  rw [List.length_singleton]
  split at closes
  case h_1 left starts =>
    rw [starts, List.length_cons, List.length_cons] at blanks
    cases closes
    omega
  case h_2 left starts =>
    rw [starts, List.length_cons] at blanks
    cases closes
    omega
  case h_3 => cases closes

/-- An opening fence is not put in, and where none is taken away there was none. -/
theorem length_dropOpeningFence (text : List Char) :
    (dropOpeningFence text).length ≤ text.length ∧
      ((dropOpeningFence text).length = text.length →
        afterLiteral fenceMark (trimLeft text) = none) := by
  rw [dropOpeningFence]
  cases opens : afterLiteral fenceMark (trimLeft text) with
  | none => exact ⟨Nat.le_refl _, fun _ => rfl⟩
  | some rest =>
      have mark : fenceMark.length = 3 := by decide
      have split := congrArg List.length (afterLiteral_eq_some.mp opens)
      have blanks : (trimLeft text).length ≤ text.length := length_dropWhile isBlank text
      have name : ((afterCaseless foldLetterDotted "mermaid".toList rest).getD rest).length ≤
          rest.length := by
        cases named : afterCaseless foldLetterDotted "mermaid".toList rest with
        | none => exact Nat.le_refl _
        | some left =>
            have bound := length_afterCaseless named
            rw [Option.getD_some]
            omega
      have gap := length_dropWhile isInlineBlank
        ((afterCaseless foldLetterDotted "mermaid".toList rest).getD rest)
      have shorter : ∀ left : List Char, left.length ≤ rest.length → left.length < text.length := by
        intro left bound
        rw [List.length_append] at split
        omega
      dsimp only
      split
      case h_1 left ends =>
        rw [skipInline] at ends
        rw [ends, List.length_cons] at gap
        have bound := shorter left (by omega)
        exact ⟨Nat.le_of_lt bound, fun same => absurd same (Nat.ne_of_lt bound)⟩
      case h_2 =>
        have bound := shorter _ (Nat.le_trans gap name)
        exact ⟨Nat.le_of_lt bound, fun same => absurd same (Nat.ne_of_lt bound)⟩

/-- The same holds of a closing fence. -/
theorem length_dropClosingFence (text : List Char) :
    (dropClosingFence text).length ≤ text.length ∧
      ((dropClosingFence text).length = text.length →
        afterLiteral fenceMark (trimRight text).reverse = none) := by
  rw [dropClosingFence]
  cases closes : afterLiteral fenceMark (trimRight text).reverse with
  | none => exact ⟨Nat.le_refl _, fun _ => rfl⟩
  | some rest =>
      have mark : fenceMark.length = 3 := by decide
      have whole := congrArg List.length (afterLiteral_eq_some.mp closes)
      have blanks := (trimRight_isPrefix text).length_le
      rw [List.length_reverse, List.length_append] at whole
      have shorter : ∀ left : List Char, left.length ≤ rest.length →
          left.reverse.length < text.length := by
        intro left bound
        rw [List.length_reverse]
        omega
      split
      case h_1 same => cases same
      case h_2 before same =>
        cases same
        have bound := shorter before (by simp)
        exact ⟨Nat.le_of_lt bound, fun same => absurd same (Nat.ne_of_lt bound)⟩
      case h_3 before _ same =>
        cases same
        have bound := shorter rest (Nat.le_refl _)
        exact ⟨Nat.le_of_lt bound, fun same => absurd same (Nat.ne_of_lt bound)⟩

theorem trim_isInfix (text : List Char) : trim text <:+: text :=
  (trimRight_isPrefix (trimLeft text)).isInfix.trans (List.dropWhile_suffix isBlank).isInfix

/-! ### Sources without anything to clean -/

/-- Nothing is cut out of a text: no fence stands at its ends, and no directive and no line-break
tag in it. -/
structure Uncut (text : List Char) : Prop where
  opening : afterLiteral fenceMark (trimLeft text) = none
  closing : afterLiteral fenceMark (trimRight text).reverse = none
  directives : Absent afterDirective text
  breaks : Absent afterLineBreak text

/-- Nothing of a text is taken away before it is trimmed: no fence stands at its ends, and no
directive, no line-break tag and no carriage return in it. -/
structure Untouched (text : List Char) : Prop where
  opening : afterLiteral fenceMark (trimLeft text) = none
  closing : afterLiteral fenceMark (trimRight text).reverse = none
  directives : Absent afterDirective text
  breaks : Absent afterLineBreak text
  lineEnds : '\r' ∉ text

/-- A text is left alone exactly if there is nothing to cut and no carriage return in it. -/
theorem untouched_iff {text : List Char} : Untouched text ↔ Uncut text ∧ '\r' ∉ text :=
  ⟨fun untouched => ⟨⟨untouched.opening, untouched.closing, untouched.directives,
    untouched.breaks⟩, untouched.lineEnds⟩,
    fun ⟨uncut, lineEnds⟩ => ⟨uncut.opening, uncut.closing, uncut.directives, uncut.breaks,
      lineEnds⟩⟩

/-- A text of which nothing is cut out gets uniform line ends and is trimmed. -/
theorem Uncut.cleanChars_eq {text : List Char} (uncut : Uncut text) :
    cleanChars text = trim (normalizeLineEnds text) := by
  have opened : dropOpeningFence text = text := by
    rw [dropOpeningFence, uncut.opening]
  have closed : dropClosingFence text = text := by
    rw [dropClosingFence, uncut.closing]
  have breaks : breaksToSpaces text = text := replaceAll_of_absent uncut.breaks
  rw [cleanChars, opened, closed]
  simp only [replaceAll_of_absent uncut.directives, breaks]

/-- A text of which nothing is taken away is only trimmed. -/
theorem cleanChars_of_untouched {text : List Char} (untouched : Untouched text) :
    cleanChars text = trim text := by
  obtain ⟨uncut, lineEnds⟩ := untouched_iff.mp untouched
  rw [uncut.cleanChars_eq, normalizeLineEnds_of_notMem lineEnds]

/-- Cleaning makes no text longer, and keeps the length only of a text of which nothing is cut out
and nothing trimmed away. -/
theorem length_cleanChars (text : List Char) :
    (cleanChars text).length ≤ text.length ∧
      ((cleanChars text).length = text.length →
        Uncut text ∧ trim (normalizeLineEnds text) = normalizeLineEnds text) := by
  have opening := length_dropOpeningFence text
  have closing := length_dropClosingFence (dropOpeningFence text)
  have directives := @length_replaceAll afterDirective [] @length_afterDirective
    (dropClosingFence (dropOpeningFence text))
  have breaks := @length_replaceAll afterLineBreak [' '] @length_afterLineBreak
    (replaceAll afterDirective [] (dropClosingFence (dropOpeningFence text)))
  have lineEnds := length_normalizeLineEnds (breaksToSpaces
    (replaceAll afterDirective [] (dropClosingFence (dropOpeningFence text))))
  have ends := length_trim (normalizeLineEnds (breaksToSpaces
    (replaceAll afterDirective [] (dropClosingFence (dropOpeningFence text)))))
  have whole : (cleanChars text).length = (trim (normalizeLineEnds (breaksToSpaces (replaceAll
      afterDirective [] (dropClosingFence (dropOpeningFence text)))))).length := rfl
  rw [breaksToSpaces] at whole lineEnds ends
  refine ⟨by omega, fun same => ?_⟩
  -- All intermediate texts are as long as the text, since none is longer than the one before.
  have noOpening := opening.2 (by omega)
  have noClosing := closing.2 (by omega)
  have noDirective := directives.2 (by omega)
  have noBreak := breaks.2 (by omega)
  have opened : dropOpeningFence text = text := by rw [dropOpeningFence, noOpening]
  rw [opened] at noClosing
  have closed : dropClosingFence text = text := by rw [dropClosingFence, noClosing]
  rw [opened, closed] at noDirective
  have plain : replaceAll afterDirective [] text = text := replaceAll_of_absent noDirective
  rw [opened, closed, plain] at noBreak
  have uncut : Uncut text := ⟨noOpening, noClosing, noDirective, noBreak⟩
  rw [uncut.cleanChars_eq] at same
  exact ⟨uncut, (trim_isInfix _).eq_of_length_le
    (by rw [same]; exact length_normalizeLineEnds text)⟩

/-- Of a text that cleaning leaves alone, no step takes anything away. -/
theorem untouched_of_cleanChars {text : List Char} (same : cleanChars text = text) :
    Untouched text ∧ trim text = text := by
  obtain ⟨uncut, full⟩ := (length_cleanChars text).2 (congrArg List.length same)
  have uniform : normalizeLineEnds text = text :=
    full.symm.trans (uncut.cleanChars_eq.symm.trans same)
  have noReturn : '\r' ∉ text := by
    have absent := notMem_normalizeLineEnds text
    rwa [uniform] at absent
  rw [uniform] at full
  exact ⟨untouched_iff.mpr ⟨uncut, noReturn⟩, full⟩

end Flowchart.Source
