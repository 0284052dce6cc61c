import Flowchart.Proofs.Source.Untouched

/-!
A line put in between the lines of a source that cleaning leaves alone.

Fences, directives and line-break tags are looked for in the whole text, across line ends. The new
line cannot give rise to one if it holds none of the characters they start with, does not end a
directive that another line opens, and starts with a letter that none of them goes on with.

Main definitions: `Unmarked`, `Insertable`. Main statement: `trimmedLines_insert`.
-/

namespace Flowchart.Text

/-! ### Texts that go on with another line -/

/-- A text that is empty or starts with a line end. -/
def StartsLine (text : List Char) : Prop :=
  ∀ c ∈ text.head?, c = '\n'

theorem startsLine_nil : StartsLine [] := by
  intro c first
  cases first

theorem startsLine_cons (text : List Char) : StartsLine ('\n' :: text) := by
  intro c first
  cases first
  rfl

section Lines

variable {literal rest : List Char}

/-- A literal that holds no line end is looked for in the line before one. -/
theorem afterCaseless_append {fold : Char → Char} (starts : StartsLine rest)
    (whole : fold '\n' ∉ literal) (text : List Char) :
    afterCaseless fold literal (text ++ rest) =
      (afterCaseless fold literal text).map (· ++ rest) := by
  induction literal generalizing text with
  | nil => rfl
  | cons expected literal ih =>
      have other : fold '\n' ≠ expected := fun same => whole (by simp [same])
      have tail := ih fun member => whole (List.mem_cons_of_mem expected member)
      cases text with
      | nil =>
          cases rest with
          | nil => rfl
          | cons c rest =>
              have isEnd : c = '\n' := starts c rfl
              subst isEnd
              exact if_neg other
      | cons c text =>
          rw [List.cons_append, afterCaseless, afterCaseless]
          split
          · exact tail text
          · rfl

/-- A literal on one line is found whatever lines follow. -/
theorem afterLiteral_append_line (starts : StartsLine rest) (whole : '\n' ∉ literal)
    (text : List Char) :
    afterLiteral literal (text ++ rest) = (afterLiteral literal text).map (· ++ rest) := by
  rw [afterLiteral_eq, afterLiteral_eq]
  exact afterCaseless_append starts whole text

end Lines

/-! ### Occurrences around a new line -/

section Insert

variable {occurrence other : List Char → Option (List Char)} {line rest : List Char}

/-- Nothing occurs in two texts one after the other, if none of the places in the first begins an
occurrence that goes on into the second. -/
theorem absent_append
    (onward : ∀ c text, other (c :: text) = none → occurrence (c :: (text ++ rest)) = none)
    (first : Absent other line) (second : Absent occurrence rest) :
    Absent occurrence (line ++ rest) := by
  induction line with
  | nil => exact second
  | cons c line ih => exact ⟨onward c line first.1, ih first.2⟩

theorem absent_of_append {text : List Char} (absent : Absent occurrence (text ++ rest)) :
    Absent occurrence rest := by
  induction text with
  | nil => exact absent
  | cons c text ih => exact ih absent.2

/-- Nothing occurs after a line has been put in, if nothing did before and nothing begins in the
line. -/
theorem absent_insert (text : List Char) (newline : ∀ more, occurrence ('\n' :: more) = none)
    (unseen : ∀ text, occurrence (text ++ rest) = none →
      occurrence (text ++ '\n' :: (line ++ rest)) = none)
    (absent : Absent occurrence (text ++ rest)) (inside : Absent occurrence (line ++ rest)) :
    Absent occurrence (text ++ '\n' :: (line ++ rest)) := by
  induction text with
  | nil => exact ⟨newline _, inside⟩
  | cons c text ih => exact ⟨unseen (c :: text) absent.1, ih absent.2⟩

end Insert

section Literals

variable {literal line rest : List Char}

/-- A literal is read nowhere in a text exactly if it is no part of the text. -/
theorem absent_iff_not_isInfix (visible : literal ≠ []) {text : List Char} :
    Absent (afterLiteral literal) text ↔ ¬ literal <:+: text := by
  have atFront : ∀ text, afterLiteral literal text = none ↔
      ∀ part, part <+: text → ¬part = literal := by
    intro text
    rw [afterLiteral_eq_none]
    exact ⟨fun other part starts same => other (same ▸ starts),
      fun free starts => free _ starts rfl⟩
  rw [@absent_iff _ (fun part => part = literal) (Ne.symm visible) atFront]
  exact ⟨fun free inside => free _ inside rfl, fun other part inside same => other (same ▸ inside)⟩

/-- A literal is not found exactly where it is absent. -/
theorem afterFirst_eq_none_iff (visible : literal ≠ []) {text : List Char} :
    afterFirst literal text = none ↔ Absent (afterLiteral literal) text := by
  induction text with
  | nil =>
      obtain ⟨c, literal, rfl⟩ := List.exists_cons_of_ne_nil visible
      exact iff_of_true rfl trivial
  | cons c text ih =>
      rw [afterFirst, Absent, ← ih]
      cases afterLiteral literal (c :: text) <;> simp

/-- A literal that holds no line end does not occur after a line without it has been put in. -/
theorem absent_literal_insert (visible : literal ≠ []) (whole : '\n' ∉ literal)
    (starts : StartsLine rest) {text : List Char}
    (absent : Absent (afterLiteral literal) (text ++ rest))
    (free : Absent (afterLiteral literal) line) :
    Absent (afterLiteral literal) (text ++ '\n' :: (line ++ rest)) := by
  have newline : ∀ more, afterLiteral literal ('\n' :: more) = none := by
    intro more
    have read := @afterLiteral_append_line literal ('\n' :: more) (startsLine_cons more) whole []
    obtain ⟨c, literal, rfl⟩ := List.exists_cons_of_ne_nil visible
    exact read
  apply absent_insert text newline
  · intro text unread
    rw [afterLiteral_append_line starts whole, Option.map_eq_none_iff] at unread
    rw [afterLiteral_append_line (startsLine_cons _) whole, unread]
    rfl
  · exact absent
  · apply absent_append _ free (absent_of_append absent)
    intro c text unread
    rw [← List.cons_append, afterLiteral_append_line starts whole, unread]
    rfl

end Literals

end Flowchart.Text

namespace Flowchart.Source

open Flowchart.Text

/-! ### Lines that can be put in -/

/-- A line in which nothing begins that cleaning looks for. -/
structure Unmarked (line : List Char) : Prop where
  fenceless : '\x60' ∉ line
  tagless : '<' ∉ line
  returnless : '\r' ∉ line
  unopened : ¬ "%%\x7b".toList <:+: line

/-- An unmarked line that neither ends a directive nor goes on with one or with a tag. -/
structure Insertable (line : List Char) : Prop extends Unmarked line where
  whole : '\n' ∉ line
  unclosed : ¬ "\x7d%%".toList <:+: line
  leading : ∃ c more, line.dropWhile isBlank = c :: more ∧ c ∉ "i:/>".toList

section Insert

variable {line rest : List Char}

theorem Insertable.dropWhile_line (insertable : Insertable line) :
    ∃ c more, ('\n' :: (line ++ rest)).dropWhile isBlank = c :: more ∧ c ∉ "i:/>".toList := by
  obtain ⟨c, more, starts, other⟩ := insertable.leading
  have blank : isBlank '\n' = true := by decide
  refine ⟨c, more ++ rest, ?_, other⟩
  rw [List.dropWhile_cons_of_pos blank, List.dropWhile_append, starts]
  rfl

/-- What stands after blanks before a new line: nothing but the line, or the same as before. -/
theorem dropWhile_append_line (text : List Char) (rest : List Char) :
    (text.dropWhile isBlank = [] ∧ (text ++ rest).dropWhile isBlank = rest.dropWhile isBlank) ∨
      ∃ c more, text.dropWhile isBlank = c :: more ∧
        (text ++ rest).dropWhile isBlank = c :: more ++ rest := by
  rw [List.dropWhile_append]
  cases starts : text.dropWhile isBlank with
  | nil => exact Or.inl ⟨rfl, rfl⟩
  | cons c more => exact Or.inr ⟨c, more, rfl, rfl⟩

/-- A word of a directive that is read after blanks is read before the new line, and without that
line as well. -/
theorem Insertable.afterBlanks (insertable : Insertable line) (starts : StartsLine rest)
    {expected : Char} {literal : List Char} (listed : expected ∈ "i:/>".toList)
    (whole : '\n' ∉ expected :: literal) {text left : List Char}
    (read : afterLiteral (expected :: literal)
      ((text ++ '\n' :: (line ++ rest)).dropWhile isBlank) = some left) :
    ∃ front, left = front ++ '\n' :: (line ++ rest) ∧
      afterLiteral (expected :: literal) ((text ++ rest).dropWhile isBlank) =
        some (front ++ rest) := by
  rcases dropWhile_append_line text ('\n' :: (line ++ rest)) with
    ⟨_, skipped⟩ | ⟨c, more, skips, skipped⟩
  · obtain ⟨c, more, leads, other⟩ := @Insertable.dropWhile_line _ rest insertable
    have differs : c ≠ expected := by
      rintro rfl
      exact other listed
    rw [skipped, leads, afterLiteral, if_neg differs] at read
    cases read
  · have skippedRest : (text ++ rest).dropWhile isBlank = c :: more ++ rest := by
      rw [List.dropWhile_append, skips]
      rfl
    rw [skipped, afterLiteral_append_line (startsLine_cons _) whole, Option.map_eq_some_iff] at read
    obtain ⟨front, here, same⟩ := read
    refine ⟨front, same.symm, ?_⟩
    rw [skippedRest, afterLiteral_append_line starts whole, here]
    rfl

/-- No directive is read after a new line that was not read before. -/
theorem Insertable.afterDirective (insertable : Insertable line) (starts : StartsLine rest)
    {text : List Char} (unread : afterDirective (text ++ rest) = none) :
    Source.afterDirective (text ++ '\n' :: (line ++ rest)) = none := by
  cases read : Source.afterDirective (text ++ '\n' :: (line ++ rest)) with
  | none => rfl
  | some left =>
      exfalso
      simp only [Source.afterDirective, Option.bind_eq_bind, Option.bind_eq_some_iff] at read
      obtain ⟨opened, opens, named, names, body, colon, ends⟩ := read
      rw [afterLiteral_append_line (startsLine_cons _) (by decide), Option.map_eq_some_iff] at opens
      obtain ⟨first, opens, rfl⟩ := opens
      obtain ⟨second, rfl, readName⟩ :=
        @Insertable.afterBlanks _ _ insertable starts 'i' "nit".toList (by decide) (by decide) _ _
          names
      obtain ⟨third, rfl, readColon⟩ :=
        @Insertable.afterBlanks _ _ insertable starts ':' [] (by decide) (by decide) _ _ colon
      have openedRest : afterLiteral "%%\x7b".toList (text ++ rest) = some (first ++ rest) := by
        rw [afterLiteral_append_line starts (by decide), opens]
        rfl
      have namedRest : afterLiteral "init".toList ((first ++ rest).dropWhile isBlank) =
          some (second ++ rest) := readName
      have unclosed : afterFirst "\x7d%%".toList (third ++ rest) = none := by
        simpa only [Source.afterDirective, Option.bind_eq_bind, openedRest, Option.bind_some,
          namedRest, readColon] using unread
      have visible : "\x7d%%".toList ≠ [] := by decide
      have absent := absent_literal_insert visible (by decide) starts
        ((afterFirst_eq_none_iff visible).mp unclosed)
        ((absent_iff_not_isInfix visible).mpr insertable.unclosed)
      rw [(afterFirst_eq_none_iff visible).mpr absent] at ends
      cases ends

/-- What is left after the end of a line-break tag. -/
def afterBreakEnd : List Char → Option (List Char)
  | '/' :: '>' :: left => some left
  | '>' :: left => some left
  | _ => none

theorem afterLineBreak_eq (text : List Char) :
    Text.afterLineBreak text = (afterCaseless foldLetterDotted "<br".toList text).bind
      fun opened => afterBreakEnd (opened.dropWhile isBlank) :=
  rfl

theorem afterBreakEnd_of_ne {c : Char} (other : c ∉ "i:/>".toList) (more : List Char) :
    afterBreakEnd (c :: more) = none := by
  unfold afterBreakEnd
  split
  · rename_i same
    exact absurd (by rw [(List.cons.inj same).1]; decide) other
  · rename_i same
    exact absurd (by rw [(List.cons.inj same).1]; decide) other
  · rfl

/-- The end of a tag stands on one line. -/
theorem afterBreakEnd_append_line {c : Char} {more : List Char} (text : List Char)
    (unread : afterBreakEnd (c :: more ++ rest) = none) :
    afterBreakEnd (c :: more ++ '\n' :: text) = none := by
  by_cases head : c = '>'
  · subst head
    cases unread
  · by_cases slash : c = '/'
    · subst slash
      cases more with
      | nil => rfl
      | cons d more =>
          by_cases closing : d = '>'
          · subst closing
            cases unread
          · simp [afterBreakEnd, closing]
    · simp [afterBreakEnd, head, slash]

/-- No line-break tag is read after a new line that was not read before. -/
theorem Insertable.afterLineBreak (insertable : Insertable line) (starts : StartsLine rest)
    {text : List Char} (unread : afterLineBreak (text ++ rest) = none) :
    Text.afterLineBreak (text ++ '\n' :: (line ++ rest)) = none := by
  have whole : foldLetterDotted '\n' ∉ "<br".toList := by decide
  rw [afterLineBreak_eq, afterCaseless_append starts whole] at unread
  rw [afterLineBreak_eq, afterCaseless_append (startsLine_cons _) whole]
  cases opens : afterCaseless foldLetterDotted "<br".toList text with
  | none => rfl
  | some opened =>
      rw [opens, Option.map_some, Option.bind_some] at unread
      rw [Option.map_some, Option.bind_some]
      rcases dropWhile_append_line opened ('\n' :: (line ++ rest)) with
        ⟨_, skipped⟩ | ⟨c, more, skips, skipped⟩
      · obtain ⟨c, more, leads, other⟩ := @Insertable.dropWhile_line _ rest insertable
        rw [skipped, leads]
        exact afterBreakEnd_of_ne other more
      · have skippedRest : (opened ++ rest).dropWhile isBlank = c :: more ++ rest := by
          rw [List.dropWhile_append, skips]
          rfl
        rw [skippedRest] at unread
        rw [skipped]
        exact afterBreakEnd_append_line (line ++ rest) unread

/-- Only an angle counts as one. -/
theorem foldLetterDotted_ne_angle {c : Char} (other : c ≠ '<') : foldLetterDotted c ≠ '<' := by
  rw [foldLetterDotted, foldLetter]
  split
  · decide
  · split
    case isTrue ascii =>
      have checked : ∀ code : Fin 128, Char.ofNat code ≠ '<' →
          (Char.ofNat code).toLower ≠ '<' := by
        decide +kernel
      exact forall_ascii (fun c => c ≠ '<' → c.toLower ≠ '<') checked ascii other
    case isFalse =>
      split
      · decide
      · split
        · decide
        · exact other

/-- Nothing that cleaning looks for begins in the line. -/
theorem Insertable.absent (insertable : Insertable line) (starts : StartsLine rest)
    (directives : Absent Source.afterDirective rest) (breaks : Absent Text.afterLineBreak rest) :
    Absent Source.afterDirective (line ++ rest) ∧ Absent Text.afterLineBreak (line ++ rest) := by
  constructor
  · apply absent_append _ ((absent_iff_not_isInfix (by decide)).mpr insertable.unopened) directives
    intro c text unread
    rw [Source.afterDirective, ← List.cons_append, afterLiteral_append_line starts (by decide),
      unread]
    rfl
  · have angles := insertable.tagless
    clear insertable
    induction line with
    | nil => exact breaks
    | cons c line ih =>
        rw [List.mem_cons, not_or] at angles
        exact ⟨Plain.afterLineBreak_of_ne (foldLetterDotted_ne_angle (Ne.symm angles.1)) _,
          ih angles.2⟩

end Insert

/-! ### Lines -/

theorem intercalate_append {before : List (List Char)} (nonempty : before ≠ [])
    (after : List (List Char)) :
    ['\n'].intercalate (before ++ after) =
      ['\n'].intercalate before ++ after.flatMap fun line => '\n' :: line := by
  have onward : ∀ first : List Char, ['\n'].intercalate (first :: after) =
      first ++ after.flatMap fun line => '\n' :: line := by
    induction after with
    | nil => simp
    | cons next after ih =>
        intro first
        rw [List.intercalate_cons_cons, ih, List.flatMap_cons]
        simp
  induction before with
  | nil => exact absurd rfl nonempty
  | cons first before ih =>
      cases before with
      | nil => simpa using onward first
      | cons next before =>
          have tail := ih (List.cons_ne_nil next before)
          rw [List.cons_append] at tail
          rw [List.cons_append, List.cons_append, List.intercalate_cons_cons,
            List.intercalate_cons_cons, tail]
          simp

/-- A text is its lines, joined by line ends. -/
theorem intercalate_splitLines (text : List Char) :
    ['\n'].intercalate (splitLines text) = text := by
  induction text with
  | nil => rfl
  | cons c text ih =>
      rw [splitLines] at ih
      rw [splitLines, cutLines]
      by_cases lineEnd : c = '\n'
      · subst lineEnd
        simp only [if_true]
        rw [List.intercalate_cons_cons, ih]
        rfl
      · simp only [lineEnd, if_false]
        cases later : (cutLines text).2 with
        | nil =>
            rw [later] at ih
            simpa using congrArg (c :: ·) ih
        | cons next lines =>
            rw [later, List.intercalate_cons_cons] at ih
            rw [List.intercalate_cons_cons]
            simpa using congrArg (c :: ·) ih

theorem whole_splitLines (text : List Char) : ∀ line ∈ splitLines text, '\n' ∉ line := by
  induction text with
  | nil => simp [splitLines, cutLines]
  | cons c text ih =>
      rw [splitLines] at ih
      obtain ⟨first, others⟩ := List.forall_mem_cons.mp ih
      rw [splitLines, cutLines]
      by_cases lineEnd : c = '\n'
      · simp only [lineEnd, if_true]
        exact List.forall_mem_cons.mpr ⟨by simp, ih⟩
      · have here : '\n' ∉ c :: (cutLines text).1 := by
          rw [List.mem_cons, not_or]
          exact ⟨Ne.symm lineEnd, first⟩
        simp only [lineEnd, if_false]
        exact List.forall_mem_cons.mpr ⟨here, others⟩

/-! ### Sources -/

section Sources

variable {text front rest line : List Char}

/-- Nothing is taken away after a line has been put in behind a front that starts with something
visible, provided that no fence stands at the end. -/
theorem Insertable.untouched (insertable : Insertable line) (starts : StartsLine rest)
    (untouched : Untouched (front ++ rest)) (visible : Stops isBlank front) (nonempty : front ≠ [])
    (closing :
      afterLiteral fenceMark (trimRight (front ++ '\n' :: (line ++ rest))).reverse = none) :
    Untouched (front ++ '\n' :: (line ++ rest)) where
  opening := by
    have opening := untouched.opening
    rw [trimLeft, dropWhile_of_stops (stops_append nonempty visible _),
      afterLiteral_append_line starts (by decide), Option.map_eq_none_iff] at opening
    rw [trimLeft, dropWhile_of_stops (stops_append nonempty visible _),
      afterLiteral_append_line (startsLine_cons _) (by decide), opening]
    rfl
  closing := closing
  directives := by
    have inside := (insertable.absent starts (absent_of_append untouched.directives)
      (absent_of_append untouched.breaks)).1
    exact absent_insert front (fun _ => rfl) (fun _ => insertable.afterDirective starts)
      untouched.directives inside
  breaks := by
    have inside := (insertable.absent starts (absent_of_append untouched.directives)
      (absent_of_append untouched.breaks)).2
    exact absent_insert front (fun _ => Plain.afterLineBreak_of_ne (by decide) _)
      (fun _ => insertable.afterLineBreak starts) untouched.breaks inside
  lineEnds := by
    have free := untouched.lineEnds
    rw [List.mem_append, not_or] at free
    simp [free.1, free.2, insertable.returnless]

end Sources

/-! ### The end of a source -/

theorem trimRight_append_blank {blanks : List Char} (blank : ∀ c ∈ blanks, isBlank c = true)
    (text : List Char) : trimRight (text ++ blanks) = trimRight text := by
  have back : ∀ c ∈ blanks.reverse, isBlank c = true :=
    fun c member => blank c (List.mem_reverse.mp member)
  rw [trimRight, List.reverse_append, List.dropWhile_append_of_pos back, trimRight]

/-- A text is what is left without the blanks at its end, and these. -/
theorem trimRight_append_rest (text : List Char) :
    ∃ blanks, text = trimRight text ++ blanks ∧ ∀ c ∈ blanks, isBlank c = true := by
  apply Exists.intro (text.reverse.takeWhile isBlank).reverse
  constructor
  · rw [trimRight, ← List.reverse_append, List.takeWhile_append_dropWhile, List.reverse_reverse]
  · intro c member
    exact List.mem_takeWhile_imp (List.mem_reverse.mp member)

/-- The blanks at the end of a line do not count. -/
theorem trim_trimRight (text : List Char) : trim (trimRight text) = trim text := by
  obtain ⟨blanks, split, blank⟩ := trimRight_append_rest text
  have whole : trimLeft text = trimLeft (trimRight text ++ blanks) := congrArg trimLeft split
  rw [trim, trim, whole, trimLeft, trimLeft, List.dropWhile_append]
  cases starts : (trimRight text).dropWhile isBlank with
  | nil =>
      rw [List.dropWhile_eq_nil_iff.mpr blank]
      rfl
  | cons c more => exact (trimRight_append_blank blank (c :: more)).symm

/-- A literal is looked for backwards in the last line of a text. -/
theorem afterLiteral_reverse_line {literal : List Char} (whole : '\n' ∉ literal)
    (front line : List Char) :
    afterLiteral literal (front ++ '\n' :: line).reverse =
      (afterLiteral literal line.reverse).map (· ++ '\n' :: front.reverse) := by
  have spelled : (front ++ '\n' :: line).reverse = line.reverse ++ '\n' :: front.reverse := by
    simp
  rw [spelled]
  exact afterLiteral_append_line (startsLine_cons _) whole line.reverse

/-- With something visible on the last line, trimming on the right stays on it. -/
theorem trimRight_append_line {line : List Char} (visible : line.reverse.dropWhile isBlank ≠ [])
    (front : List Char) : trimRight (front ++ '\n' :: line) = front ++ '\n' :: trimRight line := by
  have spelled : (front ++ '\n' :: line).reverse = line.reverse ++ '\n' :: front.reverse := by
    simp
  rw [trimRight, spelled, dropWhile_append_of_ne_nil visible, trimRight]
  simp

theorem intercalate_ne_nil {lines : List (List Char)} (whole : ∀ line ∈ lines, '\n' ∉ line)
    (named : ∃ line ∈ lines, line ≠ []) : ['\n'].intercalate lines ≠ [] := by
  obtain ⟨line, listed, visible⟩ := named
  intro empty
  have found := splitLines_intercalate (List.ne_nil_of_mem listed) whole
  rw [empty] at found
  rw [← found] at listed
  exact visible (List.mem_singleton.mp listed)

theorem stops_of_append {belongs : Char → Bool} {front rest : List Char} (nonempty : front ≠ [])
    (stops : Stops belongs (front ++ rest)) : Stops belongs front := by
  obtain ⟨c, front, rfl⟩ := List.exists_cons_of_ne_nil nonempty
  exact stops

section Ends

variable {front line : List Char}

/-- A line that is put in at the end of a source loses the blanks at its end. -/
theorem Insertable.cleanChars_last (insertable : Insertable line) (untouched : Untouched front)
    (visible : Stops isBlank front) (nonempty : front ≠ []) :
    cleanChars (front ++ '\n' :: line) = front ++ '\n' :: trimRight line := by
  have remains : line.reverse.dropWhile isBlank ≠ [] := by
    obtain ⟨c, more, starts, _⟩ := insertable.leading
    intro blank
    have allBlank : ∀ c ∈ line, isBlank c = true := fun c member =>
      List.dropWhile_eq_nil_iff.mp blank c (List.mem_reverse.mpr member)
    rw [List.dropWhile_eq_nil_iff.mpr allBlank] at starts
    cases starts
  have right := trimRight_append_line remains front
  have closing : afterLiteral fenceMark (trimRight (front ++ '\n' :: line)).reverse = none := by
    have free : '\x60' ∉ (trimRight line).reverse := by
      intro member
      exact insertable.fenceless ((trimRight_isPrefix line).subset (List.mem_reverse.mp member))
    rw [right, afterLiteral_reverse_line (by decide), Plain.afterLiteral_fenceMark free]
    rfl
  have touched := @Insertable.untouched front [] line insertable startsLine_nil
    (by rwa [List.append_nil]) visible nonempty (by rwa [List.append_nil])
  rw [List.append_nil] at touched
  rw [cleanChars_of_untouched touched, trim, trimLeft,
    dropWhile_of_stops (stops_append nonempty visible _), right]

/-- A line that is put in before another one is kept as it is. -/
theorem Insertable.cleanChars_inner (insertable : Insertable line) {rest : List Char}
    (untouched : Untouched (front ++ '\n' :: rest)) (trimmed : IsTrimmed (front ++ '\n' :: rest))
    (nonempty : front ≠ []) :
    cleanChars (front ++ '\n' :: (line ++ '\n' :: rest)) =
      front ++ '\n' :: (line ++ '\n' :: rest) := by
  have spelled : front ++ '\n' :: (line ++ '\n' :: rest) =
      (front ++ '\n' :: line) ++ '\n' :: rest := by
    simp
  have visible : Stops isBlank front := stops_of_append nonempty trimmed.first
  have last : Stops isBlank (front ++ '\n' :: (line ++ '\n' :: rest)).reverse := by
    have ends := trimmed.last
    rw [List.reverse_append] at ends
    have tail := stops_of_append (by simp) ends
    rw [spelled, List.reverse_append]
    exact stops_append (by simp) tail _
  have whole : trimRight (front ++ '\n' :: (line ++ '\n' :: rest)) =
      front ++ '\n' :: (line ++ '\n' :: rest) := by
    rw [trimRight, dropWhile_of_stops last, List.reverse_reverse]
  have closing : afterLiteral fenceMark
      (trimRight (front ++ '\n' :: (line ++ '\n' :: rest))).reverse = none := by
    have before := untouched.closing
    rw [trimRight, dropWhile_of_stops trimmed.last, List.reverse_reverse,
      afterLiteral_reverse_line (by decide), Option.map_eq_none_iff] at before
    rw [whole, spelled, afterLiteral_reverse_line (by decide), before]
    rfl
  have touched := insertable.untouched (startsLine_cons rest) untouched visible nonempty closing
  rw [cleanChars_of_untouched touched, trim, trimLeft,
    dropWhile_of_stops (stops_append nonempty visible _), whole]

end Ends

/-- The lines of a text that is put together from lines are these lines, trimmed. -/
theorem trimmedLines_intercalate {lines : List (List Char)} (nonempty : lines ≠ [])
    (whole : ∀ line ∈ lines, '\n' ∉ line) :
    trimmedLines (['\n'].intercalate lines) = lines.map trim := by
  rw [trimmedLines, splitLines_intercalate nonempty whole]

/-- The lines of a cleaned source with a line put in: the lines of the source and the new one. -/
theorem trimmedLines_insert {text line : List Char} {before after : List (List Char)}
    (same : cleanChars text = text) (lines : splitLines text = before ++ after)
    (named : ∃ first ∈ before, first ≠ []) (insertable : Insertable line) :
    trimmedLines (cleanChars (['\n'].intercalate (before ++ line :: after))) =
      (before ++ line :: after).map trim := by
  obtain ⟨untouched, trimmed⟩ := untouched_of_cleanChars same
  have nonempty : before ≠ [] := by
    obtain ⟨first, listed, _⟩ := named
    exact List.ne_nil_of_mem listed
  have whole : ∀ line ∈ before ++ after, '\n' ∉ line := by
    rw [← lines]
    exact whole_splitLines text
  obtain ⟨wholeBefore, wholeAfter⟩ := List.forall_mem_append.mp whole
  have visible := intercalate_ne_nil wholeBefore named
  have spelled := intercalate_splitLines text
  rw [lines, intercalate_append nonempty] at spelled
  have isTrimmed : IsTrimmed text := by
    apply isTrimmed_iff.mpr
    rw [← spelled] at trimmed ⊢
    exact ⟨by simp [visible], trimmed⟩
  rw [← spelled] at untouched isTrimmed
  cases after with
  | nil =>
      rw [List.flatMap_nil, List.append_nil] at untouched isTrimmed
      have cleaned := insertable.cleanChars_last untouched isTrimmed.first visible
      have shown := intercalate_append nonempty [trimRight line]
      have wholeLine : '\n' ∉ trimRight line :=
        fun member => insertable.whole ((trimRight_isPrefix line).subset member)
      have found := @trimmedLines_intercalate (before ++ [trimRight line]) (by simp)
        (List.forall_mem_append.mpr ⟨wholeBefore, by simpa using wholeLine⟩)
      rw [List.flatMap_singleton] at shown
      rw [intercalate_append nonempty, List.flatMap_singleton, cleaned, ← shown, found,
        List.map_append, List.map_append, List.map_singleton, List.map_singleton, trim_trimRight]
  | cons next after =>
      rw [List.flatMap_cons, List.cons_append] at untouched isTrimmed
      have cleaned := @Insertable.cleanChars_inner _ line insertable _ untouched isTrimmed visible
      have kept : cleanChars (['\n'].intercalate (before ++ line :: next :: after)) =
          ['\n'].intercalate (before ++ line :: next :: after) := by
        rw [intercalate_append nonempty]
        simpa using cleaned
      rw [kept]
      exact trimmedLines_intercalate (by simp)
        (List.forall_mem_append.mpr ⟨wholeBefore, List.forall_mem_cons.mpr
          ⟨insertable.whole, wholeAfter⟩⟩)

end Flowchart.Source
