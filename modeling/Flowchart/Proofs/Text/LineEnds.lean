import Flowchart.Proofs.Text.Replacing

/-!
Texts with other line ends.

What cleaning looks for is made of visible characters with blanks in between. So it occurs at the
same places of a text, whichever blanks its lines end with and whichever blanks stand behind it.

Main definition: `respell`. Main statements: `replaceAll_respell`, `normalizeLineEnds_respell`.
-/

namespace Flowchart.Text

/-- A text with a line end in the place of each line feed. -/
def withLineEnds (lineEnd text : List Char) : List Char :=
  text.flatMap fun c => if c = '\n' then lineEnd else [c]

/-- A text with a line end in the place of each line feed, and something behind it. -/
def respell (lineEnd tail text : List Char) : List Char :=
  withLineEnds lineEnd text ++ tail

/-- The line ends are blanks, at least one, and so is what stands behind the text. -/
structure BlankEnds (lineEnd tail : List Char) : Prop where
  nonempty : lineEnd ≠ []
  lineEnd : ∀ c ∈ lineEnd, isBlank c = true
  tail : ∀ c ∈ tail, isBlank c = true

section Lines

variable {lineEnd tail : List Char} {c : Char}

theorem withLineEnds_lineFeed (lineEnd text : List Char) :
    withLineEnds lineEnd ('\n' :: text) = lineEnd ++ withLineEnds lineEnd text := by
  rw [withLineEnds, List.flatMap_cons, if_pos rfl]
  rfl

theorem withLineEnds_cons (other : c ≠ '\n') (text : List Char) :
    withLineEnds lineEnd (c :: text) = c :: withLineEnds lineEnd text := by
  rw [withLineEnds, List.flatMap_cons, if_neg other]
  rfl

/-- Lines are given other ends one by one. -/
theorem withLineEnds_append (lineEnd front back : List Char) :
    withLineEnds lineEnd (front ++ back) =
      withLineEnds lineEnd front ++ withLineEnds lineEnd back :=
  List.flatMap_append

theorem withLineEnds_of_notMem {text : List Char} (whole : '\n' ∉ text) (lineEnd : List Char) :
    withLineEnds lineEnd text = text := by
  induction text with
  | nil => rfl
  | cons c text ih =>
      rw [List.mem_cons, not_or] at whole
      rw [withLineEnds_cons (Ne.symm whole.1), ih whole.2]

/-- Read backwards, a text has the reversed ends between its reversed lines. -/
theorem reverse_withLineEnds (lineEnd text : List Char) :
    (withLineEnds lineEnd text).reverse = withLineEnds lineEnd.reverse text.reverse := by
  rw [withLineEnds, withLineEnds, List.reverse_flatMap]
  congr 1
  funext c
  by_cases same : c = '\n' <;> simp [same]

theorem respell_nil : respell lineEnd tail [] = tail :=
  rfl

theorem respell_lineFeed (text : List Char) :
    respell lineEnd tail ('\n' :: text) = lineEnd ++ respell lineEnd tail text := by
  rw [respell, withLineEnds_lineFeed, List.append_assoc]
  rfl

theorem respell_cons (other : c ≠ '\n') (text : List Char) :
    respell lineEnd tail (c :: text) = c :: respell lineEnd tail text := by
  rw [respell, withLineEnds_cons other]
  rfl

/-- What stands before the first end of a line is left as it is. -/
theorem respell_append {front : List Char} (whole : '\n' ∉ front) (text : List Char) :
    respell lineEnd tail (front ++ text) = front ++ respell lineEnd tail text := by
  rw [respell, withLineEnds_append, withLineEnds_of_notMem whole, List.append_assoc]
  rfl

/-- With line feeds for line ends, only what stands behind the text is new. -/
theorem respell_of_lineFeed (tail text : List Char) : respell ['\n'] tail text = text ++ tail := by
  induction text with
  | nil => rfl
  | cons c text ih =>
      by_cases lineFeed : c = '\n'
      · rw [lineFeed, respell_lineFeed, ih]
        rfl
      · rw [respell_cons lineFeed, ih]
        rfl

end Lines

/-! ### Reading -/

section Reading

variable {lineEnd tail literal : List Char} {fold : Char → Char}

/-- A blank is not the first character of something visible, in whatever case. -/
theorem afterCaseless_of_blank (keeps : ∀ c, isBlank c = true → fold c = c) {c expected : Char}
    (visible : isBlank expected = false) (blank : isBlank c = true) (rest : List Char) :
    afterCaseless fold (expected :: literal) (c :: rest) = none := by
  apply afterCaseless_of_head
  rintro _ ⟨⟩ same
  rw [← same, keeps c blank, blank] at visible
  cases visible

/-- The end of a line begins with a blank. -/
theorem BlankEnds.head_lineEnd (ends : BlankEnds lineEnd tail) :
    ∃ c rest, lineEnd = c :: rest ∧ isBlank c = true := by
  obtain ⟨c, rest, rfl⟩ := List.exists_cons_of_ne_nil ends.nonempty
  exact ⟨c, rest, rfl, ends.lineEnd c List.mem_cons_self⟩

/-- Something visible is read from the front of a text whatever the line ends are. -/
theorem BlankEnds.afterCaseless_respell (ends : BlankEnds lineEnd tail)
    (keeps : ∀ c, isBlank c = true → fold c = c) (visible : ∀ c ∈ literal, isBlank c = false)
    (text : List Char) :
    afterCaseless fold literal (respell lineEnd tail text) =
      (afterCaseless fold literal text).map (respell lineEnd tail) := by
  induction literal generalizing text with
  | nil => rfl
  | cons expected literal ih =>
      obtain ⟨first, others⟩ := List.forall_mem_cons.mp visible
      cases text with
      | nil =>
          rw [respell_nil]
          cases tail with
          | nil => rfl
          | cons c tail =>
              exact afterCaseless_of_blank keeps first (ends.tail c List.mem_cons_self) tail
      | cons c text =>
          by_cases lineFeed : c = '\n'
          · subst lineFeed
            obtain ⟨d, rest, starts, blank⟩ := ends.head_lineEnd
            rw [respell_lineFeed, starts, List.cons_append,
              afterCaseless_of_blank keeps first blank,
              afterCaseless_of_blank keeps first (by decide)]
            rfl
          · rw [respell_cons lineFeed, afterCaseless, afterCaseless, ih others]
            split <;> rfl

/-- A literal without blanks is found at the front of a text whatever the ends of its lines are. -/
theorem BlankEnds.afterLiteral_respell (ends : BlankEnds lineEnd tail)
    (visible : ∀ c ∈ literal, isBlank c = false) (text : List Char) :
    afterLiteral literal (respell lineEnd tail text) =
      (afterLiteral literal text).map (respell lineEnd tail) := by
  rw [afterLiteral_eq, afterLiteral_eq]
  exact ends.afterCaseless_respell (fun _ _ => rfl) visible text

/-- Nothing is left of blanks, and anything else is left with its line ends. -/
theorem BlankEnds.dropWhile_respell (ends : BlankEnds lineEnd tail) (text : List Char) :
    (respell lineEnd tail text).dropWhile isBlank =
      if (text.dropWhile isBlank).isEmpty then []
      else respell lineEnd tail (text.dropWhile isBlank) := by
  induction text with
  | nil => simpa [respell_nil] using ends.tail
  | cons c text ih =>
      by_cases lineFeed : c = '\n'
      · subst lineFeed
        have blank : isBlank '\n' = true := by decide
        rw [respell_lineFeed, List.dropWhile_append_of_pos ends.lineEnd, ih,
          List.dropWhile_cons_of_pos blank]
      · rw [respell_cons lineFeed]
        cases blank : isBlank c with
        | true => rw [List.dropWhile_cons_of_pos blank, ih, List.dropWhile_cons_of_pos blank]
        | false =>
            rw [List.dropWhile_cons_of_neg (by simp [blank]),
              List.dropWhile_cons_of_neg (by simp [blank]), ← respell_cons lineFeed]
            rfl

/-- Something visible is read behind blanks whatever the line ends are. -/
theorem BlankEnds.afterLiteral_dropWhile (ends : BlankEnds lineEnd tail) (literal : List Char)
    (nonempty : literal ≠ []) (visible : ∀ c ∈ literal, isBlank c = false) (text : List Char) :
    afterLiteral literal ((respell lineEnd tail text).dropWhile isBlank) =
      (afterLiteral literal (text.dropWhile isBlank)).map (respell lineEnd tail) := by
  rw [ends.dropWhile_respell]
  split
  case isTrue empty =>
    obtain ⟨c, literal, rfl⟩ := List.exists_cons_of_ne_nil nonempty
    rw [List.isEmpty_iff.mp empty]
    rfl
  case isFalse => exact ends.afterLiteral_respell visible _

theorem BlankEnds.afterFirst_respell (ends : BlankEnds lineEnd tail) (nonempty : literal ≠ [])
    (visible : ∀ c ∈ literal, isBlank c = false) (text : List Char) :
    afterFirst literal (respell lineEnd tail text) =
      (afterFirst literal text).map (respell lineEnd tail) := by
  obtain ⟨expected, literal, rfl⟩ := List.exists_cons_of_ne_nil nonempty
  have apart : ∀ {blanks : List Char}, (∀ c ∈ blanks, isBlank c = true) → expected ∉ blanks := by
    intro blanks blank member
    have first := visible expected List.mem_cons_self
    rw [blank expected member] at first
    cases first
  induction text with
  | nil =>
      rw [respell_nil]
      have passed : afterFirst (expected :: literal) (tail ++ []) =
          afterFirst (expected :: literal) [] :=
        afterFirst_append (apart ends.tail) []
      rwa [List.append_nil] at passed
  | cons c text ih =>
      by_cases lineFeed : c = '\n'
      · have free : expected ∉ ['\n'] := apart (isBlank_of_all (by decide))
        have here : afterFirst (expected :: literal) ('\n' :: text) =
            afterFirst (expected :: literal) text :=
          afterFirst_append free text
        rw [lineFeed, respell_lineFeed, afterFirst_append (apart ends.lineEnd), ih, here]
      · have read := ends.afterLiteral_respell visible (c :: text)
        rw [respell_cons lineFeed] at read ⊢
        rw [afterFirst, afterFirst, read, ih]
        cases afterLiteral (expected :: literal) (c :: text) <;> rfl

end Reading

/-! ### What cleaning looks for -/

section Cleaning

variable {lineEnd tail : List Char}

/-- A directive is found whatever the ends of lines are. -/
theorem BlankEnds.afterDirective_respell (ends : BlankEnds lineEnd tail) (text : List Char) :
    Source.afterDirective (respell lineEnd tail text) =
      (Source.afterDirective text).map (respell lineEnd tail) := by
  simp only [Source.afterDirective, Option.bind_eq_bind]
  rw [ends.afterLiteral_respell (visible_of_all (by decide))]
  cases afterLiteral "%%\x7b".toList text with
  | none => rfl
  | some opened =>
      simp only [Option.map_some, Option.bind_some]
      rw [ends.afterLiteral_dropWhile _ (by decide) (visible_of_all (by decide))]
      cases afterLiteral "init".toList (opened.dropWhile isBlank) with
      | none => rfl
      | some named =>
          simp only [Option.map_some, Option.bind_some]
          rw [ends.afterLiteral_dropWhile _ (by decide) (visible_of_all (by decide))]
          cases afterLiteral [':'] (named.dropWhile isBlank) with
          | none => rfl
          | some body => exact ends.afterFirst_respell (by decide) (visible_of_all (by decide)) body

/-- The end of a line break is one of two literals. -/
theorem afterBreakEnd_eq (text : List Char) :
    Source.afterBreakEnd text = (afterLiteral ['/', '>'] text).or (afterLiteral ['>'] text) := by
  unfold Source.afterBreakEnd
  split
  case h_1 => rfl
  case h_2 => rfl
  case h_3 selfClosing closing =>
    have slash : afterLiteral ['/', '>'] text = none := by
      rw [Option.eq_none_iff_forall_not_mem]
      exact fun left read => selfClosing left (afterLiteral_eq_some.mp read)
    have angle : afterLiteral ['>'] text = none := by
      rw [Option.eq_none_iff_forall_not_mem]
      exact fun left read => closing left (afterLiteral_eq_some.mp read)
    rw [slash, angle]
    rfl

theorem BlankEnds.afterLineBreak_respell (ends : BlankEnds lineEnd tail) (text : List Char) :
    afterLineBreak (respell lineEnd tail text) =
      (afterLineBreak text).map (respell lineEnd tail) := by
  rw [Source.afterLineBreak_eq, Source.afterLineBreak_eq,
    ends.afterCaseless_respell (fun _ => foldLetterDotted_of_isBlank) (visible_of_all (by decide))]
  cases afterCaseless foldLetterDotted "<br".toList text with
  | none => rfl
  | some opened =>
      rw [Option.map_some, Option.bind_some, Option.bind_some, afterBreakEnd_eq,
        ends.afterLiteral_dropWhile _ (by decide) (visible_of_all (by decide)),
        ends.afterLiteral_dropWhile _ (by decide) (visible_of_all (by decide)), afterBreakEnd_eq]
      cases afterLiteral ['/', '>'] (opened.dropWhile isBlank) <;> rfl

end Cleaning

/-! ### Replacing -/

section Replacing

variable {lineEnd tail replacement : List Char} {occurrence : List Char → Option (List Char)}

/-- What occurs at the same places whatever the line ends are is replaced at the same places. -/
theorem BlankEnds.replaceAll_respell (ends : BlankEnds lineEnd tail)
    (consumes : Consumes occurrence)
    (blankless : ∀ c, isBlank c = true → ∀ rest, occurrence (c :: rest) = none)
    (commutes : ∀ text, occurrence (respell lineEnd tail text) =
      (occurrence text).map (respell lineEnd tail))
    (whole : '\n' ∉ replacement) (text : List Char) :
    replaceAll occurrence replacement (respell lineEnd tail text) =
      respell lineEnd tail (replaceAll occurrence replacement text) := by
  have passed : ∀ {blanks : List Char}, (∀ c ∈ blanks, isBlank c = true) → ∀ rest,
      replaceAll occurrence replacement (blanks ++ rest) =
        blanks ++ replaceAll occurrence replacement rest :=
    fun blank rest => replaceAllWith_append _ (fun c member => blankless c (blank c member)) rest
  induction text using consumes.induction with
  | nil =>
      have kept := passed ends.tail []
      rw [List.append_nil, replaceAll_nil, List.append_nil] at kept
      rwa [replaceAll_nil]
  | found c text after read ih =>
      have visible : c ≠ '\n' := by
        rintro rfl
        rw [blankless '\n' (by decide)] at read
        cases read
      have readHere := commutes (c :: text)
      rw [read, respell_cons visible, Option.map_some] at readHere
      rw [respell_cons visible, consumes.replaceAll_of_some readHere, ih,
        consumes.replaceAll_of_some read, respell_append whole]
  | unread c text unread ih =>
      by_cases lineFeed : c = '\n'
      · subst lineFeed
        rw [respell_lineFeed, passed ends.lineEnd, ih, replaceAll_of_none unread, respell_lineFeed]
      · have unreadHere := commutes (c :: text)
        rw [unread, respell_cons lineFeed, Option.map_none] at unreadHere
        rw [respell_cons lineFeed, replaceAll_of_none unreadHere, ih, replaceAll_of_none unread,
          respell_cons lineFeed]

end Replacing

/-! ### Making line ends uniform -/

/-- A line feed, alone or after a carriage return. -/
def IsLineEnd (lineEnd : List Char) : Prop :=
  lineEnd = ['\n'] ∨ lineEnd = ['\r', '\n']

/-- The ends of lines and the blanks behind the last one are blank. -/
theorem IsLineEnd.blankEnds {lineEnd tail : List Char} (isLineEnd : IsLineEnd lineEnd)
    (blank : ∀ c ∈ tail, isBlank c = true) : BlankEnds lineEnd tail := by
  rcases isLineEnd with rfl | rfl
  · exact ⟨by decide, isBlank_of_all (by decide), blank⟩
  · exact ⟨by decide, isBlank_of_all (by decide), blank⟩

theorem IsLineEnd.blankEnds_reverse {lineEnd : List Char} (isLineEnd : IsLineEnd lineEnd) :
    BlankEnds lineEnd.reverse [] := by
  have ends : BlankEnds lineEnd [] := isLineEnd.blankEnds (by simp)
  exact ⟨by simpa using ends.nonempty, by simpa using ends.lineEnd, ends.tail⟩

theorem normalizeLineEnds_cons {c : Char} (other : c ≠ '\r') (text : List Char) :
    normalizeLineEnds (c :: text) = c :: normalizeLineEnds text := by
  rw [normalizeLineEnds, if_neg other]
  exact fun _ same => absurd same other

/-- Every end of a line becomes a line feed. -/
theorem IsLineEnd.normalizeLineEnds_append {lineEnd : List Char} (isLineEnd : IsLineEnd lineEnd)
    (text : List Char) : normalizeLineEnds (lineEnd ++ text) = '\n' :: normalizeLineEnds text := by
  rcases isLineEnd with rfl | rfl
  · exact normalizeLineEnds_cons (by decide) text
  · exact normalizeLineEnds.eq_2 text

/-- With uniform line ends, the text is back. -/
theorem IsLineEnd.normalizeLineEnds_respell {lineEnd : List Char} (isLineEnd : IsLineEnd lineEnd)
    (tail : List Char) {text : List Char} (returnless : '\r' ∉ text) :
    normalizeLineEnds (respell lineEnd tail text) = text ++ normalizeLineEnds tail := by
  induction text with
  | nil => rfl
  | cons c text ih =>
      rw [List.mem_cons, not_or] at returnless
      by_cases lineFeed : c = '\n'
      · subst lineFeed
        rw [respell_lineFeed, isLineEnd.normalizeLineEnds_append, ih returnless.2,
          List.cons_append]
      · rw [respell_cons lineFeed, normalizeLineEnds_cons (Ne.symm returnless.1),
          ih returnless.2, List.cons_append]

/-- Uniform line ends are the only new characters. -/
theorem mem_normalizeLineEnds {text : List Char} {c : Char} (member : c ∈ normalizeLineEnds text) :
    c = '\n' ∨ c ∈ text := by
  fun_induction normalizeLineEnds text with
  | case1 => cases member
  | case2 rest ih =>
      rcases List.mem_cons.mp member with same | later
      · exact Or.inl same
      · exact (ih later).imp_right fun inside => by simp [inside]
  | case3 d rest _ ih =>
      rcases List.mem_cons.mp member with same | later
      · split at same
        case isTrue => exact Or.inl same
        case isFalse => exact Or.inr (by simp [same])
      · exact (ih later).imp_right (List.mem_cons_of_mem d)

end Flowchart.Text
