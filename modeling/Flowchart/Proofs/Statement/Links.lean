import Flowchart.Proofs.Statement.Nodes

/-!
Links are read back from their texts.

A link with a text inside is tried before a link alone, so a link alone must not look like the
beginning of one with a text, and the text inside must not look like the end of its link.

Main statement: `link_append`.
-/

namespace Flowchart.Statement

open Flowchart.Text Flowchart.Notation

/-- Nothing of a text belongs to the link before it. -/
structure LinkEnds (rest : List Char) : Prop where
  token : Stops ("-=>".toList.contains ·) rest
  label : pipeLabel rest = none

/-! ### Links alone -/

theorem ne_of_stops {c d : Char} {rest : List Char} (stops : Stops (· == d) (c :: rest)) :
    c ≠ d := by
  simpa using stops c rfl

/-- A line with a head is read as an arrow. -/
theorem lineToken_headed {c : Char} (other : c ≠ '>') (rest : List Char) :
    lineToken c 2 (c :: c :: '>' :: rest) = some ([c, c, '>'], rest) := by
  simp [lineToken, run, other.symm]

theorem lineToken_headless {c : Char} {rest : List Char} (line : Stops (· == c) rest)
    (headless : Stops (· == '>') rest) :
    lineToken c 2 (c :: c :: c :: rest) = some ([c, c, c], rest) := by
  have read : run (· == c) ([c, c, c] ++ rest) = ([c, c, c], rest) := run_append (by simp) line
  rw [List.cons_append, List.cons_append, List.cons_append, List.nil_append] at read
  rw [lineToken, read]
  cases rest with
  | nil => rfl
  | cons d rest =>
      have head := ne_of_stops headless
      simp [head]

/-- A line of one character is not found where another character stands. -/
theorem lineToken_of_stops {c : Char} {text : List Char} (line : Stops (· == c) text) :
    lineToken c 2 text = none := by
  rw [lineToken, run, takeWhile_of_stops line, dropWhile_of_stops line]
  cases text with
  | nil => rfl
  | cons d text => by_cases head : d = '>' <;> simp [head]

theorem stops_of_token {c : Char} {rest : List Char} (member : c ∈ "-=>".toList)
    (token : Stops ("-=>".toList.contains ·) rest) : Stops (· == c) rest := by
  intro d first
  have outside := token d first
  simp only [List.contains_eq_mem, decide_eq_false_iff_not] at outside
  simp only [beq_eq_false_iff_ne, ne_eq]
  rintro rfl
  exact outside member

/-- A single hyphen is no line. -/
theorem solidToken_dotted (rest : List Char) : solidToken ('-' :: '.' :: rest) = none := by
  have hyphens : lineToken '-' 2 ('-' :: '.' :: rest) = none := by
    simp [lineToken, run]
  have equals : lineToken '=' 2 ('-' :: '.' :: rest) = none :=
    lineToken_of_stops (stops_cons (by decide))
  rw [solidToken, firstOf_of_none hyphens, firstOf_of_none equals]
  rfl

/-- A dotted line with a head is read as an arrow. -/
theorem dottedToken_headed (rest : List Char) :
    dottedToken ('-' :: '.' :: '-' :: '>' :: rest) = some (['-', '.', '-', '>'], rest) := by
  simp [dottedToken, run1, run]

theorem dottedToken_headless {rest : List Char} (headless : Stops (· == '>') rest) :
    dottedToken ('-' :: '.' :: '-' :: rest) = some (['-', '.', '-'], rest) := by
  cases rest with
  | nil => rfl
  | cons c rest =>
      have head := ne_of_stops headless
      simp [dottedToken, run1, run, head]

/-- A link alone is read back when nothing after it could make it longer. -/
theorem arrow_append (stroke : Stroke) (directed : Bool) {rest : List Char}
    (token : Stops ("-=>".toList.contains ·) rest) :
    arrow (plainLink stroke directed ++ rest) = some (plainLink stroke directed, rest) := by
  have hyphen := stops_of_token (c := '-') (by decide) token
  have equals := stops_of_token (c := '=') (by decide) token
  have headless := stops_of_token (c := '>') (by decide) token
  have noHyphens : ∀ more, lineToken '-' 2 ('=' :: more) = none :=
    fun more => lineToken_of_stops (stops_cons (by decide))
  cases stroke with
  | normal =>
      cases directed with
      | true => exact firstOf_of_some (firstOf_of_some (lineToken_headed (by decide) rest))
      | false => exact firstOf_of_some (firstOf_of_some (lineToken_headless hyphen headless))
  | dotted =>
      have solid := solidToken_dotted
      cases directed with
      | true =>
          exact (firstOf_of_none (solid _)).trans (firstOf_of_some (dottedToken_headed rest))
      | false =>
          exact (firstOf_of_none (solid _)).trans
            (firstOf_of_some (dottedToken_headless headless))
  | thick =>
      cases directed with
      | true =>
          exact firstOf_of_some ((firstOf_of_none (noHyphens _)).trans
            (firstOf_of_some (lineToken_headed (by decide) rest)))
      | false =>
          exact firstOf_of_some ((firstOf_of_none (noHyphens _)).trans
            (firstOf_of_some (lineToken_headless equals headless)))

/-- A link alone does not begin like one with a text inside. -/
theorem textLink_plain (stroke : Stroke) (directed : Bool) (rest : List Char) :
    textLink (plainLink stroke directed ++ rest) = none := by
  cases stroke <;> cases directed <;>
    simp [textLink, plainLink, afterLiteral, skipInline, isInlineBlank, startsLinkText]

/-! ### Texts inside links -/

/-- A character that is neither a hyphen, an equals sign nor a point before a hyphen does not start
the end of a link. -/
theorem closingToken_of_ne {c : Char} {rest : List Char} (hyphen : c ≠ '-') (equals : c ≠ '=')
    (point : c = '.' → Stops (· == '-') rest) : closingToken (c :: rest) = none := by
  have hyphens : lineToken '-' 2 (c :: rest) = none :=
    lineToken_of_stops (stops_cons (by simpa using hyphen))
  have equalsSigns : lineToken '=' 2 (c :: rest) = none :=
    lineToken_of_stops (stops_cons (by simpa using equals))
  have dotted : dottedClosing (c :: rest) = none := by
    unfold dottedClosing
    split
    · rename_i left same
      obtain ⟨rfl, rfl⟩ := List.cons.inj same
      rw [run, takeWhile_of_stops (point rfl)]
    · rfl
  rw [closingToken, firstOf_of_none hyphens, firstOf_of_none dotted, firstOf_of_none equalsSigns]
  rfl

theorem dottedClosing_headed (rest : List Char) :
    dottedClosing ('.' :: '-' :: '>' :: rest) = some (['.', '-', '>'], rest) := by
  simp [dottedClosing, run]

theorem dottedClosing_headless {rest : List Char} (line : Stops (· == '-') rest)
    (headless : Stops (· == '>') rest) :
    dottedClosing ('.' :: '-' :: rest) = some (['.', '-'], rest) := by
  have read : run (· == '-') (['-'] ++ rest) = (['-'], rest) := run_append (by simp) line
  rw [List.cons_append, List.nil_append] at read
  rw [dottedClosing, read]
  cases rest with
  | nil => rfl
  | cons c rest =>
      have head := ne_of_stops headless
      simp [head]

/-- The end of a link around a text is read back when nothing after it could make it longer. -/
theorem closingToken_append (stroke : Stroke) (directed : Bool) {rest : List Char}
    (token : Stops ("-=>".toList.contains ·) rest) :
    closingToken (linkClosing stroke directed ++ rest) =
      some (linkClosing stroke directed, rest) := by
  have hyphen := stops_of_token (c := '-') (by decide) token
  have equals := stops_of_token (c := '=') (by decide) token
  have headless := stops_of_token (c := '>') (by decide) token
  have noHyphens : ∀ {c : Char} {more : List Char}, c ≠ '-' → lineToken '-' 2 (c :: more) = none :=
    fun other => lineToken_of_stops (stops_cons (by simpa using other))
  cases stroke with
  | normal =>
      cases directed with
      | true => exact firstOf_of_some (lineToken_headed (by decide) rest)
      | false => exact firstOf_of_some (lineToken_headless hyphen headless)
  | dotted =>
      cases directed with
      | true =>
          exact (firstOf_of_none (noHyphens (by decide))).trans
            (firstOf_of_some (dottedClosing_headed rest))
      | false =>
          exact (firstOf_of_none (noHyphens (by decide))).trans
            (firstOf_of_some (dottedClosing_headless hyphen headless))
  | thick =>
      have undotted : ∀ more, dottedClosing ('=' :: more) = none := fun _ => rfl
      cases directed with
      | true =>
          exact (firstOf_of_none (noHyphens (by decide))).trans
            ((firstOf_of_none (undotted _)).trans
              (firstOf_of_some (lineToken_headed (by decide) rest)))
      | false =>
          exact (firstOf_of_none (noHyphens (by decide))).trans
            ((firstOf_of_none (undotted _)).trans
              (firstOf_of_some (lineToken_headless equals headless)))

/-- No character of a text belongs to the end of the link after it. -/
structure BeforeClosing (text after : List Char) : Prop where
  free : ∀ c ∈ text, c ≠ '-' ∧ c ≠ '=' ∧ c ≠ '|'
  last : ∀ c ∈ text.getLast?, isInlineBlank c = false ∧ (c = '.' → Stops (· == '-') after)

theorem BeforeClosing.tail {c : Char} {text after : List Char}
    (before : BeforeClosing (c :: text) after) : BeforeClosing text after where
  free := fun d member => before.free d (List.mem_cons_of_mem c member)
  last := by
    cases text with
    | nil => simp
    | cons d text =>
        intro e final
        exact before.last e (by simpa using final)

/-- The end of a link is not found inside the text before it: the first character that is no blank
belongs to that text and starts no end. -/
theorem closingToken_before {text after : List Char} (nonempty : text ≠ [])
    (before : BeforeClosing text after) : closingToken (skipInline (text ++ after)) = none := by
  induction text with
  | nil => exact absurd rfl nonempty
  | cons c text ih =>
      have here := before.free c (by simp)
      cases text with
      | nil =>
          obtain ⟨visible, point⟩ := before.last c rfl
          rw [List.cons_append, List.nil_append, skipInline_of_stops (stops_cons visible)]
          exact closingToken_of_ne here.1 here.2.1 point
      | cons d text =>
          cases blank : isInlineBlank c with
          | true =>
              rw [List.cons_append, skipInline, List.dropWhile_cons_of_pos blank]
              exact ih (by simp) before.tail
          | false =>
              rw [List.cons_append, skipInline_of_stops (stops_cons blank)]
              have next := before.free d (by simp)
              exact closingToken_of_ne here.1 here.2.1
                (fun _ => stops_cons (by simpa using next.1))

/-- The text inside a link is read up to the end of the link. -/
theorem untilClosing_append {text after token left : List Char}
    (before : BeforeClosing text after)
    (closes : closingToken (skipInline after) = some (token, left)) :
    untilClosing (text ++ after) = some (text, token, left) := by
  induction text with
  | nil =>
      cases after with
      | nil => cases closes
      | cons c after => rw [List.nil_append, untilClosing, closes]
  | cons c text ih =>
      have inside := closingToken_before (by simp) before
      have here := before.free c (by simp)
      rw [List.cons_append] at inside ⊢
      rw [untilClosing, inside]
      simp [here.2.2, ih before.tail]

/-- The text inside a link has its last character before the blanks and the end of the link. -/
theorem beforeClosing_of_inner {stroke : Stroke} {directed : Bool} {text right rest : List Char}
    (rightBlank : Gap right) (inner : IsInnerText text)
    (point : stroke = .normal → right = [] → ∀ c ∈ text.getLast?, c ≠ '.') :
    BeforeClosing text (right ++ (linkClosing stroke directed ++ rest)) where
  free := inner.free
  last := by
    intro c final
    have first : c ∈ text.reverse.head? := by
      rw [List.head?_reverse]
      exact final
    have visible : isInlineBlank c = false := by
      cases blank : isInlineBlank c with
      | false => rfl
      | true => exact (isBlank_of_isInlineBlank blank).symm.trans (inner.last c first)
    refine ⟨visible, fun isPoint => ?_⟩
    cases right with
    | nil =>
        cases stroke with
        | normal => exact absurd isPoint (point rfl rfl c final)
        | dotted => cases directed <;> exact stops_cons (by decide)
        | thick => cases directed <;> exact stops_cons (by decide)
    | cons d right =>
        have blank : isInlineBlank d = true := rightBlank d (by simp)
        apply stops_cons
        simp only [beq_eq_false_iff_ne, ne_eq]
        rintro rfl
        simp [isInlineBlank] at blank

/-- The end of a link starts with no blank. -/
theorem skipInline_linkClosing {right rest : List Char} (stroke : Stroke) (directed : Bool)
    (rightBlank : Gap right) :
    skipInline (right ++ (linkClosing stroke directed ++ rest)) =
      linkClosing stroke directed ++ rest := by
  apply skipInline_gap rightBlank
  cases stroke <;> cases directed <;> exact stops_cons (by decide)

/-- A link around a text is read when its end is found, the text without the blanks around it. -/
theorem textLink_of_untilClosing {stroke : Stroke} {left text inner closing rest : List Char}
    {c : Char} (leftBlank : Gap left) (starts : startsLinkText c = true)
    (read : untilClosing text = some (inner, closing, rest)) :
    textLink (linkOpening stroke ++ (left ++ c :: text)) =
      some ((linkOpening stroke ++ closing, some (trim (c :: inner))), rest) := by
  have opening : ∀ more, ["--", "-.", "=="].findSome? (fun opening =>
      (afterLiteral opening.toList (linkOpening stroke ++ more)).map
        fun rest => (opening.toList, rest)) = some (linkOpening stroke, more) := by
    intro more
    cases stroke <;> rfl
  have visible : isInlineBlank c = false := by
    cases blank : isInlineBlank c with
    | false => rfl
    | true =>
        simp only [isInlineBlank, Bool.or_eq_true, beq_iff_eq] at blank
        rcases blank with rfl | rfl <;> cases starts
  have skipped : skipInline (left ++ c :: text) = c :: text :=
    skipInline_gap leftBlank (stops_cons visible)
  simp [textLink, opening, skipped, starts, read]

/-- A link around a text is read back, the text without the blanks around it. -/
theorem textLink_inner {stroke : Stroke} (directed : Bool) {left text right rest : List Char}
    (leftBlank : Gap left) (rightBlank : Gap right) (inner : IsInnerText text)
    (point : stroke = .normal → right = [] → ∀ c ∈ text.getLast?, c ≠ '.')
    (token : Stops ("-=>".toList.contains ·) rest) :
    textLink (linkOpening stroke ++ (left ++ (text ++ (right ++
        (linkClosing stroke directed ++ rest))))) =
      some ((linkOpening stroke ++ linkClosing stroke directed, some text), rest) := by
  have before : BeforeClosing text (right ++ (linkClosing stroke directed ++ rest)) :=
    beforeClosing_of_inner rightBlank inner point
  have closes := closingToken_append stroke directed token
  rw [← skipInline_linkClosing stroke directed rightBlank] at closes
  have whole := trim_of_isTrimmed inner.toIsTrimmed
  cases text with
  | nil => exact absurd rfl inner.nonempty
  | cons c text =>
      have starts : startsLinkText c = true := by
        have visible : isBlank c = false := inner.first c rfl
        have spacing : isSpacing c = false := by
          simp only [isBlank, Bool.or_eq_false_iff] at visible
          exact visible.1
        have free := inner.free c (by simp)
        have start := inner.start c rfl
        simp [startsLinkText, spacing, free, start]
      have read := untilClosing_append before.tail closes
      have found := @textLink_of_untilClosing stroke _ _ _ _ _ _ leftBlank starts read
      rw [whole] at found
      exact found

/-! ### Labels -/

/-- A label between pipes is read back without the blanks around it. -/
theorem pipeLabel_append {gap left label right : List Char} (blank : Gap gap)
    (leftBlank : Gap left) (rightBlank : Gap right) (trimmed : IsTrimmed label)
    (free : ∀ c ∈ label, c ≠ '|' ∧ c ≠ '\n') (rest : List Char) :
    pipeLabel (gap ++ '|' :: (left ++ label ++ right ++ '|' :: rest)) = some (label, rest) := by
  have inside : ∀ c ∈ left ++ label ++ right, (c != '|' && c != '\n') = true := by
    have visible : ∀ c, isInlineBlank c = true → (c != '|' && c != '\n') = true := by
      intro c blank
      simp only [isInlineBlank, Bool.or_eq_true, beq_iff_eq] at blank
      rcases blank with rfl | rfl <;> decide
    intro c member
    rcases List.mem_append.mp member with member | member
    · rcases List.mem_append.mp member with member | member
      · exact visible c (leftBlank c member)
      · simpa using free c member
    · exact visible c (rightBlank c member)
  have stops : Stops (fun c => c != '|' && c != '\n') ('|' :: rest) := stops_cons (by decide)
  have opened : ∀ more, skipInline (gap ++ '|' :: more) = '|' :: more :=
    fun more => skipInline_gap blank (stops_cons (by decide))
  rw [pipeLabel, opened]
  simp only [afterLiteral, if_true, Option.bind_eq_bind, Option.bind_some]
  rw [run_append inside stops, trim_gaps leftBlank rightBlank trimmed]
  rfl

theorem pipeLabel_of_stops {gap rest : List Char} (blank : Gap gap)
    (stops : Stops (fun c => isInlineBlank c || c == '|') rest) :
    pipeLabel (gap ++ rest) = none := by
  cases rest with
  | nil =>
      have skipped : skipInline (gap ++ []) = [] := skipInline_gap blank (stops_nil _)
      rw [pipeLabel, skipped]
      rfl
  | cons c rest =>
      have outside : (isInlineBlank c || c == '|') = false := stops c rfl
      simp only [Bool.or_eq_false_iff, beq_eq_false_iff_ne, ne_eq] at outside
      have skipped : skipInline (gap ++ c :: rest) = c :: rest :=
        skipInline_gap blank (stops_cons outside.1)
      rw [pipeLabel, skipped]
      simp [afterLiteral, outside.2]

/-! ### The link that a token stands for -/

/-- A token alone makes a link without a text. -/
theorem linkOfToken_plain (stroke : Stroke) (directed : Bool) :
    linkOfToken (plainLink stroke directed) none = ⟨stroke, directed, none⟩ := by
  cases stroke <;> cases directed <;> rfl

theorem linkOfToken_piped (stroke : Stroke) (directed : Bool) {label : List Char}
    (nonempty : label ≠ []) :
    linkOfToken (plainLink stroke directed) (some label) =
      ⟨stroke, directed, some (String.ofList label)⟩ := by
  cases label with
  | nil => exact absurd rfl nonempty
  | cons c label => cases stroke <;> cases directed <;> rfl

/-- The two parts of a link with the text between them make the link with this text. -/
theorem linkOfToken_inner (stroke : Stroke) (directed : Bool) {text : List Char}
    (nonempty : text ≠ []) :
    linkOfToken (linkOpening stroke ++ linkClosing stroke directed) (some text) =
      ⟨stroke, directed, some (String.ofList text)⟩ := by
  cases text with
  | nil => exact absurd rfl nonempty
  | cons c text => cases stroke <;> cases directed <;> rfl

/-- A link around a text is read as such when no label follows it. -/
theorem link_of_textLink {stroke : Stroke} {directed : Bool} {line text rest : List Char}
    (read : textLink line = some ((linkOpening stroke ++ linkClosing stroke directed, some text),
      rest))
    (nonempty : text ≠ []) (unlabelled : pipeLabel rest = none) :
    Statement.link line = some (⟨stroke, directed, some (String.ofList text)⟩, rest) := by
  rw [Statement.link, firstOf_of_some read]
  simp only [Option.bind_eq_bind, Option.bind_some, unlabelled]
  rw [linkOfToken_inner stroke directed nonempty]

/-- A link is read back when it ends where it was written to end. -/
theorem link_append {link : Link} {text rest : List Char} (written : LinkText link text)
    (ends : LinkEnds rest) : Statement.link (text ++ rest) = some (link, rest) := by
  cases written with
  | plain stroke directed =>
      have unopened := textLink_plain stroke directed rest
      have read := arrow_append stroke directed ends.token
      rw [Statement.link, firstOf_of_none unopened, firstOf_of_some (by rw [read]; rfl)]
      simp [ends.label, linkOfToken_plain]
  | @piped stroke directed gap left label right blank leftBlank rightBlank trimmed free =>
      have token : Stops ("-=>".toList.contains ·)
          (gap ++ '|' :: (left ++ label ++ right ++ '|' :: rest)) := by
        cases gap with
        | nil => exact stops_cons (by decide)
        | cons c gap =>
            have here : isInlineBlank c = true := blank c (by simp)
            simp only [isInlineBlank, Bool.or_eq_true, beq_iff_eq] at here
            rcases here with rfl | rfl <;> exact stops_cons (by decide)
      have whole : plainLink stroke directed ++ gap ++ '|' :: (left ++ label ++ right ++ ['|']) ++
          rest = plainLink stroke directed ++
            (gap ++ '|' :: (left ++ label ++ right ++ '|' :: rest)) := by
        simp
      have unopened := textLink_plain stroke directed
        (gap ++ '|' :: (left ++ label ++ right ++ '|' :: rest))
      have read := arrow_append stroke directed token
      have labelled := pipeLabel_append blank leftBlank rightBlank trimmed free rest
      rw [whole, Statement.link, firstOf_of_none unopened, firstOf_of_some (by rw [read]; rfl)]
      simp only [Option.bind_eq_bind, Option.bind_some, labelled]
      rw [linkOfToken_piped stroke directed trimmed.nonempty]
  | @inner stroke directed left text right leftBlank rightBlank inner point =>
      have read := textLink_inner directed leftBlank rightBlank inner point ends.token
      have whole : linkOpening stroke ++ left ++ (text ++ right ++ linkClosing stroke directed) ++
          rest = linkOpening stroke ++ (left ++ (text ++ (right ++
            (linkClosing stroke directed ++ rest)))) := by
        simp
      rw [whole]
      exact link_of_textLink read inner.nonempty ends.label

end Flowchart.Statement
