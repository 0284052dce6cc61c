import Flowchart.Diagram
import Flowchart.Proofs.Text.LineEnds

/-!
Fences and line ends around a source.

A fence is taken away while the line ends are still as they were written. What it leaves behind of
a line end is a blank at the end of the text, and everything else is found at the same places
whatever the line ends are. So a source is cleaned to the same text with and without a fence, and
with either kind of line ends.

Main definitions: `Fenced`, `Spelling`. Main statements: `Spelling.cleanChars_eq`,
`Diagram.parse_of_spelling`.
-/

namespace Flowchart.Source

open Flowchart.Text

/-! ### What stands inside of fences -/

/-- What cleaning does once the fences are gone. -/
def cleanBody (body : List Char) : List Char :=
  trim (normalizeLineEnds (breaksToSpaces (replaceAll afterDirective [] body)))

theorem cleanChars_eq (text : List Char) :
    cleanChars text = cleanBody (dropClosingFence (dropOpeningFence text)) :=
  rfl

theorem afterDirective_of_isBlank (c : Char) (blank : isBlank c = true) (rest : List Char) :
    afterDirective (c :: rest) = none := by
  apply Plain.afterDirective_of_ne
  rintro rfl
  revert blank
  decide

theorem afterLineBreak_of_isBlank (c : Char) (blank : isBlank c = true) (rest : List Char) :
    afterLineBreak (c :: rest) = none := by
  apply Plain.afterLineBreak_of_ne
  rw [foldLetterDotted_of_isBlank blank]
  rintro rfl
  revert blank
  decide

/-- A text without carriage returns is cleaned to the same text with other line ends, and with
blanks behind it. -/
theorem cleanBody_respell {lineEnd : List Char} (isLineEnd : IsLineEnd lineEnd) (tail : List Char)
    (blank : ∀ c ∈ tail, isBlank c = true) {text : List Char} (returnless : '\r' ∉ text) :
    cleanBody (respell lineEnd tail text) = cleanBody text := by
  have ends := isLineEnd.blankEnds blank
  have directives : replaceAll afterDirective [] (respell lineEnd tail text) =
      respell lineEnd tail (replaceAll afterDirective [] text) :=
    ends.replaceAll_respell consumes_afterDirective afterDirective_of_isBlank
      ends.afterDirective_respell (by simp) text
  have breaks : breaksToSpaces (respell lineEnd tail (replaceAll afterDirective [] text)) =
      respell lineEnd tail (breaksToSpaces (replaceAll afterDirective [] text)) :=
    ends.replaceAll_respell consumes_afterLineBreak afterLineBreak_of_isBlank
      ends.afterLineBreak_respell (by simp) _
  have free : '\r' ∉ breaksToSpaces (replaceAll afterDirective [] text) := by
    intro member
    rcases consumes_afterLineBreak.mem_replaceAll member with space | kept
    · simp at space
    · rcases consumes_afterDirective.mem_replaceAll kept with nothing | kept
      · cases nothing
      · exact returnless kept
  have behind : ∀ c ∈ normalizeLineEnds tail, isBlank c = true := by
    intro c member
    rcases mem_normalizeLineEnds member with rfl | inTail
    · decide
    · exact blank c inTail
  rw [cleanBody, cleanBody, directives, breaks, isLineEnd.normalizeLineEnds_respell tail free,
    normalizeLineEnds_of_notMem free]
  rw [← trim_trimRight, trimRight_append_blank behind, trim_trimRight]

/-- A line feed before a text is trimmed away. -/
theorem cleanBody_lineFeed (text : List Char) : cleanBody ('\n' :: text) = cleanBody text := by
  have blank : isBlank '\n' = true := by decide
  rw [cleanBody, replaceAll_of_none (afterDirective_of_isBlank _ blank _), breaksToSpaces,
    replaceAll_of_none (afterLineBreak_of_isBlank _ blank _), normalizeLineEnds_cons (by decide),
    trim, trimLeft, List.dropWhile_cons_of_pos blank]
  rfl

/-! ### Sources without fences -/

section Unfenced

variable {text : List Char}

theorem dropOpeningFence_of_none (unopened : afterLiteral fenceMark (trimLeft text) = none) :
    dropOpeningFence text = text := by
  rw [dropOpeningFence, unopened]

theorem dropClosingFence_of_none
    (unclosed : afterLiteral fenceMark (trimRight text).reverse = none) :
    dropClosingFence text = text := by
  rw [dropClosingFence, unclosed]

/-- A text does not start with a fence, whatever its line ends are. -/
theorem unopened_withLineEnds {lineEnd : List Char} (ends : BlankEnds lineEnd [])
    (unopened : ¬fenceMark <+: trimLeft text) :
    afterLiteral fenceMark (trimLeft (withLineEnds lineEnd text)) = none := by
  have read := ends.afterLiteral_dropWhile fenceMark (by decide) (visible_of_all (by decide)) text
  rw [respell, List.append_nil, ← trimLeft, ← trimLeft, afterLiteral_eq_none.mpr unopened] at read
  exact read

theorem unclosed_withLineEnds {lineEnd : List Char} (ends : BlankEnds lineEnd.reverse [])
    (unclosed : ¬fenceMark <:+ trimRight text) :
    afterLiteral fenceMark (trimRight (withLineEnds lineEnd text)).reverse = none := by
  have backwards : ¬fenceMark <+: text.reverse.dropWhile isBlank :=
    fun starts => unclosed (List.reverse_suffix.mpr starts)
  have read :=
    ends.afterLiteral_dropWhile fenceMark (by decide) (visible_of_all (by decide)) text.reverse
  rw [respell, List.append_nil, afterLiteral_eq_none.mpr backwards] at read
  rw [trimRight, List.reverse_reverse, reverse_withLineEnds]
  exact read

/-- A text without fences is cleaned to the same text with carriage returns. -/
theorem cleanChars_withLineEnds {lineEnd : List Char} (isLineEnd : IsLineEnd lineEnd)
    (returnless : '\r' ∉ text) (unopened : ¬fenceMark <+: trimLeft text)
    (unclosed : ¬fenceMark <:+ trimRight text) :
    cleanChars (withLineEnds lineEnd text) = cleanBody text := by
  have front := unopened_withLineEnds (isLineEnd.blankEnds (by simp)) unopened
  have back := unclosed_withLineEnds isLineEnd.blankEnds_reverse unclosed
  have same := cleanBody_respell isLineEnd [] (by simp) returnless
  rw [respell, List.append_nil] at same
  rw [cleanChars_eq, dropOpeningFence_of_none front, dropClosingFence_of_none back, same]

end Unfenced

/-! ### Fenced sources -/

section Fences

variable {name rest front tail : List Char} {c : Char}

/-- After the mark and the name of the language, if it is given, a line end follows. -/
theorem skipInline_openingLine (named : name = [] ∨ name = "mermaid".toList)
    (other : foldLetterDotted c ≠ 'm') (stop : isInlineBlank c = false) :
    skipInline ((afterCaseless foldLetterDotted "mermaid".toList (name ++ c :: rest)).getD
      (name ++ c :: rest)) = c :: rest := by
  have stays : skipInline (c :: rest) = c :: rest := skipInline_of_stops (stops_cons stop)
  rcases named with rfl | rfl
  · have unread : afterCaseless foldLetterDotted "mermaid".toList (c :: rest) = none := by
      apply afterCaseless_of_head
      rintro _ ⟨⟩
      exact other
    rw [List.nil_append, unread, Option.getD_none, stays]
  · have read : afterCaseless foldLetterDotted "mermaid".toList ("mermaid".toList ++ c :: rest) =
        some (c :: rest) :=
      afterCaseless_eq_some.mpr ⟨_, rfl, by decide⟩
    rw [read, Option.getD_some, stays]

theorem trimLeft_fenceMark (rest : List Char) :
    trimLeft (fenceMark ++ rest) = fenceMark ++ rest :=
  dropWhile_of_stops (stops_append (by decide) (stops_cons (by decide)) rest)

/-- An opening line that ends with a line feed is taken away. -/
theorem dropOpeningFence_lineFeed (named : name = [] ∨ name = "mermaid".toList)
    (rest : List Char) : dropOpeningFence (fenceMark ++ (name ++ '\n' :: rest)) = rest := by
  rw [dropOpeningFence, trimLeft_fenceMark, afterLiteral_append]
  dsimp only
  rw [skipInline_openingLine named (by decide) (by decide)]
  rfl

/-- The line end stays where it starts with a carriage return. -/
theorem dropOpeningFence_return (named : name = [] ∨ name = "mermaid".toList)
    (rest : List Char) :
    dropOpeningFence (fenceMark ++ (name ++ '\r' :: rest)) = '\r' :: rest := by
  rw [dropOpeningFence, trimLeft_fenceMark, afterLiteral_append]
  dsimp only
  rw [skipInline_openingLine named (by decide) (by decide)]
  rfl

theorem reverse_trimRight_fenceMark (front : List Char) (blank : ∀ c ∈ tail, isBlank c = true) :
    (trimRight (front ++ (fenceMark ++ tail))).reverse = fenceMark ++ front.reverse := by
  have visible : Stops isBlank (front ++ fenceMark).reverse := by
    rw [List.reverse_append]
    exact stops_append (by decide) (stops_cons (by decide)) _
  rw [← List.append_assoc, trimRight_append_blank blank, trimRight, dropWhile_of_stops visible,
    List.reverse_reverse, List.reverse_append]
  rfl

/-- A closing line is taken away with the line feed before it. -/
theorem dropClosingFence_lineFeed (front : List Char) (blank : ∀ c ∈ tail, isBlank c = true) :
    dropClosingFence (front ++ '\n' :: (fenceMark ++ tail)) = front := by
  have closes := reverse_trimRight_fenceMark (front ++ ['\n']) blank
  rw [List.append_assoc, List.singleton_append, List.reverse_append] at closes
  rw [dropClosingFence, closes, afterLiteral_append]
  exact List.reverse_reverse front

theorem dropClosingFence_nil (blank : ∀ c ∈ tail, isBlank c = true) :
    dropClosingFence (fenceMark ++ tail) = [] := by
  have closes := reverse_trimRight_fenceMark [] blank
  rw [List.nil_append] at closes
  rw [dropClosingFence, closes, afterLiteral_append]
  rfl

end Fences

/-- A text between fences: the mark, with or without the name of the language, on the line before
it, and the mark on the line after it. The last line of the text may be ended already. -/
inductive Fenced (text : List Char) : List Char → Prop
  | mk {name gap tail : List Char} (named : name = [] ∨ name = "mermaid".toList)
    (apart : gap = ['\n'] ∨ gap = [] ∧ (text = [] ∨ ['\n'] <:+ text))
    (last : tail = [] ∨ tail = ['\n']) :
    Fenced text (fenceMark ++ (name ++ '\n' :: (text ++ (gap ++ (fenceMark ++ tail)))))

/-- A text as it stands or between fences, with line feeds or with carriage returns before them. -/
inductive Spelling (text : List Char) : List Char → Prop
  | plain : Spelling text text
  | returns : Spelling text (withLineEnds ['\r', '\n'] text)
  | fenced {framed : List Char} (isFenced : Fenced text framed) : Spelling text framed
  | fencedReturns {framed : List Char} (isFenced : Fenced text framed) :
    Spelling text (withLineEnds ['\r', '\n'] framed)

/-! ### Cleaning -/

section Spellings

variable {text framed : List Char}

/-- Within fences stands a text whose last line is ended, or nothing at all. -/
theorem Fenced.inside (isFenced : Fenced text framed) :
    ∃ name tail, (name = [] ∨ name = "mermaid".toList) ∧ (tail = [] ∨ tail = ['\n']) ∧
      ((text = [] ∧ framed = fenceMark ++ (name ++ '\n' :: (fenceMark ++ tail))) ∨
        ∃ body, (text = body ∨ text = body ++ ['\n']) ∧
          framed = fenceMark ++ (name ++ '\n' :: (body ++ '\n' :: (fenceMark ++ tail)))) := by
  obtain ⟨named, rfl | ⟨rfl, rfl | ⟨body, rfl⟩⟩, last⟩ := isFenced
  · exact ⟨_, _, named, last, Or.inr ⟨text, Or.inl rfl, rfl⟩⟩
  · exact ⟨_, _, named, last, Or.inl ⟨rfl, rfl⟩⟩
  · exact ⟨_, _, named, last, Or.inr ⟨body, Or.inr rfl, by simp⟩⟩

/-- The line feed at the end of a text makes no difference. -/
theorem cleanBody_ended {body : List Char} (ended : text = body ∨ text = body ++ ['\n'])
    (returnless : '\r' ∉ text) : cleanBody body = cleanBody text ∧ '\r' ∉ body := by
  rcases ended with rfl | rfl
  · exact ⟨rfl, returnless⟩
  · have free : '\r' ∉ body := fun member => returnless (List.mem_append_left _ member)
    have same := cleanBody_respell (Or.inl rfl) ['\n'] (isBlank_of_all (by decide)) free
    rw [respell_of_lineFeed] at same
    exact ⟨same.symm, free⟩

/-- A fenced text with line feeds is cleaned to what the text is cleaned to. -/
theorem Fenced.cleanChars_eq (isFenced : Fenced text framed) (returnless : '\r' ∉ text) :
    cleanChars framed = cleanBody text := by
  obtain ⟨name, tail, named, last, inside⟩ := isFenced.inside
  have blank : ∀ c ∈ tail, isBlank c = true := by
    rcases last with rfl | rfl <;> exact isBlank_of_all (by decide)
  rcases inside with ⟨rfl, rfl⟩ | ⟨body, ended, rfl⟩
  · rw [Source.cleanChars_eq, dropOpeningFence_lineFeed named, dropClosingFence_nil blank]
  · rw [Source.cleanChars_eq, dropOpeningFence_lineFeed named, dropClosingFence_lineFeed _ blank]
    exact (cleanBody_ended ended returnless).1

/-- A fenced text with carriage returns is too. The line end of the opening line and one carriage
return before the closing line stay, but are blanks. -/
theorem Fenced.cleanChars_withLineEnds (isFenced : Fenced text framed)
    (returnless : '\r' ∉ text) :
    cleanChars (withLineEnds ['\r', '\n'] framed) = cleanBody text := by
  obtain ⟨name, tail, named, last, inside⟩ := isFenced.inside
  have blank : ∀ c ∈ withLineEnds ['\r', '\n'] tail, isBlank c = true := by
    rcases last with rfl | rfl <;> exact isBlank_of_all (by decide)
  have mark : withLineEnds ['\r', '\n'] fenceMark = fenceMark := by decide
  have opening : withLineEnds ['\r', '\n'] name = name := by
    rcases named with rfl | rfl <;> decide
  rcases inside with ⟨rfl, rfl⟩ | ⟨body, ended, rfl⟩
  · have closes := dropClosingFence_lineFeed ['\r'] blank
    have rest := cleanBody_respell (Or.inr rfl) ['\r'] (isBlank_of_all (by decide)) returnless
    simp only [withLineEnds_append, withLineEnds_lineFeed, mark, opening, List.cons_append,
      List.nil_append]
    rw [Source.cleanChars_eq, dropOpeningFence_return named]
    exact (congrArg cleanBody closes).trans rest
  · obtain ⟨same, free⟩ := cleanBody_ended ended returnless
    have free' : '\r' ∉ '\n' :: body := by simp [free]
    have closes := dropClosingFence_lineFeed
      (respell ['\r', '\n'] ['\r'] ('\n' :: body)) blank
    have rest := cleanBody_respell (Or.inr rfl) ['\r'] (isBlank_of_all (by decide)) free'
    simp only [withLineEnds_append, withLineEnds_lineFeed, mark, opening, List.cons_append,
      List.nil_append]
    rw [Source.cleanChars_eq, dropOpeningFence_return named]
    rw [respell_lineFeed, respell] at closes
    simp only [List.cons_append, List.nil_append, List.append_assoc] at closes
    rw [closes, ← same, ← cleanBody_lineFeed body, ← rest, respell_lineFeed, respell]
    rfl

/-- Every spelling of a text is cleaned alike. -/
theorem Spelling.cleanChars_eq {spelled : List Char} (spelling : Spelling text spelled)
    (returnless : '\r' ∉ text) (unopened : ¬fenceMark <+: trimLeft text)
    (unclosed : ¬fenceMark <:+ trimRight text) : cleanChars spelled = cleanBody text := by
  cases spelling with
  | plain =>
      have kept := cleanChars_withLineEnds (Or.inl rfl) returnless unopened unclosed
      have same := respell_of_lineFeed [] text
      rw [respell, List.append_nil, List.append_nil] at same
      rwa [same] at kept
  | returns => exact cleanChars_withLineEnds (Or.inr rfl) returnless unopened unclosed
  | fenced isFenced => exact isFenced.cleanChars_eq returnless
  | fencedReturns isFenced => exact isFenced.cleanChars_withLineEnds returnless

/-- A mark that the text holds is not taken for the closing one. -/
example : cleanChars "```\na\n```\nb\n```".toList = "a\n```\nb".toList := by decide +kernel

end Spellings

end Flowchart.Source

namespace Flowchart.Diagram

open Flowchart.Source Flowchart.Text

variable {K : Type} [Scalar K]

/-- Readers of diagrams see a source as it has been cleaned. -/
theorem parseForgiving_congr {left right : String} (same : clean left = clean right)
    (limits : Limits) (colors : List String) :
    (parseForgiving limits left colors : Except DiagramError (Graph K)) =
      parseForgiving limits right colors := by
  rw [parseForgiving, parseForgiving, same]

/-- Sources that are cleaned alike are parsed alike. -/
theorem parse_congr {left right : String} (same : clean left = clean right)
    (limits : Limits) (interpreter : Interpreter) (colors : List String) :
    (parse limits interpreter left colors : Except DiagramError (Graph K)) =
      parse limits interpreter right colors := by
  rw [parse, parse, same, parseForgiving_congr same]

/-- Fences and carriage returns around a source make no difference: it is cleaned to the same text,
and both readers of diagrams find the same graph, or make the same mistake. -/
theorem parse_of_spelling {source spelled : String} (returnless : '\r' ∉ source.toList)
    (unopened : ¬fenceMark <+: trimLeft source.toList)
    (unclosed : ¬fenceMark <:+ trimRight source.toList)
    (spelling : Spelling source.toList spelled.toList) :
    clean spelled = clean source ∧
      (∀ (limits : Limits) (interpreter : Interpreter) (colors : List String),
        (parse limits interpreter spelled colors : Except DiagramError (Graph K)) =
          parse limits interpreter source colors) ∧
      ∀ (limits : Limits) (colors : List String),
        (parseForgiving limits spelled colors : Except DiagramError (Graph K)) =
          parseForgiving limits source colors := by
  have same : clean spelled = clean source := by
    rw [clean, clean, spelling.cleanChars_eq returnless unopened unclosed,
      Spelling.plain.cleanChars_eq returnless unopened unclosed]
  exact ⟨same, parse_congr same, parseForgiving_congr same⟩

theorem parse_of_spelling_fencedReturns :
    clean "```mermaid\r\nflowchart LR\r\nA --> B\r\n```" = clean "flowchart LR\nA --> B" ∧
      (parse .standard .standard "```mermaid\r\nflowchart LR\r\nA --> B\r\n```" ["#fff"] :
          Except DiagramError (Graph Rat)) =
        parse .standard .standard "flowchart LR\nA --> B" ["#fff"] ∧
      (parseForgiving .standard "```mermaid\r\nflowchart LR\r\nA --> B\r\n```" ["#fff"] :
          Except DiagramError (Graph Rat)) =
        parseForgiving .standard "flowchart LR\nA --> B" ["#fff"] := by
  have isFenced : Fenced "flowchart LR\nA --> B".toList
      "```mermaid\nflowchart LR\nA --> B\n```".toList :=
    .mk (Or.inr rfl) (Or.inl rfl) (Or.inl rfl)
  have spelling : Spelling "flowchart LR\nA --> B".toList
      "```mermaid\r\nflowchart LR\r\nA --> B\r\n```".toList :=
    .fencedReturns isFenced
  have alike := parse_of_spelling (by decide) (by decide) (by decide) spelling (K := Rat)
  exact ⟨alike.1, alike.2.1 .standard .standard ["#fff"], alike.2.2 .standard ["#fff"]⟩

end Flowchart.Diagram
