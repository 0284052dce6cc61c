import Flowchart.Proofs.Statement.RoundTrip
import Flowchart.Proofs.Plain.Text

/-!
The two ways to write a label at an arrow, read strictly.

A label is written inside an arrow or between pipes after it. Its words may be joined by single
hyphens, which are also what arrows are made of. The strict reader takes a hyphen for the end of an
arrow only where another hyphen follows, and finds the same statement either way.

Main definitions: `IsLabel`, `inlineLine`, `pipedLine`. Main statements: `ofLine?_inlineLine`,
`ofLine?_pipedLine`.
-/

namespace Flowchart.Plain

open Flowchart.Text Flowchart.Notation Flowchart.Statement

/-! ### Labels -/

/-- Words of ASCII letters and digits, joined by single spaces or single hyphens. -/
inductive IsLabel : List Char → Prop where
  | word {word : List Char} : word ≠ [] → (∀ c ∈ word, c.isAlphanum = true) → IsLabel word
  | joined {word rest : List Char} {mark : Char} : word ≠ [] →
      (∀ c ∈ word, c.isAlphanum = true) → mark = ' ' ∨ mark = '-' → IsLabel rest →
      IsLabel (word ++ mark :: rest)

namespace IsLabel

variable {text : List Char}

theorem areWords (isLabel : IsLabel text) : AreWords text := by
  induction isLabel with
  | word nonempty alphanumeric => exact .word (isWord_of_isAlphanum nonempty alphanumeric)
  | joined nonempty alphanumeric isMark _ ih =>
      exact .joined (isWord_of_isAlphanum nonempty alphanumeric) isMark ih

/-- Without hyphens, a label is a phrase. -/
theorem isPhrase (isLabel : IsLabel text) (free : '-' ∉ text) : IsPhrase text := by
  induction isLabel with
  | word nonempty alphanumeric => exact .word nonempty alphanumeric
  | joined nonempty alphanumeric isMark _ ih =>
      rcases isMark with rfl | rfl
      · exact .joined nonempty alphanumeric (ih (by simp_all))
      · exact absurd (by simp) free

end IsLabel

/-! ### Lines -/

/-- An arrow with its label inside. -/
def inlineLine (source text target : List Char) : List Char :=
  source ++ (" -- ".toList ++ (text ++ (" --> ".toList ++ target)))

/-- An arrow with its label between pipes. -/
def pipedLine (source text target : List Char) : List Char :=
  source ++ (" -->|".toList ++ (text ++ ("| ".toList ++ target)))

/-- What the strict reader finds on either line. -/
def labeledStatement (source text target : List Char) : Statement :=
  .edges [⟨String.ofList source, none⟩]
    [⟨⟨.normal, true, some (String.ofList text)⟩, [⟨String.ofList target, none⟩]⟩]

/-! ### Labels inside -/

theorem untilClosing_cons {c : Char} {rest : List Char} (noPipe : c ≠ '|')
    (unclosed : closingToken (skipInline (c :: rest)) = none) :
    untilClosing (c :: rest) = (untilClosing rest).map fun found => (c :: found.1, found.2) := by
  rw [untilClosing, unclosed]
  simp [noPipe]

/-- No arrow ends where a word goes on. -/
theorem closingToken_of_isAsciiWord {c : Char} (rest : List Char) (word : isAsciiWord c = true) :
    closingToken (skipInline (c :: rest)) = none := by
  rw [skipInline_of_stops (stops_cons (isInlineBlank_of_isAsciiWord word))]
  apply closingToken_of_ne (ne_of_isMark word (by decide)) (ne_of_isMark word (by decide))
  intro isPoint
  exact absurd isPoint (ne_of_isMark word (by decide))

/-- No arrow ends where a space or a single hyphen stands before a word. -/
theorem closingToken_of_joint {mark c : Char} (rest : List Char) (isMark : mark = ' ' ∨ mark = '-')
    (word : isAsciiWord c = true) : closingToken (skipInline (mark :: c :: rest)) = none := by
  rcases isMark with rfl | rfl
  · have blank : isInlineBlank ' ' = true := by decide
    rw [skipInline, List.dropWhile_cons_of_pos blank]
    exact closingToken_of_isAsciiWord rest word
  · have noHyphen : c ≠ '-' := ne_of_isMark word (by decide)
    have noHead : c ≠ '>' := ne_of_isMark word (by decide)
    have hyphens : lineToken '-' 2 ('-' :: c :: rest) = none := by
      simp [lineToken, run, noHyphen, noHead]
    have equals : lineToken '=' 2 ('-' :: c :: rest) = none :=
      lineToken_of_stops (stops_cons (by decide))
    have dotted : dottedClosing ('-' :: c :: rest) = none := rfl
    rw [skipInline_of_stops (stops_cons (by decide)), closingToken, firstOf_of_none hyphens,
      firstOf_of_none dotted, firstOf_of_none equals]
    rfl

theorem untilClosing_word {word rest inner token left : List Char}
    (ascii : ∀ c ∈ word, isAsciiWord c = true)
    (read : untilClosing rest = some (inner, token, left)) :
    untilClosing (word ++ rest) = some (word ++ inner, token, left) := by
  induction word with
  | nil => exact read
  | cons c word ih =>
      have here := ascii c List.mem_cons_self
      have tail := ih fun d member => ascii d (List.mem_cons_of_mem c member)
      have unclosed := closingToken_of_isAsciiWord (word ++ rest) here
      rw [List.cons_append, untilClosing_cons (ne_of_isMark here (by decide)) unclosed, tail]
      rfl

/-- A label is read up to the end of its arrow. -/
theorem untilClosing_label {text after token left : List Char} (isLabel : IsLabel text)
    (closes : closingToken (skipInline after) = some (token, left)) :
    untilClosing (text ++ after) = some (text, token, left) := by
  induction isLabel with
  | @word word _ alphanumeric =>
      have ascii : ∀ c ∈ word, isAsciiWord c = true :=
        fun c member => isAsciiWord_of_isAlphanum (alphanumeric c member)
      have ended : untilClosing after = some ([], token, left) := by
        cases after with
        | nil => cases closes
        | cons c after => rw [untilClosing, closes]
      have read := untilClosing_word ascii ended
      rwa [List.append_nil] at read
  | @joined word rest mark _ alphanumeric isMark isLabel ih =>
      have ascii : ∀ c ∈ word, isAsciiWord c = true :=
        fun c member => isAsciiWord_of_isAlphanum (alphanumeric c member)
      have noPipe : mark ≠ '|' := by
        rcases isMark with rfl | rfl <;> decide
      obtain ⟨c, tail, starts, next⟩ := isLabel.areWords.head
      have unclosed : closingToken (skipInline (mark :: (rest ++ after))) = none := by
        rw [starts]
        exact closingToken_of_joint (tail ++ after) isMark next
      have onward : untilClosing (mark :: (rest ++ after)) = some (mark :: rest, token, left) := by
        rw [untilClosing_cons noPipe unclosed, ih]
        rfl
      have read := untilClosing_word ascii onward
      rwa [List.append_assoc, List.cons_append]

/-- An arrow around a label is read with the label. -/
theorem textLink_label {text rest : List Char} (isLabel : IsLabel text)
    (token : Stops ("-=>".toList.contains ·) rest) :
    textLink ("--".toList ++ ([' '] ++ (text ++ (' ' :: ("-->".toList ++ rest))))) =
      some (("--".toList ++ "-->".toList, some text), rest) := by
  have closes : closingToken (skipInline (' ' :: ("-->".toList ++ rest))) =
      some ("-->".toList, rest) := closingToken_append .normal true token
  have read := untilClosing_label isLabel closes
  have whole := trim_of_isTrimmed isLabel.areWords.isTrimmed
  obtain ⟨c, tail, rfl, word⟩ := isLabel.areWords.head
  have starts : startsLinkText c = true := by
    have checked : ∀ code : Fin 128, isAsciiWord (Char.ofNat code) = true →
        startsLinkText (Char.ofNat code) = true := by
      decide +kernel
    exact forall_ascii (fun c => isAsciiWord c = true → startsLinkText c = true) checked
      (toNat_lt_of_isAsciiWord word) word
  have unclosed := closingToken_of_isAsciiWord (tail ++ ' ' :: ("-->".toList ++ rest)) word
  rw [List.cons_append, untilClosing_cons (ne_of_isMark word (by decide)) unclosed,
    Option.map_eq_some_iff] at read
  obtain ⟨⟨inner, closing, left⟩, readTail, same⟩ := read
  cases same
  have blank : Gap [' '] := by decide
  have found := @textLink_of_untilClosing .normal _ _ _ _ _ _ blank starts readTail
  rw [whole] at found
  exact found

section Lines

variable {source text target : List Char}

theorem groupText_word {word : List Char} (isWord : IsWord word) :
    GroupText [⟨String.ofList word, none⟩] word :=
  .one (.plain (.word isWord))

/-- The arrow around a label, with the node it leads to. -/
theorem hop_inline (isTarget : IsWord target) (isLabel : IsLabel text) :
    hop (" -- ".toList ++ (text ++ (" --> ".toList ++ target))) =
      some (⟨⟨.normal, true, some (String.ofList text)⟩, [⟨String.ofList target, none⟩]⟩, []) := by
  have blank : Gap [' '] := by decide
  have written := groupText_word isTarget
  have ends := linkEnds_group [] blank written
  have arrow : Statement.link ("--".toList ++ ([' '] ++ (text ++ (' ' :: ("-->".toList ++
      ([' '] ++ (target ++ []))))))) =
        some (⟨.normal, true, some (String.ofList text)⟩, [' '] ++ (target ++ [])) :=
    link_of_textLink (textLink_label isLabel ends.token) isLabel.areWords.isTrimmed.nonempty
      ends.label
  have found := @hop_of_link _ _ [' '] ("--".toList ++ ([' '] ++ (text ++ " -->".toList))) [' ']
    target [] blank (stops_cons (by decide)) (List.cons_ne_nil _ _)
    (by simpa using arrow) blank written groupEnds_nil
  simpa using found

/-- The strict reader finds an arrow with its label inside. -/
theorem ofLine?_inlineLine (isSource : IsWord source) (isTarget : IsWord target)
    (free : KeywordFree source) (isLabel : IsLabel text) :
    ofLine? (inlineLine source text target) =
      some (some (labeledStatement source text target)) := by
  have found := hop_inline isTarget isLabel
  have ended : many hop [] = ([], []) := many_of_none (hop_lineEnd (.blank gap_nil))
  have readHops : many hop (" -- ".toList ++ (text ++ (" --> ".toList ++ target)) ++ []) =
      ([⟨⟨.normal, true, some (String.ofList text)⟩, [⟨String.ofList target, none⟩]⟩], []) := by
    rw [List.append_nil, many_of_some found (by simp), ended]
  have blank : Gap [' '] := by decide
  have ends : GroupEnds (" -- ".toList ++ (text ++ (" --> ".toList ++ target)) ++ []) :=
    @groupEnds_gap [' '] _ blank (groupEnds_linkOpening .normal _)
  have marked : Marked (" -- ".toList ++ (text ++ (" --> ".toList ++ target)) ++ []) :=
    marked_cons (by decide) _
  have whole := ofLine?_of_hops gap_nil (groupText_word isSource) ends readHops
    (List.cons_ne_nil _ _) marked ⟨'-', by simp, Or.inl rfl⟩ (.blank gap_nil)
    (by rwa [String.toList_ofList])
  rwa [List.append_nil] at whole

/-- The strict reader finds an arrow with its label between pipes. -/
theorem ofLine?_pipedLine (isSource : IsWord source) (isTarget : IsWord target)
    (free : KeywordFree source) (isLabel : IsLabel text) :
    ofLine? (pipedLine source text target) = some (some (labeledStatement source text target)) := by
  have blank : Gap [' '] := by decide
  have inside : ∀ c ∈ text, c ≠ '|' ∧ c ≠ '\n' := fun c member =>
    ⟨isLabel.areWords.ne_of_mem member (by decide) (by decide),
      isLabel.areWords.ne_of_mem member (by decide) (by decide)⟩
  have arrow : LinkText ⟨.normal, true, some (String.ofList text)⟩
      (plainLink .normal true ++ [] ++ '|' :: ([] ++ text ++ [] ++ ['|'])) :=
    .piped .normal true gap_nil gap_nil gap_nil isLabel.areWords.isTrimmed inside
  have chain := HopsText.cons blank arrow blank (groupText_word isTarget) .nil
  have written := EdgesText.line gap_nil (groupText_word isSource) (List.cons_ne_nil _ _) chain
    (.blank gap_nil)
  have read := ofLine?_edgesText written (by simpa using free)
  simpa [pipedLine, plainLink, labeledStatement] using read

end Lines

end Flowchart.Plain
