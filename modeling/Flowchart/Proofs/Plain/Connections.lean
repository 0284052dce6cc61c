import Flowchart.Proofs.Plain.Declarations

/-!
The search for links in the chains of plain diagrams, once the brackets are gone.

The search for one kind of link finds the links of this kind and reads nothing at the others, with
one exception: the arrow at the end of a link `-- text -->` is found after the last word of the
text. That link is claimed by then, because links with a text inside are searched before bare
arrows.

Main statement: `Chain.connections_bare`.
-/

namespace Flowchart.Plain

open Flowchart.Text Flowchart.Scan

/-! ### Kinds of links -/

/-- The kinds of links that are searched, named for how they are written. -/
inductive LinkKind where
  | pipedArrow
  | pipedDotted
  | innerArrow
  | dotted
  | innerDotted
  | thick
  | arrow
  | line
deriving DecidableEq

def LinkKind.connector : LinkKind → Connector
  | pipedArrow => { body := pipedBody "-->" }
  | pipedDotted => { body := pipedBody "-.->", stroke := .dotted }
  | innerArrow => { body := labeledArrowBody }
  | dotted => { body := bareBody "-.->", stroke := .dotted }
  | innerDotted => { body := labeledDottedBody, stroke := .dotted }
  | thick => { body := bareBody "==>", stroke := .thick }
  | arrow => { body := bareBody "-->" }
  | line => { body := bareBody "---", directed := false }

/-- The kinds in the order in which they are searched. -/
def linkKinds : List LinkKind :=
  [.pipedArrow, .pipedDotted, .innerArrow, .dotted, .innerDotted, .thick, .arrow, .line]

theorem mem_linkKinds (kind : LinkKind) : kind ∈ linkKinds := by
  cases kind <;> decide

theorem map_connector : linkKinds.map LinkKind.connector = connectors :=
  rfl

/-- The kind of a link of the common language. -/
def Tie.kind : Tie → LinkKind
  | arrow => .arrow
  | dotted => .dotted
  | thick => .thick
  | line => .line
  | labeledArrow _ => .pipedArrow
  | labeledDotted _ => .pipedDotted
  | textArrow _ => .innerArrow

/-! ### What follows a word -/

/-- What the search for a kind of link reads after a word: the word that the link leads to, and the
label. -/
def afterTie (kind : LinkKind) : Recognizer (List Char × Option (List Char)) := fun text => do
  let (label, rest) ← kind.connector.body (text.dropWhile isBlank)
  let left := rest.dropWhile isBlank
  let (target, _) ← run1 isNameChar left
  some ((target, label), left)

/-- The search for a kind of link reads a word and then what is behind it. -/
theorem wordLed_connected (kind : LinkKind) :
    WordLed (connected kind.connector) (afterTie kind) fun word found =>
      (word, found.1, found.2) where
  word := by
    intro word rest nonempty inside stops
    have read := run1_append nonempty inside stops
    simp only [connected, afterTie, read, Option.bind_eq_bind, Option.bind_some,
      Option.map_bind, Function.comp_def, Option.map_some]
  other := by
    intro c rest outside
    have read : run1 isNameChar (c :: rest) = none := run1_of_stops (stops_cons outside)
    simp [connected, read]

/-- A link with the spaces around it. -/
def Tie.spaced (tie : Tie) : List Char :=
  [' '] ++ tie.chars ++ [' ']

theorem body_of_ne (kind : LinkKind) {c : Char} (noHyphen : c ≠ '-') (noDouble : c ≠ '=')
    (rest : List Char) : kind.connector.body (c :: rest) = none := by
  cases kind <;>
    simp [LinkKind.connector, pipedBody, bareBody, labeledArrowBody, labeledDottedBody,
      afterLiteral, noHyphen, noDouble]

/-- Nothing is read where no link begins. -/
theorem afterTie_of_ne (kind : LinkKind) {c : Char} (noHyphen : c ≠ '-') (noDouble : c ≠ '=')
    (visible : isBlank c = false) (rest : List Char) : afterTie kind (c :: rest) = none := by
  rw [afterTie, dropWhile_of_stops (stops_cons visible), body_of_ne kind noHyphen noDouble]
  rfl

theorem afterTie_space (kind : LinkKind) (rest : List Char) :
    afterTie kind (' ' :: rest) = afterTie kind rest := by
  have blank : isBlank ' ' = true := by decide
  rw [afterTie, List.dropWhile_cons_of_pos blank]
  rfl

/-- The search for links reads nothing between the words of a text. -/
theorem afterTie_between (kind : LinkKind) (c : Char) (rest : List Char)
    (word : isAsciiWord c = true) : afterTie kind (' ' :: c :: rest) = none := by
  have noHyphen : c ≠ '-' := ne_of_isMark word (by decide)
  have noDouble : c ≠ '=' := ne_of_isMark word (by decide)
  rw [afterTie_space]
  exact afterTie_of_ne kind noHyphen noDouble (isBlank_of_isAsciiWord word) rest

/-- At a link of another kind nothing is read. -/
theorem Tie.afterTie_foreign (tie : Tie) {kind : LinkKind} (foreign : tie.kind ≠ kind)
    (rest : List Char) : afterTie kind (tie.spaced ++ rest) = none := by
  cases tie <;> cases kind <;> first | exact absurd rfl foreign | rfl

/-- A label between pipes is read as it is written. -/
theorem pipedBody_label (token : String) {label : List Char} (pipeFree : ∀ c ∈ label, c ≠ '|')
    (rest : List Char) :
    pipedBody token (token.toList ++ '|' :: (label ++ '|' :: rest)) = some (some label, rest) := by
  have inside : ∀ c ∈ label, (c != '|') = true :=
    fun c member => bne_iff_ne.mpr (pipeFree c member)
  have stops : Stops (· != '|') ('|' :: rest) := stops_cons (by decide)
  simp only [pipedBody, afterLiteral_append, Option.bind_eq_bind, Option.bind_some]
  simp [afterLiteral, run_append inside stops]

/-- The blanks around a text inside a link are not part of it. -/
theorem labeledArrowBody_text (text : Phrase) (rest : List Char) :
    labeledArrowBody ("--".toList ++ ' ' :: (text.text ++ ' ' :: ("-->".toList ++ rest))) =
      some (some text.text, rest) := by
  obtain ⟨c, tail, starts, word⟩ := text.isPhrase.head
  have hyphenFree : ∀ d ∈ text.text ++ [' '], (d != '-') = true := by
    refine forall_ne_append ?_ (forall_ne_singleton (by decide))
    intro d member
    exact bne_iff_ne.mpr (text.isPhrase.ne_of_mem member (by decide) (by decide))
  have head : c ≠ '>' := ne_of_isMark word (by decide)
  have stops : Stops (· != '-') ("-->".toList ++ rest) := stops_cons (by decide)
  have read := run1_append (by simp) hyphenFree stops
  have trimmed : trimRight (text.text ++ [' ']) = text.text := by
    rw [trimRight, List.reverse_append, List.reverse_singleton,
      dropWhile_append_stops isBlank_of_mem_space text.isPhrase.isTrimmed.last,
      List.reverse_reverse]
  have skipped : (' ' :: (text.text ++ ' ' :: ("-->".toList ++ rest))).dropWhile isBlank =
      c :: (tail ++ ' ' :: ("-->".toList ++ rest)) := by
    have blank : isBlank ' ' = true := by decide
    rw [List.dropWhile_cons_of_pos blank, starts]
    exact dropWhile_of_stops (stops_cons (isBlank_of_isAsciiWord word))
  have whole : c :: (tail ++ ' ' :: ("-->".toList ++ rest)) =
      text.text ++ [' '] ++ ("-->".toList ++ rest) := by
    rw [starts]
    simp
  simp only [labeledArrowBody, afterLiteral_append, Option.bind_eq_bind, Option.bind_some, skipped,
    beq_iff_eq, head, if_false]
  rw [whole, read]
  simp only [Option.bind_some, afterLiteral_append, trimmed]

/-- The search for its own kind reads a link and its label. -/
theorem Tie.body_own (tie : Tie) (rest : List Char) :
    tie.kind.connector.body (tie.chars ++ rest) = some (tie.label.map Phrase.text, rest) := by
  cases tie with
  | arrow | dotted | thick | line => rfl
  | labeledArrow label =>
      rw [Tie.chars_labeledArrow, List.append_assoc, List.cons_append, List.append_assoc]
      exact pipedBody_label "-->" label.pipeFree rest
  | labeledDotted label =>
      rw [Tie.chars_labeledDotted, List.append_assoc, List.cons_append, List.append_assoc]
      exact pipedBody_label "-.->" label.pipeFree rest
  | textArrow text =>
      rw [Tie.chars_textArrow, List.append_assoc, List.cons_append, List.append_assoc,
        List.cons_append]
      exact labeledArrowBody_text text rest

theorem Tie.stops_chars (tie : Tie) (rest : List Char) : Stops isBlank (tie.chars ++ rest) := by
  cases tie <;> exact stops_cons (by decide)

/-- The search for its own kind reads a link, up to the word that it leads to. -/
theorem Tie.afterTie_own (tie : Tie) (target : Name) {rest : List Char}
    (stops : Stops isNameChar rest) :
    afterTie tie.kind (tie.spaced ++ (target.text ++ rest)) =
      some ((target.text, tie.label.map Phrase.text), target.text ++ rest) := by
  have blank : isBlank ' ' = true := by decide
  have text : tie.spaced ++ (target.text ++ rest) =
      ' ' :: (tie.chars ++ ' ' :: (target.text ++ rest)) := by
    simp [Tie.spaced]
  have skipped : (' ' :: (target.text ++ rest)).dropWhile isBlank = target.text ++ rest := by
    rw [List.dropWhile_cons_of_pos blank]
    exact dropWhile_of_stops (stops_append target.isWord.nonempty
      (isTrimmed_of_isWord target.isWord).first rest)
  have read := run1_append target.isWord.nonempty (isNameChar_of_isWord target.isWord) stops
  rw [text, afterTie_space, afterTie, dropWhile_of_stops (tie.stops_chars _), tie.body_own]
  simp only [Option.bind_eq_bind, Option.bind_some, skipped, read]

/-! ### Sites -/

/-- A link of a chain of bare ids with the ids at its ends, and where the first of them starts. -/
structure Hinge where
  start : Nat
  source : Name
  tie : Tie
  target : Name

/-- The connection that is found where a link follows a word. -/
def connectionAt (start : Nat) (word : List Char) (tie : Tie) (target : Name) : Connection where
  position := start
  claimed := ⟨start + word.length, start + word.length + tie.spaced.length⟩
  source := String.ofList word
  target := target.id
  label := tie.label.map fun label => String.ofList label.text
  stroke := tie.stroke
  directed := tie.directed

/-- The connection of a link. -/
def Hinge.connection (hinge : Hinge) : Connection :=
  connectionAt hinge.start hinge.source.text hinge.tie hinge.target

/-- The arrow at the end of a link with a text inside, after the last word of the text. -/
def Hinge.shade (hinge : Hinge) : Connection :=
  let text := (hinge.tie.label.map Phrase.text).getD []
  connectionAt (hinge.start + hinge.source.text.length + " -- ".toList.length + (lead text).length)
    (lastWord text) .arrow hinge.target

/-- The search for links, kind by kind. -/
def linkSurvey : Survey LinkKind Hinge Connection where
  kinds := linkKinds
  kind hinge := hinge.tie.kind
  shades seen kind := seen = .arrow && kind = .innerArrow
  item := Hinge.connection
  shade _ := Hinge.shade

/-- The links along steps, from a word that starts at a position. -/
def hingesFrom : Nat → Name → List Step → List Hinge
  | _, _, [] => []
  | position, source, step :: steps =>
    ⟨position, source, step.tie, step.target.name⟩ ::
      hingesFrom (position + source.text.length + step.tie.spaced.length) step.target.name steps

/-- The links of a chain. -/
def Chain.hinges (links : Chain) : List Hinge :=
  hingesFrom 0 links.first.name links.steps

/-! ### The search along a chain -/

/-- The connection of what the search for a kind of link has read. -/
def foundConnection (kind : LinkKind)
    (found : Span × List Char × List Char × Option (List Char)) : Connection where
  position := found.1.start
  claimed := ⟨found.1.start + found.2.1.length, found.1.stop⟩
  source := String.ofList found.2.1
  target := String.ofList found.2.2.1
  label := labelText? found.2.2.2
  stroke := kind.connector.stroke
  directed := kind.connector.directed

/-- The links that the search for a kind finds in a text that starts at a position. -/
def connectionsFrom (kind : LinkKind) (position : Nat) (text : List Char) : List Connection :=
  (findAll (connected kind.connector) position text).map (foundConnection kind)

theorem Tie.labelText? (tie : Tie) :
    Scan.labelText? (tie.label.map Phrase.text) =
      tie.label.map fun label => String.ofList label.text := by
  cases tie.label with
  | none => rfl
  | some label =>
      obtain ⟨c, rest, starts, _⟩ := label.isPhrase.head
      rw [Option.map_some, Scan.labelText?, Option.map_some, cleanLabelChars_phrase label.isPhrase,
        starts, Option.map_some, starts]

/-- The search for its own kind finds a connector with its two ends and its label. -/
theorem Tie.foundConnection_own (tie : Tie) (position : Nat) (word : List Char) (target : Name) :
    foundConnection tie.kind (⟨position, position + word.length + tie.spaced.length⟩, word,
      target.text, tie.label.map Phrase.text) = connectionAt position word tie target := by
  have stroke : tie.kind.connector.stroke = tie.stroke := by cases tie <;> rfl
  have directed : tie.kind.connector.directed = tie.directed := by cases tie <;> rfl
  simp only [foundConnection, connectionAt, tie.labelText?, stroke, directed, Name.id]

theorem Tie.stops_spaced (tie : Tie) (rest : List Char) :
    Stops isNameChar (tie.spaced ++ rest) := by
  rw [Tie.spaced, List.append_assoc]
  exact stops_cons (by decide)

/-- After a word, the search for its own kind finds a link and goes on at the word it leads to. -/
theorem Tie.connectionsFrom_own (tie : Tie) {word : List Char} (isWord : Notation.IsWord word)
    (target : Name) (position : Nat) {rest : List Char} (stops : Stops isNameChar rest) :
    connectionsFrom tie.kind position (word ++ (tie.spaced ++ (target.text ++ rest))) =
      connectionAt position word tie target ::
        connectionsFrom tie.kind (position + word.length + tie.spaced.length)
          (target.text ++ rest) := by
  have led := wordLed_connected tie.kind
  have shorter : (target.text ++ rest).length ≤
      (tie.spaced ++ (target.text ++ rest)).length := by
    rw [@List.length_append _ tie.spaced]
    exact Nat.le_add_left _ _
  have read := led.findAll_word_some isWord.nonempty (isNameChar_of_isWord isWord)
    (tie.stops_spaced _) (tie.afterTie_own target stops) shorter position
  have taken : (tie.spaced ++ (target.text ++ rest)).length - (target.text ++ rest).length =
      tie.spaced.length := by
    rw [List.length_append, Nat.add_sub_cancel]
  rw [taken] at read
  rw [connectionsFrom, read, List.map_cons, tie.foundConnection_own]
  rfl

/-- After a word, the search for another kind finds nothing. -/
theorem Tie.connectionsFrom_foreign (tie : Tie) {kind : LinkKind} (foreign : tie.kind ≠ kind)
    {word : List Char} (isWord : Notation.IsWord word) (position : Nat) (rest : List Char) :
    connectionsFrom kind position (word ++ (tie.spaced ++ rest)) =
      connectionsFrom kind (position + word.length) (tie.spaced ++ rest) := by
  have passed := (wordLed_connected kind).findAll_word_none (isNameChar_of_isWord isWord)
    (tie.stops_spaced rest) (tie.afterTie_foreign foreign rest) position
  rw [connectionsFrom, passed]
  rfl

theorem connectionsFrom_others (kind : LinkKind) {between : List Char}
    (outside : ∀ c ∈ between, isNameChar c = false) (position : Nat) (rest : List Char) :
    connectionsFrom kind position (between ++ rest) =
      connectionsFrom kind (position + between.length) rest :=
  congrArg (List.map (foundConnection kind))
    ((wordLed_connected kind).findAll_others outside position rest)

/-- A label between pipes is passed over. -/
theorem connectionsFrom_label (kind : LinkKind) {arrow : List Char}
    (outside : arrow.all (fun c => !isNameChar c) = true) (label : Phrase) (position : Nat)
    (rest : List Char) :
    connectionsFrom kind position (arrow ++ (label.text ++ ("| ".toList ++ rest))) =
      connectionsFrom kind (position + (arrow ++ (label.text ++ "| ".toList)).length) rest := by
  have led := wordLed_connected kind
  have stops : Stops isNameChar ("| ".toList ++ rest) := stops_cons (by decide)
  have refused : afterTie kind ("| ".toList ++ rest) = none :=
    afterTie_of_ne kind (by decide) (by decide) (by decide) (' ' :: rest)
  have words := congrArg (List.map (foundConnection kind))
    (findAll_words led label.isPhrase.areWords (label.isPhrase.between (afterTie_between kind))
      stops refused (position + arrow.length))
  have behind : ∀ c ∈ "| ".toList, isNameChar c = false := isNameChar_of_all (by decide)
  have closing := connectionsFrom_others kind behind
    (position + arrow.length + label.text.length) rest
  rw [connectionsFrom_others kind (isNameChar_of_all outside), List.length_append,
    List.length_append, ← Nat.add_assoc, ← Nat.add_assoc]
  exact words.trans closing

theorem Tie.spaced_labeledArrow (label : Phrase) :
    (Tie.labeledArrow label).spaced = " -->|".toList ++ (label.text ++ "| ".toList) := by
  rw [Tie.spaced, Tie.chars_labeledArrow]
  simp only [List.append_assoc, List.cons_append, List.nil_append]
  rfl

theorem Tie.spaced_labeledDotted (label : Phrase) :
    (Tie.labeledDotted label).spaced = " -.->|".toList ++ (label.text ++ "| ".toList) := by
  rw [Tie.spaced, Tie.chars_labeledDotted]
  simp only [List.append_assoc, List.cons_append, List.nil_append]
  rfl

theorem Tie.spaced_textArrow (text : Phrase) :
    (Tie.textArrow text).spaced =
      " -- ".toList ++ (lead text.text ++ (lastWord text.text ++ Tie.arrow.spaced)) := by
  rw [Tie.spaced, Tie.chars_textArrow, ← List.append_assoc (lead text.text), lead_append_lastWord]
  simp only [List.append_assoc, List.cons_append, List.nil_append]
  rfl

/-- The words before the last of a text inside a link are passed over. -/
theorem connectionsFrom_lead (kind : LinkKind) (text : Phrase) (position : Nat)
    (rest : List Char) :
    connectionsFrom kind position ((Tie.textArrow text).spaced ++ rest) =
      connectionsFrom kind (position + " -- ".toList.length + (lead text.text).length)
        (lastWord text.text ++ (Tie.arrow.spaced ++ rest)) := by
  have before : ∀ c ∈ " -- ".toList, isNameChar c = false := isNameChar_of_all (by decide)
  have words := congrArg (List.map (foundConnection kind))
    (findAll_lead (wordLed_connected kind) text.isPhrase.areWords
      (text.isPhrase.between (afterTie_between kind)) (position + " -- ".toList.length)
      (Tie.arrow.spaced ++ rest))
  rw [Tie.spaced_textArrow, ← List.append_assoc (lead text.text), lead_append_lastWord,
    List.append_assoc, List.append_assoc, connectionsFrom_others kind before]
  exact words

/-- An arrow with a text is as long as its parts. -/
theorem Tie.length_textArrow (text : Phrase) :
    (Tie.textArrow text).spaced.length =
      " -- ".toList.length + (lead text.text).length + (lastWord text.text).length +
        Tie.arrow.spaced.length := by
  rw [Tie.spaced_textArrow]
  simp only [List.length_append, Nat.add_assoc]

/-- The search for a kind passes over a link whose first end it has passed, unless it finds the
arrow at the end of the link. -/
theorem Tie.connectionsFrom_spaced (tie : Tie) {kind : LinkKind}
    (clear : tie.kind = .innerArrow → kind ≠ .arrow) (position : Nat) (rest : List Char) :
    connectionsFrom kind position (tie.spaced ++ rest) =
      connectionsFrom kind (position + tie.spaced.length) rest := by
  have arrowOthers : ∀ c ∈ Tie.arrow.spaced, isNameChar c = false := isNameChar_of_all (by decide)
  cases tie with
  | arrow | dotted | thick | line =>
      exact connectionsFrom_others kind (isNameChar_of_all (by decide)) position rest
  | labeledArrow label =>
      rw [Tie.spaced_labeledArrow, List.append_assoc, List.append_assoc]
      exact connectionsFrom_label kind (by decide) label position rest
  | labeledDotted label =>
      rw [Tie.spaced_labeledDotted, List.append_assoc, List.append_assoc]
      exact connectionsFrom_label kind (by decide) label position rest
  | textArrow text =>
      have isWord := (isWord_lastWord text.isPhrase.areWords)
      have foreign : Tie.arrow.kind ≠ kind := (clear rfl).symm
      rw [connectionsFrom_lead, Tie.arrow.connectionsFrom_foreign foreign isWord,
        connectionsFrom_others kind arrowOthers, Tie.length_textArrow]
      simp only [Nat.add_assoc]

/-- The search for arrows finds the one at the end of a link with a text inside. -/
theorem connectionsFrom_shade (text : Phrase) (target : Name) (position : Nat) {rest : List Char}
    (stops : Stops isNameChar rest) :
    connectionsFrom .arrow position ((Tie.textArrow text).spaced ++ (target.text ++ rest)) =
      connectionAt (position + " -- ".toList.length + (lead text.text).length)
          (lastWord text.text) .arrow target ::
        connectionsFrom .arrow (position + (Tie.textArrow text).spaced.length)
          (target.text ++ rest) := by
  have isWord := (isWord_lastWord text.isPhrase.areWords)
  have found := Tie.arrow.connectionsFrom_own isWord target
    (position + " -- ".toList.length + (lead text.text).length) stops
  rw [connectionsFrom_lead, Tie.length_textArrow]
  simp only [← Nat.add_assoc]
  exact found

/-- The search for a kind at a link of a chain. -/
theorem Hinge.connectionsFrom_chars (hinge : Hinge) (kind : LinkKind) {rest : List Char}
    (stops : Stops isNameChar rest) :
    connectionsFrom kind hinge.start
        (hinge.source.text ++ (hinge.tie.spaced ++ (hinge.target.text ++ rest))) =
      linkSurvey.hits kind hinge ++
        connectionsFrom kind (hinge.start + hinge.source.text.length + hinge.tie.spaced.length)
          (hinge.target.text ++ rest) := by
  by_cases own : hinge.tie.kind = kind
  · have hit : linkSurvey.hits kind hinge = [hinge.connection] := Survey.hits_own own
    subst own
    rw [hit, hinge.tie.connectionsFrom_own hinge.source.isWord hinge.target hinge.start stops]
    rfl
  · have passed := hinge.tie.connectionsFrom_foreign own hinge.source.isWord hinge.start
      (hinge.target.text ++ rest)
    rw [passed]
    by_cases shaded : (kind = .arrow && hinge.tie.kind = .innerArrow) = true
    · have hit : linkSurvey.hits kind hinge = [hinge.shade] := Survey.hits_shade own shaded
      obtain ⟨start, source, tie, target⟩ := hinge
      simp only [Bool.and_eq_true, decide_eq_true_eq] at shaded
      obtain ⟨rfl, inner⟩ := shaded
      rw [hit]
      cases tie with
      | textArrow text => exact connectionsFrom_shade text target _ stops
      | _ => cases inner
    · have hit : linkSurvey.hits kind hinge = [] :=
        Survey.hits_clear own (by simpa [linkSurvey] using shaded)
      rw [hit, List.nil_append]
      refine hinge.tie.connectionsFrom_spaced ?_ _ _
      rintro inner rfl
      exact shaded (by simp [inner])

theorem stops_bare (steps : List Step) : Stops isNameChar (steps.flatMap Step.bare) := by
  cases steps with
  | nil => exact stops_nil _
  | cons step steps => exact stops_cons (by decide)

/-- The search for a kind along steps, from a word. -/
theorem connectionsFrom_steps (kind : LinkKind) (position : Nat) (source : Name)
    (steps : List Step) :
    connectionsFrom kind position (source.text ++ steps.flatMap Step.bare) =
      (hingesFrom position source steps).flatMap (linkSurvey.hits kind) := by
  induction steps generalizing position source with
  | nil =>
      have refused : afterTie kind [] = none := by cases kind <;> rfl
      have passed := (wordLed_connected kind).findAll_word_none
        (isNameChar_of_isWord source.isWord) (stops_nil _) refused position
      rw [List.flatMap_nil, connectionsFrom, passed, findAll]
      rfl
  | cons step steps ih =>
      have found := Hinge.connectionsFrom_chars ⟨position, source, step.tie, step.target.name⟩ kind
        (stops_bare steps)
      have text : (step :: steps).flatMap Step.bare =
          step.tie.spaced ++ (step.target.name.text ++ steps.flatMap Step.bare) := by
        simp [Step.bare, Tie.spaced]
      rw [text, hingesFrom, List.flatMap_cons, ← ih]
      exact found

/-! ### What is claimed -/

/-- Connectors are found behind the place where the steps begin. -/
theorem start_of_mem_hingesFrom {steps : List Step} {position : Nat} {source : Name}
    {hinge : Hinge} (member : hinge ∈ hingesFrom position source steps) :
    position ≤ hinge.start := by
  induction steps generalizing position source with
  | nil => cases member
  | cons step steps ih =>
      rcases List.mem_cons.mp member with rfl | later
      · exact Nat.le_refl _
      · have bound := ih later
        omega

/-- Each link of a chain ends where the next one has its first word. -/
theorem pairwise_hingesFrom (position : Nat) (source : Name) (steps : List Step) :
    (hingesFrom position source steps).Pairwise fun left right =>
      left.connection.claimed.stop ≤ right.start := by
  induction steps generalizing position source with
  | nil => exact .nil
  | cons step steps ih =>
      exact .cons (fun hinge member => start_of_mem_hingesFrom member) (ih _ _)

/-- The end of an arrow with a text is also found as a plain arrow, and overlaps it. -/
theorem Hinge.overlaps_shade (hinge : Hinge) (inner : hinge.tie.kind = .innerArrow) :
    hinge.shade.claimed.overlaps hinge.connection.claimed = true := by
  obtain ⟨start, source, tie, target⟩ := hinge
  cases tie with
  | textArrow text =>
      have length := Tie.length_textArrow text
      have visible := List.length_pos_iff.mpr (isWord_lastWord text.isPhrase.areWords).nonempty
      have spaced : 0 < Tie.arrow.spaced.length := by decide
      have before : start + source.text.length + " -- ".toList.length + (lead text.text).length +
          (lastWord text.text).length <
            start + source.text.length + (Tie.textArrow text).spaced.length := by
        omega
      have behind : start + source.text.length <
          start + source.text.length + " -- ".toList.length + (lead text.text).length +
            (lastWord text.text).length + Tie.arrow.spaced.length := by
        omega
      rw [Span.overlaps, Bool.and_eq_true]
      exact ⟨decide_eq_true before, decide_eq_true behind⟩
  | _ => cases inner

/-- The survey of the links of a chain is sound: each is found at its place, and nothing else is. -/
theorem Chain.sound_linkSurvey (links : Chain) :
    linkSurvey.Sound links.hinges Connection.claimed fun _ => false where
  distinct := by decide
  known := fun hinge _ => mem_linkKinds hinge.tie.kind
  later := by decide
  accepted := fun _ _ => rfl
  apart := by
    refine (pairwise_hingesFrom 0 links.first.name links.steps).imp ?_
    intro left right before
    exact Nat.le_trans before (Nat.le_add_right _ _)
  shaded := by
    intro kind hinge _ shaded
    have inner : hinge.tie.kind = .innerArrow := by
      simp only [linkSurvey, Bool.and_eq_true, decide_eq_true_eq] at shaded
      exact shaded.2
    exact hinge.overlaps_shade inner

/-- The links that are found in a chain of bare ids. -/
theorem Chain.connections_bare (links : Chain) :
    connections links.bare = links.hinges.map Hinge.connection := by
  have candidates : (connectors.flatMap fun connector => connectionsOf connector links.bare) =
      linkSurvey.candidates links.hinges := by
    rw [← map_connector, List.flatMap_map]
    exact List.flatMap_congr fun kind _ =>
      connectionsFrom_steps kind 0 links.first.name links.steps
  have increasing : links.hinges.Pairwise fun left right =>
      left.connection.position < right.connection.position := by
    refine (pairwise_hingesFrom 0 links.first.name links.steps).imp ?_
    intro left right before
    have visible := left.source.length_pos
    have inside : left.start < left.connection.claimed.stop := by
      have bound : left.start < left.start + left.source.text.length + left.tie.spaced.length := by
        omega
      exact bound
    exact Nat.lt_of_lt_of_le inside before
  have sorted := Survey.mergeSort_claimed links.sound_linkSurvey Connection.position increasing
  rw [connections]
  simp only [candidates, claimConnection_eq]
  exact sorted

end Flowchart.Plain
