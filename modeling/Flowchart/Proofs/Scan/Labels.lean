import Flowchart.Proofs.Plain.Labels
import Flowchart.Proofs.Scan.Entries

/-!
The two ways to write a label at an arrow, read forgivingly.

A label between pipes is found whatever it holds. A label inside an arrow is found if it holds no
hyphen; otherwise no link is found at the first word of the line, and the arrow that is left starts
at the last word of the label.

Main definition: `inlineArc`. Main statement: `labels_read`.
-/

namespace Flowchart.Scan

open Flowchart.Text Flowchart.Notation Flowchart.Plain
open Flowchart.Source (afterKeyword isDeclaration isSilent)
open Flowchart.Statement (Leads Marked marked_cons afterKeyword_of_leads)

/-! ### Lines that are no others -/

/-- A line with a hyphen in it that a word free of keywords leads is one of nodes and links. -/
theorem isBodyLine_of_leads {word line : List Char} (leads : Leads word line)
    (free : KeywordFree word) (trimmed : IsTrimmed line) (hyphen : '-' ∈ line) :
    isBodyLine line = true := by
  have whole : word.takeWhile isAsciiWord = word := List.takeWhile_eq_self_iff.mpr leads.1.ascii
  rw [KeywordFree, whole, ← map_foldLetterDotted leads.1] at free
  have refused : ∀ {belongs : Char → Bool} {keyword : String},
      keyword ∈ ["flowchart", "graph", "subgraph"] →
      (∀ c, isAsciiWord c = true → belongs c = true) →
      (∀ c, isMark c = true → belongs c = false) →
      afterKeyword belongs foldLetterDotted keyword.toList line = none := by
    intro belongs keyword listed inside outside
    have letters : ["flowchart", "graph", "subgraph"].all
        (fun keyword => keyword.toList.all isAsciiWord) = true := by decide
    apply afterKeyword_of_leads leads
      (List.all_eq_true.mp (List.all_eq_true.mp letters keyword listed)) inside outside
      (fun _ => isAsciiWord_foldLetterDotted_of_isMark)
    intro same
    exact free.1 (List.mem_map.mpr ⟨keyword, listed, same.symm⟩)
  have spoken : isSilent line = false := by
    obtain ⟨isWord, rest, rfl, _⟩ := leads
    obtain ⟨c, word, rfl⟩ := List.exists_cons_of_ne_nil isWord.nonempty
    exact isSilent_of_ne (ne_of_isMark (isWord.ascii c List.mem_cons_self) (by decide)) _
  have undeclared : isDeclaration line = false := by
    have shorter : ["flowchart", "graph"] ⊆ ["flowchart", "graph", "subgraph"] := by decide
    apply isDeclaration_of_none
    intro keyword listed
    rw [trim_of_isTrimmed trimmed]
    exact refused (shorter listed) (fun _ => isNameChar_of_isAsciiWord)
      (fun _ => isNameChar_of_isMark)
  have unopened : blockOfLine? line = none :=
    blockOfLine?_of_none (afterWordAndBlanks_of_none
      (refused (by simp) (fun _ => id) (fun _ => isAsciiWord_of_isMark)))
  have unclosed : closesBlock line = false := by
    rw [closesBlock, beq_eq_false_iff_ne]
    intro closes
    obtain ⟨front, split, folded⟩ := afterCaseless_eq_some.mp closes
    rw [List.append_nil] at split
    rw [split] at hyphen
    have letter : foldLetterDotted '-' ∈ "end".toList := by
      rw [← folded]
      exact List.mem_map_of_mem hyphen
    revert letter
    decide
  exact isBodyLine_of_spoken spoken undeclared unopened unclosed

/-! ### Lines without brackets -/

/-- The characters that the brackets of nodes begin with. -/
def bracketOpeners : List Char :=
  "[(\x7b".toList

theorem bracketed_of_free {shape : Shape} (listed : shape ∈ bracketShapes) {text : List Char}
    (free : ∀ c ∈ text, c ∉ bracketOpeners) : bracketed shape text = none := by
  have opening : ∃ opener literal, shape.opening = opener :: literal ∧
      opener ∈ bracketOpeners := by
    have checked : ∀ shape ∈ bracketShapes, shape.opening.headD ']' ∈ bracketOpeners ∧
        shape.opening ≠ [] := by
      decide
    obtain ⟨member, nonempty⟩ := checked shape listed
    obtain ⟨opener, literal, starts⟩ := List.exists_cons_of_ne_nil nonempty
    rw [starts] at member
    exact ⟨opener, literal, starts, member⟩
  obtain ⟨opener, literal, starts, isOpener⟩ := opening
  have unopened : ∀ left : List Char, (∀ c ∈ left, c ∈ text) →
      afterLiteral shape.opening left = none := by
    intro left inside
    rw [starts]
    cases left with
    | nil => rfl
    | cons c left =>
        apply if_neg
        rintro rfl
        exact free c (inside c List.mem_cons_self) isOpener
  cases text with
  | nil => rfl
  | cons c text =>
      cases word : isNameChar c with
      | false => simp [bracketed, run1, word]
      | true =>
          have refused := unopened (((c :: text).dropWhile isNameChar).dropWhile isBlank)
            fun d member =>
              (List.dropWhile_sublist isNameChar).mem ((List.dropWhile_sublist isBlank).mem member)
          simp only [bracketed, run1, word, if_true, run, Option.bind_eq_bind, Option.bind_some,
            refused]
          rfl

/-- On a line that holds no opening bracket outside its labels between pipes, no node with brackets
is found. -/
theorem declarations_of_free {line : List Char}
    (free : ∀ c ∈ maskPipeLabels line, c ∉ bracketOpeners) : declarations line = [] := by
  have unfound : ∀ shape ∈ bracketShapes, ∀ (position : Nat) (text : List Char),
      (∀ c ∈ text, c ∉ bracketOpeners) → findAll (bracketed shape) position text = [] := by
    intro shape listed position text
    induction text generalizing position with
    | nil =>
        intro _
        rw [findAll]
    | cons c text ih =>
        intro free
        rw [findAll_of_none position (bracketed_of_free listed free)]
        exact ih (position + 1) fun d member => free d (List.mem_cons_of_mem c member)
  have none : (bracketShapes.flatMap fun shape => declarationsOf shape (maskPipeLabels line)) =
      [] := by
    rw [List.flatMap_eq_nil_iff]
    intro shape listed
    rw [declarationsOf, unfound shape listed 0 _ free]
    rfl
  simp [declarations, none]

/-! ### Labels -/

theorem labelText?_label {text : List Char} (isLabel : IsLabel text) :
    labelText? (some text) = some (String.ofList text) := by
  have untagged : ∀ c ∈ text, foldLetterDotted c ≠ '<' ∧ c ≠ '<' := by
    intro c member
    rcases isLabel.areWords.chars c member with word | rfl | rfl
    · exact untagged_of_isAsciiWord word
    · decide
    · decide
  have cleaned := cleanLabelChars_of_untagged untagged (collapseBlanks_words isLabel.areWords)
    isLabel.areWords.isTrimmed
  obtain ⟨c, rest, starts, _⟩ := isLabel.areWords.head
  rw [labelText?, Option.map_some, cleaned, starts]

/-- A label with a hyphen in it has a first one, between two words. -/
theorem first_hyphen {text : List Char} (isLabel : IsLabel text) (hyphen : '-' ∈ text) :
    ∃ front c rest, text = front ++ '-' :: c :: rest ∧ front ≠ [] ∧ '-' ∉ front ∧
      isAsciiWord c = true := by
  have free : ∀ {word : List Char}, (∀ c ∈ word, c.isAlphanum = true) → '-' ∉ word := by
    intro word alphanumeric member
    exact ne_of_isMark (isAsciiWord_of_isAlphanum (alphanumeric _ member)) (by decide) rfl
  induction isLabel with
  | word _ alphanumeric => exact absurd hyphen (free alphanumeric)
  | @joined word rest mark nonempty alphanumeric isMark isLabel ih =>
      rcases isMark with rfl | rfl
      · have later : '-' ∈ rest := by
          rcases List.mem_append.mp hyphen with inWord | inRest
          · exact absurd inWord (free alphanumeric)
          · simpa using inRest
        obtain ⟨front, c, more, rfl, _, absent, next⟩ := ih later
        refine ⟨word ++ ' ' :: front, c, more, by simp, by simp, ?_, next⟩
        simp [free alphanumeric, absent]
      · obtain ⟨c, tail, rfl, next⟩ := isLabel.areWords.head
        exact ⟨word, c, tail, rfl, nonempty, free alphanumeric, next⟩

/-! ### The search for links -/

/-- Nothing is read where a single hyphen stands before a word. -/
theorem afterTie_hyphen (kind : LinkKind) {c : Char} (word : isAsciiWord c = true)
    (rest : List Char) : afterTie kind ('-' :: c :: rest) = none := by
  have noHyphen : c ≠ '-' := ne_of_isMark word (by decide)
  have noPoint : c ≠ '.' := ne_of_isMark word (by decide)
  have unread : kind.connector.body ('-' :: c :: rest) = none := by
    cases kind <;>
      simp [LinkKind.connector, pipedBody, bareBody, labeledArrowBody, labeledDottedBody,
        afterLiteral, noHyphen, noPoint]
  rw [afterTie, dropWhile_of_stops (stops_cons (by decide)), unread]
  rfl

section Search

variable {kind : LinkKind} {word text rest target : List Char} {label : Option (List Char)}

theorem connectionsFrom_pass (isWord : IsWord word) (stops : Stops isNameChar rest)
    (refused : afterTie kind rest = none) (position : Nat) :
    connectionsFrom kind position (word ++ rest) =
      connectionsFrom kind (position + word.length) rest :=
  congrArg (List.map (foundConnection kind))
    ((wordLed_connected kind).findAll_word_none (isNameChar_of_isWord isWord) stops refused
      position)

/-- Of words that single spaces or hyphens join, nothing is found before the last. -/
theorem connectionsFrom_words (kind : LinkKind) (areWords : AreWords text) (position : Nat)
    (rest : List Char) :
    connectionsFrom kind position (text ++ rest) =
      connectionsFrom kind (position + (lead text).length) (lastWord text ++ rest) := by
  have between : ∀ mark ∈ text, mark = ' ' ∨ mark = '-' →
      ∀ c rest, isAsciiWord c = true → afterTie kind (mark :: c :: rest) = none := by
    rintro mark _ (rfl | rfl) c rest word
    · exact afterTie_between kind c rest word
    · exact afterTie_hyphen kind word rest
  exact congrArg (List.map (foundConnection kind))
    (findAll_lead (wordLed_connected kind) areWords between position rest)

/-- Nothing is found in words alone. -/
theorem connectionsFrom_last (kind : LinkKind) (areWords : AreWords text) (position : Nat) :
    connectionsFrom kind position text = [] := by
  have refused : afterTie kind [] = none := by cases kind <;> rfl
  have before := connectionsFrom_words kind areWords position []
  have passed := connectionsFrom_pass (isWord_lastWord areWords) (stops_nil _) refused
    (position + (lead text).length)
  rw [List.append_nil] at before
  rw [before, passed, connectionsFrom, findAll]
  rfl

/-- A link to the last words of a line is the last that is found. -/
theorem connectionsFrom_link (isWord : IsWord word) (areWords : AreWords text)
    (stops : Stops isNameChar rest) (read : afterTie kind rest = some ((target, label), text))
    (shorter : text.length ≤ rest.length) (position : Nat) :
    connectionsFrom kind position (word ++ rest) =
      [foundConnection kind (⟨position, position + word.length + (rest.length - text.length)⟩,
        word, target, label)] := by
  have found := (wordLed_connected kind).findAll_word_some isWord.nonempty
    (isNameChar_of_isWord isWord) stops read shorter position
  have ended := connectionsFrom_last kind areWords
    (position + word.length + (rest.length - text.length))
  rw [connectionsFrom] at ended ⊢
  rw [found, List.map_cons, ended]

/-- A link is read after a word when its characters are, up to the words that it leads to, of which
it takes the first. -/
theorem afterTie_of_body (areWords : AreWords target)
    (read : kind.connector.body text = some (label, ' ' :: target)) (visible : Stops isBlank text) :
    afterTie kind (' ' :: text) = some ((firstWord target, label), target) := by
  have blank : isBlank ' ' = true := by decide
  have skipped : (' ' :: target).dropWhile isBlank = target := by
    rw [List.dropWhile_cons_of_pos blank]
    exact dropWhile_of_stops areWords.isTrimmed.first
  obtain ⟨isWord, rest, split, stops⟩ := firstWord_split areWords
  have readTarget := run1_append isWord.nonempty (isNameChar_of_isWord isWord) stops
  rw [← split] at readTarget
  rw [afterTie_space, afterTie, dropWhile_of_stops visible, read]
  simp only [Option.bind_eq_bind, Option.bind_some, skipped, readTarget]

/-- If all candidates but the first meet it, the first is the only link of the line. -/
theorem connections_of_candidates {line : List Char} {own : Connection} {shades : List Connection}
    (candidates : (linkKinds.flatMap fun kind => connectionsFrom kind 0 line) = own :: shades)
    (meets : ∀ shade ∈ shades, shade.claimed.overlaps own.claimed = true) :
    connections line = [own] := by
  have first : claimConnection [] own = [own] := rfl
  have others : shades.foldl claimConnection [own] = [own] := by
    rw [claimConnection_eq]
    clear candidates
    induction shades with
    | nil => rfl
    | cons shade shades ih =>
        have claimed : claimUnless Connection.claimed (fun _ => false) [own] shade = [own] :=
          claimUnless_claimed (List.mem_singleton_self own) (meets shade List.mem_cons_self)
        rw [List.foldl_cons, claimed]
        exact ih fun other member => meets other (List.mem_cons_of_mem shade member)
  have whole : (connectors.flatMap fun connector => connectionsOf connector line) =
      own :: shades := by
    rw [← map_connector, List.flatMap_map, ← candidates]
    rfl
  simp [connections, whole, first, others]

end Search

/-! ### The lines with a label -/

/-- The arc of an arrow with a label. -/
def labeledArc (source text target : List Char) : Arc where
  source := String.ofList source
  target := String.ofList target
  text := some (String.ofList text)

/-- The arc that is found for an arrow with a label inside: if the label holds a hyphen, an arc
without label from its last word. -/
def inlineArc (source text target : List Char) : Arc :=
  if '-' ∈ text then ⟨String.ofList (lastWord text), String.ofList target, none, "normal", true⟩
  else labeledArc source text target

section Lines

variable {source text target : List Char}

/-- At a label between pipes, the search for arrows with such labels finds the link, and no other
search finds anything. -/
theorem connectionsFrom_pipedLine (isSource : IsWord source) (isTarget : IsWord target)
    (isLabel : IsLabel text) :
    ∃ span, ∀ kind, connectionsFrom kind 0 (pipedLine source text target) =
      if kind = .pipedArrow then
        [foundConnection .pipedArrow (span, source, target, some text)] else [] := by
  have others : ∀ c ∈ " -->|".toList, isNameChar c = false := isNameChar_of_all (by decide)
  have behind : ∀ c ∈ "| ".toList, isNameChar c = false := isNameChar_of_all (by decide)
  have stops : Stops isNameChar (" -->|".toList ++ (text ++ ("| ".toList ++ target))) :=
    stops_cons (by decide)
  have shorter : target.length ≤ (" -->|".toList ++ (text ++ ("| ".toList ++ target))).length := by
    simp only [List.length_append]
    omega
  apply Exists.intro
  intro kind
  by_cases own : kind = .pipedArrow
  · subst own
    have pipeFree : ∀ c ∈ text, c ≠ '|' :=
      fun c member => isLabel.areWords.ne_of_mem member (by decide) (by decide)
    have body := pipedBody_label "-->" pipeFree (' ' :: target)
    have read : afterTie .pipedArrow (" -->|".toList ++ (text ++ ("| ".toList ++ target))) =
        some ((target, some text), target) := by
      have found := @afterTie_of_body .pipedArrow _ _ _ (.word isTarget) body
        (stops_cons (by decide))
      rw [firstWord_word isTarget] at found
      exact found
    rw [if_pos rfl]
    exact connectionsFrom_link isSource (.word isTarget) stops read shorter 0
  · have foreign : afterTie kind (" -->|".toList ++ (text ++ ("| ".toList ++ target))) = none := by
      cases kind <;> first | exact absurd rfl own | rfl
    have refused : afterTie kind ("| ".toList ++ target) = none :=
      afterTie_of_ne kind (by decide) (by decide) (by decide) (' ' :: target)
    have stopsBehind : Stops isNameChar ("| ".toList ++ target) := stops_cons (by decide)
    rw [if_neg own, pipedLine, connectionsFrom_pass isSource stops foreign,
      connectionsFrom_others kind others, connectionsFrom_words kind isLabel.areWords,
      connectionsFrom_pass (isWord_lastWord isLabel.areWords) stopsBehind refused,
      connectionsFrom_others kind behind]
    exact connectionsFrom_last kind (.word isTarget) _

/-- An arrow is not read with a text that holds a hyphen before a word. -/
theorem labeledArrowBody_hyphen {front rest : List Char} {c : Char} (nonempty : front ≠ [])
    (visible : Stops isBlank front) (headless : Stops (· == '>') front) (free : '-' ∉ front)
    (word : isAsciiWord c = true) :
    labeledArrowBody ("--".toList ++ ' ' :: (front ++ '-' :: c :: rest)) = none := by
  have noHyphen : c ≠ '-' := ne_of_isMark word (by decide)
  have inside : ∀ d ∈ front, (d != '-') = true := by
    intro d member
    apply bne_iff_ne.mpr
    rintro rfl
    exact free member
  have stops : Stops (· != '-') ('-' :: c :: rest) := stops_cons (by decide)
  have read := run1_append nonempty inside stops
  have skipped : (' ' :: (front ++ '-' :: c :: rest)).dropWhile isBlank =
      front ++ '-' :: c :: rest := by
    have blank : isBlank ' ' = true := by decide
    rw [List.dropWhile_cons_of_pos blank]
    exact dropWhile_of_stops (stops_append nonempty visible _)
  obtain ⟨d, front, rfl⟩ := List.exists_cons_of_ne_nil nonempty
  have noHead : (d == '>') = false := headless d rfl
  rw [List.cons_append] at read skipped
  simp only [labeledArrowBody, List.cons_append, afterLiteral_append, Option.bind_eq_bind,
    Option.bind_some, skipped, noHead, read]
  simp [afterLiteral, noHyphen]

/-- After the first word of a line with a label inside its arrow, only the search for such arrows
reads anything, and only if the label holds no hyphen. -/
theorem afterTie_inline (kind : LinkKind) (isTarget : IsWord target) (isLabel : IsLabel text) :
    afterTie kind (" -- ".toList ++ (text ++ (" --> ".toList ++ target))) =
      if kind = .innerArrow ∧ '-' ∉ text then some ((target, some text), target) else none := by
  by_cases own : kind = .innerArrow
  · subst own
    by_cases hyphen : '-' ∈ text
    · obtain ⟨front, c, rest, split, nonempty, free, next⟩ := first_hyphen isLabel hyphen
      have starting : ∀ d ∈ front.head?, isAsciiWord d = true := by
        obtain ⟨first, tail, starts, word⟩ := isLabel.areWords.head
        obtain ⟨d, front, rfl⟩ := List.exists_cons_of_ne_nil nonempty
        rw [starts, List.cons_append] at split
        intro other isFirst
        cases isFirst
        rw [← (List.cons.inj split).1]
        exact word
      have unread : LinkKind.innerArrow.connector.body
          ("--".toList ++ ' ' :: (text ++ (" --> ".toList ++ target))) = none := by
        rw [split, List.append_assoc]
        exact labeledArrowBody_hyphen nonempty
          (fun d first => isBlank_of_isAsciiWord (starting d first))
          (fun d first => beq_eq_false_iff_ne.mpr (ne_of_isMark (starting d first) (by decide)))
          free next
      have visible : Stops isBlank
          ("--".toList ++ ' ' :: (text ++ (" --> ".toList ++ target))) := stops_cons (by decide)
      have refused : afterTie .innerArrow
          (' ' :: ("--".toList ++ ' ' :: (text ++ (" --> ".toList ++ target)))) = none := by
        rw [afterTie_space, afterTie, dropWhile_of_stops visible, unread]
        rfl
      rw [if_neg fun both => both.2 hyphen]
      exact refused
    · have body := labeledArrowBody_text ⟨text, isLabel.isPhrase hyphen⟩ (' ' :: target)
      have found := @afterTie_of_body .innerArrow _ _ _ (.word isTarget) body
        (stops_cons (by decide))
      rw [firstWord_word isTarget] at found
      rw [if_pos ⟨rfl, hyphen⟩]
      exact found
  · rw [if_neg fun both => own both.1]
    cases kind <;> first | exact absurd rfl own | rfl

/-- Where an arrow to words stands alone, only the search for arrows reads anything. -/
theorem afterTie_arrow (kind : LinkKind) (areWords : AreWords target) :
    afterTie kind (" --> ".toList ++ target) =
      if kind = .arrow then some ((firstWord target, none), target) else none := by
  by_cases own : kind = .arrow
  · subst own
    rw [if_pos rfl]
    exact @afterTie_of_body .arrow ("-->".toList ++ ' ' :: target) _ _ areWords rfl
      (stops_cons (by decide))
  · rw [if_neg own]
    cases kind <;> first | exact absurd rfl own | rfl

/-- The arrow that is left of a line with a label inside: it starts at the last word of the
label. -/
def trailingArrow (position : Nat) (text target : List Char) : Connection :=
  let start := position + " -- ".toList.length + (lead text).length
  foundConnection .arrow
    (⟨start, start + (lastWord text).length + ((" --> ".toList ++ target).length - target.length)⟩,
      lastWord text, target, none)

/-- Once the first word has been passed, the search for arrows finds the one that is left. -/
theorem connectionsFrom_trailing (kind : LinkKind) (isTarget : IsWord target)
    (isLabel : IsLabel text) (position : Nat) :
    connectionsFrom kind position (" -- ".toList ++ (text ++ (" --> ".toList ++ target))) =
      if kind = .arrow then [trailingArrow position text target] else [] := by
  have opening : ∀ c ∈ " -- ".toList, isNameChar c = false := isNameChar_of_all (by decide)
  have closing : ∀ c ∈ " --> ".toList, isNameChar c = false := isNameChar_of_all (by decide)
  have stops : Stops isNameChar (" --> ".toList ++ target) := stops_cons (by decide)
  have read := afterTie_arrow kind (.word isTarget)
  rw [firstWord_word isTarget] at read
  rw [connectionsFrom_others kind opening, connectionsFrom_words kind isLabel.areWords]
  by_cases own : kind = .arrow
  · subst own
    rw [if_pos rfl] at read ⊢
    have shorter : target.length ≤ (" --> ".toList ++ target).length := by
      simp only [List.length_append]
      omega
    exact connectionsFrom_link (isWord_lastWord isLabel.areWords) (.word isTarget) stops read
      shorter _
  · rw [if_neg own] at read ⊢
    rw [connectionsFrom_pass (isWord_lastWord isLabel.areWords) stops read,
      connectionsFrom_others kind closing]
    exact connectionsFrom_last kind (.word isTarget) _

theorem arcs_pipedLine (isSource : IsWord source) (isTarget : IsWord target)
    (isLabel : IsLabel text) :
    (connections (pipedLine source text target)).map connectedArc =
      [labeledArc source text target] := by
  obtain ⟨span, found⟩ := connectionsFrom_pipedLine isSource isTarget isLabel
  have candidates : (linkKinds.flatMap fun kind =>
      connectionsFrom kind 0 (pipedLine source text target)) =
        [foundConnection .pipedArrow (span, source, target, some text)] := by
    rw [List.flatMap_congr fun kind _ => found kind]
    rfl
  rw [connections_of_candidates candidates (by simp), labeledArc, ← labelText?_label isLabel]
  rfl

/-- The link at the first word of a line with a label inside its arrow. -/
def leadingArrow (source text target : List Char) : Connection :=
  let rest := " -- ".toList ++ (text ++ (" --> ".toList ++ target))
  foundConnection .innerArrow
    (⟨0, 0 + source.length + (rest.length - target.length)⟩, source, target, some text)

/-- What the searches find on a line with a label inside its arrow. -/
theorem connectionsFrom_inlineLine (kind : LinkKind) (isSource : IsWord source)
    (isTarget : IsWord target) (isLabel : IsLabel text) :
    connectionsFrom kind 0 (inlineLine source text target) =
      if kind = .innerArrow ∧ '-' ∉ text then [leadingArrow source text target]
      else if kind = .arrow then [trailingArrow (0 + source.length) text target] else [] := by
  have stops : Stops isNameChar (" -- ".toList ++ (text ++ (" --> ".toList ++ target))) :=
    stops_cons (by decide)
  have read := afterTie_inline kind isTarget isLabel
  by_cases own : kind = .innerArrow ∧ '-' ∉ text
  · rw [if_pos own] at read ⊢
    have shorter :
        target.length ≤ (" -- ".toList ++ (text ++ (" --> ".toList ++ target))).length := by
      simp only [List.length_append]
      omega
    rw [inlineLine, connectionsFrom_link isSource (.word isTarget) stops read shorter, own.1]
    rfl
  · rw [if_neg own] at read ⊢
    rw [inlineLine, connectionsFrom_pass isSource stops read]
    exact connectionsFrom_trailing kind isTarget isLabel _

theorem overlaps_trailingArrow (source text target : List Char) :
    (trailingArrow (0 + source.length) text target).claimed.overlaps
      (leadingArrow source text target).claimed = true := by
  have length := congrArg List.length (lead_append_lastWord text)
  rw [List.length_append] at length
  have ends : " -- ".toList.length = 4 ∧ " --> ".toList.length = 5 := by decide
  simp only [trailingArrow, leadingArrow, foundConnection, Span.overlaps, List.length_append,
    Bool.and_eq_true, decide_eq_true_eq]
  omega

/-- The arrow at the first word is found if the label holds no hyphen, and otherwise the one that
is left. -/
theorem arcs_inlineLine (isSource : IsWord source) (isTarget : IsWord target)
    (isLabel : IsLabel text) :
    (connections (inlineLine source text target)).map connectedArc =
      [inlineArc source text target] := by
  have found := fun kind => connectionsFrom_inlineLine kind isSource isTarget isLabel
  by_cases hyphen : '-' ∈ text
  · have candidates : (linkKinds.flatMap fun kind =>
        connectionsFrom kind 0 (inlineLine source text target)) =
          [trailingArrow (0 + source.length) text target] := by
      rw [List.flatMap_congr fun kind _ => found kind]
      simp [linkKinds, hyphen]
    rw [connections_of_candidates candidates (by simp), inlineArc, if_pos hyphen]
    rfl
  · have candidates : (linkKinds.flatMap fun kind =>
        connectionsFrom kind 0 (inlineLine source text target)) =
          [leadingArrow source text target, trailingArrow (0 + source.length) text target] := by
      rw [List.flatMap_congr fun kind _ => found kind]
      simp [linkKinds, hyphen]
    have meets : ∀ shade ∈ [trailingArrow (0 + source.length) text target],
        shade.claimed.overlaps (leadingArrow source text target).claimed = true := by
      intro shade member
      rw [List.mem_singleton.mp member]
      exact overlaps_trailingArrow source text target
    rw [connections_of_candidates candidates meets, inlineArc, if_neg hyphen, labeledArc,
      ← labelText?_label isLabel]
    rfl

/-! ### What the lines hold -/

/-- The characters of words and of arrows. -/
def isArrowChar (c : Char) : Bool :=
  isAsciiWord c || " ->".toList.contains c

/-- Neither brackets nor pipes are characters of words or of arrows. -/
theorem ne_of_isArrowChar {c mark : Char} (inside : isArrowChar c = true)
    (outside : isArrowChar mark = false) : c ≠ mark := by
  rintro rfl
  exact Bool.false_ne_true (outside.symm.trans inside)

theorem isArrowChar_word {word : List Char} (isWord : IsWord word) :
    ∀ c ∈ word, isArrowChar c = true := by
  intro c member
  rw [isArrowChar, isWord.ascii c member]
  rfl

theorem isArrowChar_label (isLabel : IsLabel text) : ∀ c ∈ text, isArrowChar c = true := by
  intro c member
  rcases isLabel.areWords.chars c member with word | rfl | rfl
  · rw [isArrowChar, word]
    rfl
  · decide
  · decide

theorem isArrowChar_of_all {text : List Char} (inside : text.all isArrowChar = true) :
    ∀ c ∈ text, isArrowChar c = true :=
  List.all_eq_true.mp inside

theorem declarations_of_isArrowChar {line : List Char}
    (inside : ∀ c ∈ maskPipeLabels line, isArrowChar c = true) : declarations line = [] := by
  apply declarations_of_free
  intro c member isOpener
  have outside : bracketOpeners.all (fun opener => !isArrowChar opener) = true := by decide
  have foreign : isArrowChar c = false := by simpa using List.all_eq_true.mp outside c isOpener
  exact ne_of_isArrowChar (inside c member) foreign rfl

theorem maskPipeLabels_of_isArrowChar {line : List Char}
    (inside : ∀ c ∈ line, isArrowChar c = true) : maskPipeLabels line = line :=
  maskPipeLabels_of_free fun c member => ne_of_isArrowChar (inside c member) (by decide)

theorem declarations_inlineLine (isSource : IsWord source) (isTarget : IsWord target)
    (isLabel : IsLabel text) : declarations (inlineLine source text target) = [] := by
  have inside : ∀ c ∈ inlineLine source text target, isArrowChar c = true :=
    forall_append (isArrowChar_word isSource) (forall_append (isArrowChar_of_all (by decide))
      (forall_append (isArrowChar_label isLabel) (forall_append (isArrowChar_of_all (by decide))
        (isArrowChar_word isTarget))))
  apply declarations_of_isArrowChar
  rwa [maskPipeLabels_of_isArrowChar inside]

theorem declarations_pipedLine (isSource : IsWord source) (isTarget : IsWord target)
    (isLabel : IsLabel text) : declarations (pipedLine source text target) = [] := by
  have pipeFree : '|' ∉ text := fun member =>
    isLabel.areWords.ne_of_mem member (by decide) (by decide) rfl
  have front : ∀ c ∈ source ++ " -->".toList, isArrowChar c = true :=
    forall_append (isArrowChar_word isSource) (isArrowChar_of_all (by decide))
  have behind : ∀ c ∈ " ".toList ++ target, isArrowChar c = true :=
    forall_append (isArrowChar_of_all (by decide)) (isArrowChar_word isTarget)
  have spelled : pipedLine source text target =
      source ++ " -->".toList ++ '|' :: (text ++ '|' :: (" ".toList ++ target)) := by
    simp [pipedLine]
  have masked := maskPipeLabels_labeled
    (fun c member => ne_of_isArrowChar (front c member) (by decide)) pipeFree
    (" ".toList ++ target)
  rw [maskPipeLabels_of_isArrowChar behind, ← spelled] at masked
  have spaces : ∀ c ∈ List.replicate (text.length + 2) ' ', isArrowChar c = true := by
    intro c member
    rw [List.eq_of_mem_replicate member]
    decide
  apply declarations_of_isArrowChar
  rw [masked]
  exact forall_append (forall_append front spaces) behind

theorem isTrimmed_between {middle : List Char} (isSource : IsWord source)
    (isTarget : IsWord target) : IsTrimmed (source ++ (middle ++ target)) where
  nonempty := by simp [isSource.nonempty]
  first := stops_append isSource.nonempty (isTrimmed_of_isWord isSource).first _
  last := by
    rw [List.reverse_append, List.reverse_append, List.append_assoc]
    exact stops_append (by simpa using isTarget.nonempty) (isTrimmed_of_isWord isTarget).last _

/-- A line between two words that starts with a mark after the first is one of nodes and links, if
the first is free of keywords and a hyphen stands on the line. -/
theorem isBodyLine_between {middle : List Char} (isSource : IsWord source)
    (isTarget : IsWord target) (free : KeywordFree source) (marked : Marked (middle ++ target))
    (hyphen : '-' ∈ middle) : isBodyLine (source ++ (middle ++ target)) = true :=
  isBodyLine_of_leads ⟨isSource, _, rfl, marked⟩ free (isTrimmed_between isSource isTarget)
    (by simp [hyphen])

theorem drawn_pipedLine (isSource : IsWord source) (isTarget : IsWord target)
    (free : KeywordFree source) (isLabel : IsLabel text) :
    declared (pipedLine source text target) = [] ∧
      drawn (pipedLine source text target) = [labeledArc source text target] := by
  have spelled : pipedLine source text target =
      source ++ ((" -->|".toList ++ (text ++ "| ".toList)) ++ target) := by
    simp [pipedLine]
  have body : isBodyLine (pipedLine source text target) = true := by
    rw [spelled]
    exact isBodyLine_between isSource isTarget free (marked_cons (by decide) _) (by simp)
  rw [← arcs_pipedLine isSource isTarget isLabel]
  exact drawn_of_undeclared body (declarations_pipedLine isSource isTarget isLabel)

theorem drawn_inlineLine (isSource : IsWord source) (isTarget : IsWord target)
    (free : KeywordFree source) (isLabel : IsLabel text) :
    declared (inlineLine source text target) = [] ∧
      drawn (inlineLine source text target) = [inlineArc source text target] := by
  have spelled : inlineLine source text target =
      source ++ ((" -- ".toList ++ (text ++ " --> ".toList)) ++ target) := by
    simp [inlineLine]
  have body : isBodyLine (inlineLine source text target) = true := by
    rw [spelled]
    exact isBodyLine_between isSource isTarget free (marked_cons (by decide) _) (by simp)
  rw [← arcs_inlineLine isSource isTarget isLabel]
  exact drawn_of_undeclared body (declarations_inlineLine isSource isTarget isLabel)

end Lines

/-! ### Diagrams of one line -/

/-- A line is the only one of nodes and links in a source. -/
def OnlyBodyLine (source : String) (line : List Char) : Prop :=
  ∃ before after, scannedLines source = before ++ line :: after ∧
    ∀ other ∈ before ++ after, isBodyLine other = false

/-- A diagram holds one arc, and its ends unless they are blocks. -/
def HoldsOnly (draft : Draft) (arc : Arc) : Prop :=
  draft.arcs = [arc] ∧ draft.vertices = firstByKey Vertex.id draft.blockIds (arcEnds arc)

/-- A diagram with one line of nodes and links holds what this line enters and draws. -/
theorem scan_of_onlyBodyLine {source : String} {line : List Char}
    (only : OnlyBodyLine source line) :
    (Draft.scan source).arcs = drawn line ∧
      (Draft.scan source).vertices =
        firstByKey Vertex.id (Draft.scan source).blockIds (entered line) := by
  obtain ⟨before, after, lines, others⟩ := only
  have silent : ∀ other ∈ before ++ after, entered other = [] ∧ drawn other = [] := by
    intro other listed
    have noBody := others other listed
    exact ⟨entered_of_not_isBodyLine noBody, by simp [drawn, noBody]⟩
  have early : before.flatMap entered = [] ∧ before.flatMap drawn = [] := by
    constructor
    · exact List.flatMap_eq_nil_iff.mpr fun other member =>
        (silent other (List.mem_append_left after member)).1
    · exact List.flatMap_eq_nil_iff.mpr fun other member =>
        (silent other (List.mem_append_left after member)).2
  have late : after.flatMap entered = [] ∧ after.flatMap drawn = [] := by
    constructor
    · exact List.flatMap_eq_nil_iff.mpr fun other member =>
        (silent other (List.mem_append_right before member)).1
    · exact List.flatMap_eq_nil_iff.mpr fun other member =>
        (silent other (List.mem_append_right before member)).2
  constructor
  · rw [arcs_scan, lines, List.flatMap_append, List.flatMap_cons, early.2, late.2]
    simp
  · rw [vertices_scan, lines, List.flatMap_append, List.flatMap_cons, early.1, late.1]
    simp

/-- A diagram with one line of links holds what the line draws. -/
theorem holdsOnly_scan {source : String} {line : List Char} {arc : Arc}
    (only : OnlyBodyLine source line) (draws : declared line = [] ∧ drawn line = [arc]) :
    HoldsOnly (Draft.scan source) arc := by
  obtain ⟨arcs, vertices⟩ := scan_of_onlyBodyLine only
  have ends : entered line = arcEnds arc := by
    rw [entered, draws.1, draws.2]
    rfl
  rw [draws.2] at arcs
  rw [ends] at vertices
  exact ⟨arcs, vertices⟩

/-- What the readers find where a label is written at an arrow, inside it or between pipes. The
strict reader finds the same statement. The forgiving reader finds the labeled arc for a label
between pipes, and for one inside the arrow if it holds no hyphen; otherwise it finds an arc
without label that starts at the last word of the label. -/
theorem labels_read {source text target : List Char} (isSource : IsWord source)
    (isTarget : IsWord target) (free : KeywordFree source) (isLabel : IsLabel text) :
    (∀ line ∈ [inlineLine source text target, pipedLine source text target],
        Statement.ofText (String.ofList line) =
          .ok (some (labeledStatement source text target))) ∧
      (∀ diagram, OnlyBodyLine diagram (pipedLine source text target) →
        HoldsOnly (Draft.scan diagram) (labeledArc source text target)) ∧
        ∀ diagram, OnlyBodyLine diagram (inlineLine source text target) →
          HoldsOnly (Draft.scan diagram) (inlineArc source text target) := by
  refine ⟨?_, ?_, ?_⟩
  · intro line listed
    have read : Statement.ofLine? line = some (some (labeledStatement source text target)) := by
      rcases List.mem_pair.mp listed with rfl | rfl
      · exact ofLine?_inlineLine isSource isTarget free isLabel
      · exact ofLine?_pipedLine isSource isTarget free isLabel
    rw [Statement.ofText, String.toList_ofList, read]
  · intro diagram only
    exact holdsOnly_scan only (drawn_pipedLine isSource isTarget free isLabel)
  · intro diagram only
    exact holdsOnly_scan only (drawn_inlineLine isSource isTarget free isLabel)

/-- A label with a hyphen in it: between pipes it is found, and inside an arrow its last word
becomes a node. -/
theorem labels_read_hyphened :
    IsWord ['a'] ∧ IsWord ['b'] ∧ KeywordFree ['a'] ∧ IsLabel "x-y".toList ∧
      OnlyBodyLine "flowchart TD\na -->|x-y| b" (pipedLine ['a'] "x-y".toList ['b']) ∧
        OnlyBodyLine "flowchart TD\na -- x-y --> b" (inlineLine ['a'] "x-y".toList ['b']) ∧
          HoldsOnly (Draft.scan "flowchart TD\na -->|x-y| b")
            (labeledArc ['a'] "x-y".toList ['b']) ∧
            HoldsOnly (Draft.scan "flowchart TD\na -- x-y --> b")
              ⟨"y", "b", none, "normal", true⟩ := by
  have isLabel : IsLabel "x-y".toList :=
    @IsLabel.joined ['x'] ['y'] '-' (by decide) (List.all_eq_true.mp (by decide)) (Or.inr rfl)
      (.word (by decide) (List.all_eq_true.mp (by decide)))
  have piped : OnlyBodyLine "flowchart TD\na -->|x-y| b" (pipedLine ['a'] "x-y".toList ['b']) :=
    ⟨["flowchart TD".toList], [], by decide +kernel, by decide +kernel⟩
  have inlined : OnlyBodyLine "flowchart TD\na -- x-y --> b"
      (inlineLine ['a'] "x-y".toList ['b']) :=
    ⟨["flowchart TD".toList], [], by decide +kernel, by decide +kernel⟩
  have arc : inlineArc ['a'] "x-y".toList ['b'] = ⟨"y", "b", none, "normal", true⟩ := by
    decide +kernel
  have read := @labels_read ['a'] "x-y".toList ['b'] (by decide) (by decide) (by decide) isLabel
  have found := read.2.2 _ inlined
  rw [arc] at found
  exact ⟨by decide, by decide, by decide, isLabel, piped, inlined, read.2.1 _ piped, found⟩

/-- The two ways to write a label with a hyphen in it are told apart: one gives the labeled arc,
the other an arc from the last word of the label. -/
theorem scan_hyphenedLabel :
    (Draft.scan "flowchart TD\na -->|x-y| b").arcs = [⟨"a", "b", some "x-y", "normal", true⟩] ∧
      (Draft.scan "flowchart TD\na -- x-y --> b").arcs = [⟨"y", "b", none, "normal", true⟩] ∧
        (Draft.scan "flowchart TD\na -- x-y --> b").vertices =
          [⟨"y", none, none⟩, ⟨"b", none, none⟩] := by
  decide +kernel

end Flowchart.Scan
