import Flowchart.Proofs.Scan.Labels
import Flowchart.Proofs.Statement.Keywords

/-!
Nodes in square brackets, found after ids of several words.

The searches go from word to word and know nothing of the hyphens that join words to ids. A search
for brackets reads the word before them, which is the last one of an id, and a search for links
reads the word after an arrow, which is the first one.

Main definitions: `squareNode`, `squareLine`. Main statements: `drawn_of_squareLine`,
`drawn_of_squareNode`.
-/

namespace Flowchart.Scan

open Flowchart.Text Flowchart.Notation Flowchart.Plain
open Flowchart.Statement (Leads leads_identifier marked_cons)

/-! ### Texts without brackets -/

/-- No bracket is the first thing in a text, apart from blanks. -/
def Unopened (text : List Char) : Prop :=
  ∀ c ∈ (text.dropWhile isBlank).head?, c ∉ openers

theorem unopened_cons {c : Char} (other : c ∉ openers) (visible : isBlank c = false)
    (rest : List Char) : Unopened (c :: rest) := by
  rw [Unopened, dropWhile_of_stops (stops_cons visible)]
  rintro d ⟨⟩
  exact other

theorem Unopened.append {front rest : List Char} (free : ∀ c ∈ front, c ∉ openers)
    (unopened : Unopened rest) : Unopened (front ++ rest) := by
  induction front with
  | nil => exact unopened
  | cons c front ih =>
      cases blank : isBlank c with
      | false => exact unopened_cons (free c List.mem_cons_self) blank (front ++ rest)
      | true =>
          rw [Unopened, List.cons_append, List.dropWhile_cons_of_pos blank]
          exact ih fun d member => free d (List.mem_cons_of_mem c member)

theorem Unopened.afterBracket {text : List Char} (unopened : Unopened text) (shape : Shape) :
    afterBracket shape text = none := by
  have skipped : Plain.afterBracket shape text =
      Plain.afterBracket shape (text.dropWhile isBlank) := by
    rw [Plain.afterBracket, Plain.afterBracket, dropWhile_of_stops (stops_dropWhile isBlank text)]
  rw [skipped]
  cases left : text.dropWhile isBlank with
  | nil => cases shape <;> rfl
  | cons c rest =>
      have visible : isBlank c = false := by
        have stops := stops_dropWhile isBlank text
        rw [left] at stops
        exact stops c rfl
      apply afterBracket_of_notMem shape _ visible
      exact unopened c (by rw [left]; rfl)

/-- A search for brackets passes over a text that holds none. -/
theorem findAll_unopened (shape : Shape) {front rest : List Char}
    (free : ∀ c ∈ front, c ∉ openers) (stops : Stops isNameChar rest) (unopened : Unopened rest)
    (position : Nat) :
    findAll (bracketed shape) position (front ++ rest) =
      findAll (bracketed shape) (position + front.length) rest := by
  have led := wordLed_bracketed shape
  induction front generalizing position with
  | nil => rfl
  | cons c front ih =>
      have tail := ih (fun d member => free d (List.mem_cons_of_mem c member)) (position + 1)
      have unread : bracketed shape (c :: (front ++ rest)) = none := by
        cases inside : isNameChar c with
        | false => exact led.other inside
        | true =>
            have word : (c :: front).takeWhile isNameChar ≠ [] := by simp [inside]
            have behind : (c :: front).takeWhile isNameChar ++
                ((c :: front).dropWhile isNameChar ++ rest) = c :: (front ++ rest) := by
              rw [← List.append_assoc, List.takeWhile_append_dropWhile, List.cons_append]
            have after : Unopened ((c :: front).dropWhile isNameChar ++ rest) :=
              unopened.append fun d member =>
                free d ((List.dropWhile_suffix isNameChar).subset member)
            have stopsBehind : Stops isNameChar ((c :: front).dropWhile isNameChar ++ rest) := by
              rw [← dropWhile_append_of_stops stops]
              exact stops_dropWhile _ _
            rw [← behind, led.word word (fun d member => List.mem_takeWhile_imp member) stopsBehind,
              after.afterBracket shape]
            rfl
      rw [List.cons_append, findAll_of_none position unread, tail, List.length_cons]
      congr 1
      omega

/-! ### Nodes in square brackets -/

/-- A node in square brackets. -/
def squareNode (id text : List Char) : List Char :=
  id ++ '[' :: (text ++ [']'])

/-- What the search for square brackets may read in them: words, blanks and pipes. -/
structure IsBody (text : List Char) : Prop where
  nonempty : text ≠ []
  chars : ∀ c ∈ text, isAsciiWord c = true ∨ c = ' ' ∨ c = '|'

/-- The only marks in a text between brackets are blanks and pipes. -/
theorem IsBody.ne_of_mem {text : List Char} (isBody : IsBody text) {c mark : Char}
    (member : c ∈ text) (isMark : isMark mark = true) (other : mark ≠ ' ' ∧ mark ≠ '|') :
    c ≠ mark := by
  rcases isBody.chars c member with word | rfl | rfl
  · exact ne_of_isMark word isMark
  · exact other.1.symm
  · exact other.2.symm

/-- No bracket opens inside a text between brackets. -/
theorem IsBody.notMem_openers {text : List Char} (isBody : IsBody text) :
    ∀ c ∈ text, c ∉ openers := by
  intro c member
  rcases isBody.chars c member with word | rfl | rfl
  · exact Plain.notMem_openers word
  · decide
  · decide

section Nodes

variable {id text rest : List Char}

theorem length_squareNode : (squareNode id text).length = id.length + text.length + 2 := by
  simp [squareNode, Nat.add_assoc]

theorem squareNode_append : squareNode id text ++ rest = id ++ ('[' :: (text ++ ']' :: rest)) := by
  simp [squareNode]

/-- Between the words of an id no bracket opens. -/
theorem afterBracket_joint (shape : Shape) (id : List Char) :
    ∀ mark ∈ id, mark = ' ' ∨ mark = '-' →
      ∀ c rest, isAsciiWord c = true → afterBracket shape (mark :: c :: rest) = none := by
  rintro mark _ (rfl | rfl) c rest word
  · exact afterBracket_between shape c rest word
  · exact afterBracket_of_notMem shape (by decide) (by decide) (c :: rest)

/-- The search for square brackets finds the text in them, and the last word before them. -/
theorem findAll_squareNode (areWords : AreWords id) (isBody : IsBody text) (position : Nat)
    (rest : List Char) :
    findAll (bracketed .square) position (squareNode id text ++ rest) =
      (⟨position + (lead id).length, position + (squareNode id text).length⟩, lastWord id, text) ::
        findAll (bracketed .square) (position + (squareNode id text).length) rest := by
  have led := wordLed_bracketed .square
  have isWord := isWord_lastWord areWords
  have closed : ∀ c ∈ text, (c != Shape.square.closing.headD ']') = true := fun c member =>
    bne_iff_ne.mpr (isBody.ne_of_mem member (by decide) (by decide))
  have read : afterBracket .square ('[' :: (text ++ ']' :: rest)) = some (text, rest) := by
    have spelled := afterBracket_append isBody.nonempty closed rest
    simpa [Shape.opening, Shape.closing] using spelled
  have length := congrArg List.length (lead_append_lastWord id)
  have shorter : rest.length ≤ ('[' :: (text ++ ']' :: rest)).length := by
    simp only [List.length_cons, List.length_append]
    omega
  have found := led.findAll_word_some isWord.nonempty (isNameChar_of_isWord isWord)
    (stops_cons (by decide)) read shorter (position + (lead id).length)
  have stop : position + (lead id).length + (lastWord id).length +
      (('[' :: (text ++ ']' :: rest)).length - rest.length) =
        position + (squareNode id text).length := by
    rw [length_squareNode]
    simp only [List.length_cons, List.length_append] at length ⊢
    omega
  rw [squareNode_append, findAll_lead led areWords (afterBracket_joint .square id), found, stop]

/-- The other searches take no square brackets for their own. -/
theorem afterBracket_square {shape : Shape} (listed : shape ∈ bracketShapes)
    (other : shape ≠ .square) (isBody : IsBody text) (rest : List Char) :
    afterBracket shape ('[' :: (text ++ rest)) = none := by
  obtain ⟨c, text, rfl⟩ := List.exists_cons_of_ne_nil isBody.nonempty
  have noOpener : c ≠ '(' ∧ c ≠ '[' :=
    ⟨isBody.ne_of_mem List.mem_cons_self (by decide) (by decide),
      isBody.ne_of_mem List.mem_cons_self (by decide) (by decide)⟩
  simp only [bracketShapes, List.mem_cons, List.not_mem_nil, or_false] at listed
  have visible : isBlank '[' = false := by decide
  rcases listed with rfl | rfl | rfl | rfl | rfl | rfl | rfl <;>
    first
    | exact absurd rfl other
    | simp [afterBracket, Shape.opening, afterLiteral, visible, noOpener]

/-- A node in square brackets has no brackets of another shape. -/
theorem findAll_squareNode_other {shape : Shape} (listed : shape ∈ bracketShapes)
    (other : shape ≠ .square) (areWords : AreWords id) (isBody : IsBody text) (position : Nat)
    (rest : List Char) :
    findAll (bracketed shape) position (squareNode id text ++ rest) =
      findAll (bracketed shape) (position + (squareNode id text).length) rest := by
  have led := wordLed_bracketed shape
  have opening : ∀ c ∈ ['['], isNameChar c = false := isNameChar_of_all (by decide)
  have closing : ∀ c ∈ [']'], isNameChar c = false := isNameChar_of_all (by decide)
  have passed := findAll_words led areWords (afterBracket_joint shape id) (stops_cons (by decide))
    (afterBracket_square listed other isBody (']' :: rest)) position
  have opened := led.findAll_others opening (position + id.length) (text ++ ']' :: rest)
  have inside := findAll_unopened shape isBody.notMem_openers
    (stops_cons (show isNameChar ']' = false by decide))
    (unopened_cons (by decide) (by decide) rest) (position + id.length + 1)
  have closed := led.findAll_others closing (position + id.length + 1 + text.length) rest
  have stop : position + id.length + 1 + text.length + 1 =
      position + (squareNode id text).length := by
    rw [length_squareNode]
    omega
  calc findAll (bracketed shape) position (squareNode id text ++ rest)
      = findAll (bracketed shape) position (id ++ '[' :: (text ++ ']' :: rest)) := by
        rw [squareNode_append]
    _ = findAll (bracketed shape) (position + id.length + 1) (text ++ ']' :: rest) :=
        passed.trans opened
    _ = findAll (bracketed shape) (position + id.length + 1 + text.length + 1) rest :=
        inside.trans closed
    _ = findAll (bracketed shape) (position + (squareNode id text).length) rest := by rw [stop]

end Nodes

/-! ### Lines with nodes in square brackets -/

/-- The node that is found at a position for an id with a text in square brackets. -/
def squareDeclaration (position : Nat) (id text : List Char) : Declaration where
  span := ⟨position + (lead id).length, position + (squareNode id text).length⟩
  id := String.ofList (lastWord id)
  text := unquoteOnce text
  shape := .square

/-- What is found on a line, if what the searches find is not reserved and lies apart. -/
theorem declarations_of_apart {line : List Char} {found : List Declaration}
    (candidates : (bracketShapes.flatMap fun shape =>
      declarationsOf shape (maskPipeLabels line)) = found)
    (accepted : ∀ declaration ∈ found, isReserved declaration.id = false)
    (proper : ∀ declaration ∈ found, declaration.span.start < declaration.span.stop)
    (apart : found.Pairwise fun left right => left.span.stop ≤ right.span.start) :
    declarations line = found := by
  have claimed : found.foldl claim [] = found := by
    rw [claim_eq, foldl_claimUnless_apart accepted apart]
    rfl
  have increasing : found.Pairwise fun left right => left.span.start < right.span.start :=
    apart.imp_of_mem fun inFound _ before => Nat.lt_of_lt_of_le (proper _ inFound) before
  have sorted := mergeSort_of_perm (List.Perm.refl found) increasing
  simp only [declarations, candidates, claimed]
  exact sorted

/-- If only the search for square brackets finds something, it makes all candidates. -/
theorem candidates_of_square {line : List Char} {found : List (Span × List Char × List Char)}
    (square : findAll (bracketed .square) 0 line = found)
    (others : ∀ shape ∈ bracketShapes, shape ≠ .square → findAll (bracketed shape) 0 line = []) :
    (bracketShapes.flatMap fun shape => declarationsOf shape line) =
      found.map fun found =>
        ⟨found.1, String.ofList found.2.1, unquoteOnce found.2.2, .square⟩ := by
  have none : ∀ shape ∈ bracketShapes, shape ≠ .square → declarationsOf shape line = [] := by
    intro shape listed other
    rw [declarationsOf, others shape listed other]
    rfl
  have own : declarationsOf .square line = found.map fun found =>
      ⟨found.1, String.ofList found.2.1, unquoteOnce found.2.2, .square⟩ := by
    rw [declarationsOf, square]
  simp only [bracketShapes, List.flatMap_cons, List.flatMap_nil,
    none .cylinder (by decide) (by decide), none .stadium (by decide) (by decide),
    none .circle (by decide) (by decide), none .subroutine (by decide) (by decide),
    none .round (by decide) (by decide), none .diamond (by decide) (by decide), own,
    List.nil_append, List.append_nil]

section Declarations

variable {id text : List Char}

theorem squareDeclaration_proper (position : Nat) :
    (squareDeclaration position id text).span.start <
      (squareDeclaration position id text).span.stop := by
  have length := congrArg List.length (lead_append_lastWord id)
  rw [List.length_append] at length
  simp only [squareDeclaration, length_squareNode]
  omega

/-- A node in square brackets is collapsed to its id, also where the brackets hold what has been
masked. -/
theorem collapse_squareNode {original : List Char} (same : original.length = text.length)
    (position : Nat) (rest : List Char) (others : List Declaration) :
    collapse position (squareNode id original ++ rest)
        (squareDeclaration position id text :: others) =
      id ++ collapse (position + (squareNode id text).length) rest others := by
  have length : (squareNode id original).length = (squareNode id text).length := by
    rw [length_squareNode, length_squareNode, same]
  have start : position + (lead id).length - position = (lead id).length := by omega
  have stop : position + (squareNode id text).length - position =
      (squareNode id original).length := by
    omega
  have front : (squareNode id original ++ rest).take (lead id).length = lead id := by
    have split := lead_append_lastWord id
    rw [squareNode_append]
    nth_rewrite 2 [← split]
    rw [List.append_assoc, List.take_left]
  rw [collapse]
  simp only [squareDeclaration, start, stop, front, String.toList_ofList, List.drop_left]
  rw [lead_append_lastWord]

/-- A line that is one node once it is masked declares this node. -/
theorem declarations_of_squareNode {line : List Char} (areWords : AreWords id)
    (isBody : IsBody text) (masked : maskPipeLabels line = squareNode id text)
    (accepted : isReserved (String.ofList (lastWord id)) = false) :
    declarations line = [squareDeclaration 0 id text] := by
  have square : findAll (bracketed .square) 0 (squareNode id text) =
      [(⟨0 + (lead id).length, 0 + (squareNode id text).length⟩, lastWord id, text)] := by
    have found := findAll_squareNode areWords isBody 0 []
    rwa [List.append_nil, findAll] at found
  have others : ∀ shape ∈ bracketShapes, shape ≠ .square →
      findAll (bracketed shape) 0 (squareNode id text) = [] := by
    intro shape listed other
    have passed := findAll_squareNode_other listed other areWords isBody 0 []
    rwa [List.append_nil, findAll] at passed
  apply declarations_of_apart
  · rw [masked, candidates_of_square square others]
    rfl
  · simpa [squareDeclaration] using accepted
  · simpa using squareDeclaration_proper 0
  · exact List.pairwise_singleton _ _

end Declarations

/-- An arrow between two nodes in square brackets. -/
def squareLine (source first target second : List Char) : List Char :=
  squareNode source first ++ (" --> ".toList ++ squareNode target second)

section Lines

variable {source first target second line : List Char}

/-- The nodes that are found where an arrow leads from one node in square brackets to another. -/
def squareDeclarations (source first target second : List Char) : List Declaration :=
  [squareDeclaration 0 source first,
    squareDeclaration ((squareNode source first).length + " --> ".toList.length) target second]

/-- A line of two nodes in square brackets declares the last words in front of them. -/
theorem declarations_of_squareLine (isSource : AreWords source) (isTarget : AreWords target)
    (isFirst : IsBody first) (isSecond : IsBody second)
    (masked : maskPipeLabels line = squareLine source first target second)
    (acceptedSource : isReserved (String.ofList (lastWord source)) = false)
    (acceptedTarget : isReserved (String.ofList (lastWord target)) = false) :
    declarations line = squareDeclarations source first target second := by
  have between : ∀ c ∈ " --> ".toList, isNameChar c = false := isNameChar_of_all (by decide)
  have square : findAll (bracketed .square) 0 (squareLine source first target second) =
      [(⟨0 + (lead source).length, 0 + (squareNode source first).length⟩, lastWord source, first),
        (⟨0 + (squareNode source first).length + " --> ".toList.length + (lead target).length,
          0 + (squareNode source first).length + " --> ".toList.length +
            (squareNode target second).length⟩, lastWord target, second)] := by
    have foundSecond := findAll_squareNode isTarget isSecond
      (0 + (squareNode source first).length + " --> ".toList.length) []
    rw [List.append_nil, findAll] at foundSecond
    rw [squareLine, findAll_squareNode isSource isFirst,
      (wordLed_bracketed .square).findAll_others between, foundSecond]
  have others : ∀ shape ∈ bracketShapes, shape ≠ .square →
      findAll (bracketed shape) 0 (squareLine source first target second) = [] := by
    intro shape listed other
    have passed := findAll_squareNode_other listed other isTarget isSecond
      (0 + (squareNode source first).length + " --> ".toList.length) []
    rw [List.append_nil, findAll] at passed
    rw [squareLine, findAll_squareNode_other listed other isSource isFirst,
      (wordLed_bracketed shape).findAll_others between, passed]
  apply declarations_of_apart
  · rw [masked, candidates_of_square square others]
    simp [squareDeclarations, squareDeclaration]
  · simpa [squareDeclarations] using ⟨acceptedSource, acceptedTarget⟩
  · simpa [squareDeclarations] using
      ⟨squareDeclaration_proper 0, squareDeclaration_proper _⟩
  · rw [squareDeclarations, List.pairwise_pair, squareDeclaration, squareDeclaration]
    dsimp only
    omega

/-- The nodes are collapsed to their ids, also where their brackets hold what has been masked. -/
theorem collapse_squareLine {firstText secondText : List Char}
    (sameFirst : firstText.length = first.length)
    (sameSecond : secondText.length = second.length) :
    collapse 0 (squareLine source firstText target secondText)
        (squareDeclarations source first target second) = arrowLine source target := by
  have stop : 0 + (squareNode source first).length = (squareNode source first).length :=
    Nat.zero_add _
  have arrow := @collapse_append " --> ".toList (squareNode source first).length
    [squareDeclaration ((squareNode source first).length + " --> ".toList.length) target second]
    (by simp [squareDeclaration]) (by simpa using squareDeclaration_proper _)
    (squareNode target secondText)
  have last := @collapse_squareNode target second secondText sameSecond
    ((squareNode source first).length + " --> ".toList.length) [] []
  rw [List.append_nil, collapse, List.append_nil] at last
  rw [squareLine, squareDeclarations, collapse_squareNode sameFirst, stop, arrow, last, arrowLine]

end Lines

/-! ### Links between ids -/

/-- Words alone are not connected. -/
theorem connections_words {id : List Char} (areWords : AreWords id) : connections id = [] := by
  have none : (connectors.flatMap fun connector => connectionsOf connector id) = [] := by
    rw [← map_connector, List.flatMap_map, List.flatMap_eq_nil_iff]
    exact fun kind _ => connectionsFrom_last kind areWords 0
  simp [connections, none]

/-- An arrow without label. -/
def plainArc (source target : List Char) : Arc where
  source := String.ofList source
  target := String.ofList target

/-- An arrow between ids is found between the words beside it. -/
def arrowArc (source target : List Char) : Arc :=
  plainArc (lastWord source) (firstWord target)

/-- A plain arrow between two rows of words joins the last word of one and the first of the
other. -/
theorem arcs_arrowLine {source target : List Char} (isSource : AreWords source)
    (isTarget : AreWords target) :
    (connections (arrowLine source target)).map connectedArc = [arrowArc source target] := by
  have isWord := isWord_lastWord isSource
  have stops : Stops isNameChar (" --> ".toList ++ target) := stops_cons (by decide)
  have between : ∀ c ∈ " --> ".toList, isNameChar c = false := isNameChar_of_all (by decide)
  have shorter : target.length ≤ (" --> ".toList ++ target).length := by
    simp only [List.length_append]
    omega
  obtain ⟨span, found⟩ : ∃ span, ∀ kind, connectionsFrom kind 0 (arrowLine source target) =
      if kind = .arrow then
        [foundConnection .arrow (span, lastWord source, firstWord target, none)] else [] := by
    apply Exists.intro
    intro kind
    have read := afterTie_arrow kind isTarget
    rw [arrowLine, connectionsFrom_words kind isSource]
    by_cases own : kind = .arrow
    · subst own
      rw [if_pos rfl] at read ⊢
      exact connectionsFrom_link isWord isTarget stops read shorter _
    · rw [if_neg own] at read ⊢
      rw [connectionsFrom_pass isWord stops read, connectionsFrom_others kind between]
      exact connectionsFrom_last kind isTarget _
  have candidates : (linkKinds.flatMap fun kind =>
      connectionsFrom kind 0 (arrowLine source target)) =
        [foundConnection .arrow (span, lastWord source, firstWord target, none)] := by
    rw [List.flatMap_congr fun kind _ => found kind]
    rfl
  rw [connections_of_candidates candidates (by simp)]
  rfl

/-! ### What the lines hold -/

/-- A node with a text in square brackets. -/
def captioned (id text : List Char) : Vertex where
  id := String.ofList id
  text := some (String.ofList text)
  shape := some Shape.square.name

/-- The vertex as which a node in square brackets is entered. -/
def squareVertex (id text : List Char) : Vertex where
  id := String.ofList (lastWord id)
  text := some (unquoteOnce text)
  shape := some Shape.square.name

section Body

variable {source first target second firstText secondText : List Char}

theorem squareLine_eq : squareLine source first target second =
    source ++ '[' :: (first ++ ("] --> ".toList ++ squareNode target second)) := by
  simp [squareLine, squareNode]

/-- Such a line begins with a word and ends with a bracket. -/
theorem ends_squareLine (isSource : AreWords source) :
    (∃ c rest, squareLine source first target second = c :: rest ∧ isAsciiWord c = true) ∧
      ∃ front, squareLine source first target second = front ++ [']'] := by
  constructor
  · obtain ⟨c, rest, rfl, word⟩ := isSource.head
    exact ⟨c, _, squareLine_eq, word⟩
  · exact ⟨source ++ '[' :: (first ++ ("] --> ".toList ++ (target ++ '[' :: second))),
      by simp [squareLine, squareNode]⟩

/-- Such a line is one of nodes and links, unless its first word is a keyword. -/
theorem isBodyLine_squareLine (isSource : IsIdentifier source) (free : KeywordFree source) :
    isBodyLine (squareLine source first target second) = true := by
  have leads : Leads (source.takeWhile isAsciiWord)
      (squareLine source first target second) := by
    rw [squareLine_eq]
    exact leads_identifier isSource (marked_cons (by decide) _)
  have word : KeywordFree (source.takeWhile isAsciiWord) := by
    have whole := List.takeWhile_eq_self_iff.mpr leads.1.ascii
    rw [KeywordFree, whole]
    exact free
  obtain ⟨⟨c, rest, starts, visible⟩, front, ends⟩ :=
    @ends_squareLine source first target second (areWords_of_isIdentifier isSource)
  have trimmed := isTrimmed_of_ends starts (isBlank_of_isAsciiWord visible) ends (by decide)
  exact isBodyLine_of_leads leads word trimmed (by simp [squareLine_eq])

/-- If both nodes are seen, they are entered with the texts that are seen, and the arrow is
drawn. -/
theorem drawn_of_squareLine (isSource : IsIdentifier source) (isTarget : IsIdentifier target)
    (free : KeywordFree source) (isFirst : IsBody first) (isSecond : IsBody second)
    (sameFirst : firstText.length = first.length)
    (sameSecond : secondText.length = second.length)
    (masked : maskPipeLabels (squareLine source firstText target secondText) =
      squareLine source first target second)
    (acceptedSource : isReserved (String.ofList (lastWord source)) = false)
    (acceptedTarget : isReserved (String.ofList (lastWord target)) = false) :
    drawn (squareLine source firstText target secondText) = [arrowArc source target] ∧
      entered (squareLine source firstText target secondText) =
        [squareVertex source first, squareVertex target second] ++
          arcEnds (arrowArc source target) := by
  have body := @isBodyLine_squareLine source firstText target secondText isSource free
  have found := declarations_of_squareLine (areWords_of_isIdentifier isSource)
    (areWords_of_isIdentifier isTarget) isFirst isSecond masked acceptedSource acceptedTarget
  have arcs : drawn (squareLine source firstText target secondText) =
      [arrowArc source target] := by
    rw [drawn, if_pos body, bodyArcs, links, found, collapse_squareLine sameFirst sameSecond]
    exact arcs_arrowLine (areWords_of_isIdentifier isSource) (areWords_of_isIdentifier isTarget)
  rw [entered, arcs, declared, if_pos body, found]
  exact ⟨rfl, rfl⟩

/-- If the brackets seem to go on until the end of the line, the first node is all that is
entered. -/
theorem drawn_of_squareNode {text : List Char} (isSource : IsIdentifier source)
    (free : KeywordFree source) (isBody : IsBody text)
    (masked : maskPipeLabels (squareLine source first target second) = squareNode source text)
    (same : (squareLine source first target second).length = (squareNode source text).length)
    (accepted : isReserved (String.ofList (lastWord source)) = false) :
    drawn (squareLine source first target second) = [] ∧
      entered (squareLine source first target second) = [squareVertex source text] := by
  have areWords := areWords_of_isIdentifier isSource
  have body := @isBodyLine_squareLine source first target second isSource free
  have found := declarations_of_squareNode areWords isBody masked accepted
  have spelled : squareLine source first target second =
      squareNode source (first ++ ("] --> ".toList ++ (target ++ '[' :: second))) := by
    simp [squareLine, squareNode]
  have length : (first ++ ("] --> ".toList ++ (target ++ '[' :: second))).length =
      text.length := by
    rw [spelled, length_squareNode, length_squareNode] at same
    omega
  have collapsed := @collapse_squareNode source text _ length 0 [] []
  rw [List.append_nil, collapse, List.append_nil, ← spelled] at collapsed
  have arcs : drawn (squareLine source first target second) = [] := by
    rw [drawn, if_pos body, bodyArcs, links, found, collapsed, connections_words areWords]
    rfl
  rw [entered, arcs, declared, if_pos body, found]
  exact ⟨rfl, rfl⟩

end Body

end Flowchart.Scan
