import Flowchart.Proofs.Scan.Pipes

/-!
Where on a line nodes with brackets and links are found.

Candidates come kind by kind, each kind from left to right. What is claimed in the end lies apart,
and is sorted by where it starts. A claimed link is not sorted by its claim but by the word before
it; the two orders agree, because a claim neither begins nor ends inside of a word.

Main definitions: `Collapsed`, `Connection.Stands`. Main statements: `pairwise_declarations`,
`collapsed_collapse`, `pairwise_connections`, `matches_ordered`.
-/

namespace Flowchart.Scan

open Flowchart.Text

/-! ### Nodes with brackets -/

/-- What is found in brackets ends before the rest of the line. -/
theorem leavesEnd_bracketed (shape : Shape) : LeavesEnd (bracketed shape) := by
  intro text value left read
  simp only [bracketed, Option.bind_eq_bind, Option.bind_eq_some_iff] at read
  obtain ⟨⟨id, rest⟩, readId, opened, opens, ⟨body, behind⟩, readBody, closed, closes, same⟩ := read
  cases same
  have afterId : rest <:+ text := run1_isSuffix readId
  have afterOpening := (afterLiteral_isSuffix opens).trans (List.dropWhile_suffix isBlank)
  have afterBody : behind <:+ opened := run1_isSuffix readBody
  exact (afterLiteral_isSuffix closes).trans (afterBody.trans (afterOpening.trans afterId))

/-- What is found for a node with brackets takes characters of the line. -/
theorem proper_of_mem_declarations {line : List Char} {declaration : Declaration}
    (member : declaration ∈ declarations line) :
    declaration.span.start < declaration.span.stop ∧ declaration.span.stop ≤ line.length := by
  obtain ⟨-, shape, candidate⟩ := candidate_of_mem_declarations member
  obtain ⟨found, read, rfl⟩ := List.mem_map.mp candidate
  obtain ⟨front, taken, left, split, filled, -, isSpan⟩ :=
    mem_findAll (leavesEnd_bracketed shape) read
  have length := congrArg List.length split
  rw [length_maskPipeLabels, List.length_append, List.length_append] at length
  have positive := List.length_pos_iff.mpr filled
  simp only [isSpan]
  omega

/-- Each node with brackets ends before the next begins. -/
theorem pairwise_declarations (line : List Char) :
    (declarations line).Pairwise fun left right => left.span.stop ≤ right.span.start := by
  have claims := @pairwise_sorted_claims Declaration Declaration.span
    (fun declaration => isReserved declaration.id) (fun declaration => declaration.span.start)
    (bracketShapes.flatMap fun shape => declarationsOf shape (maskPipeLabels line))
  rw [← claim_eq] at claims
  refine List.Pairwise.imp_of_mem ?_ claims
  intro left right isLeft isRight ⟨apart, ordered⟩
  have properRight := (proper_of_mem_declarations isRight).1
  rcases apart with before | behind
  · exact before
  · omega

/-- A line, from a position on, and the same line with the bare id in the place of each node: what
stands between the nodes is kept as it is. -/
inductive Collapsed : Nat → List Char → List Declaration → List Char → Prop where
  | done (position : Nat) (line : List Char) : Collapsed position line [] line
  | node {position : Nat} {gap taken line collapsed : List Char} {declaration : Declaration}
      {others : List Declaration} (starts : declaration.span.start = position + gap.length)
      (stops : declaration.span.stop = declaration.span.start + taken.length)
      (rest : Collapsed declaration.span.stop line others collapsed) :
      Collapsed position (gap ++ (taken ++ line)) (declaration :: others)
        (gap ++ (declaration.id.toList ++ collapsed))

theorem exists_split {text : List Char} {length : Nat} (within : length ≤ text.length) :
    ∃ front rest, text = front ++ rest ∧ front.length = length :=
  ⟨text.take length, text.drop length, (List.take_append_drop length text).symm,
    List.length_take_of_le within⟩

/-- Nodes that stand one after the other on a line are collapsed one after the other. -/
theorem collapsed_collapse {position : Nat} {line : List Char} {declared : List Declaration}
    (within : ∀ declaration ∈ declared, position ≤ declaration.span.start ∧
      declaration.span.start < declaration.span.stop ∧
      declaration.span.stop ≤ position + line.length)
    (apart : declared.Pairwise fun left right => left.span.stop ≤ right.span.start) :
    Collapsed position line declared (collapse position line declared) := by
  induction declared generalizing position line with
  | nil => exact .done position line
  | cons declaration others ih =>
      obtain ⟨first, apartRest⟩ := List.pairwise_cons.mp apart
      obtain ⟨after, filled, inside⟩ := within declaration List.mem_cons_self
      -- The line is cut where the first node starts and where it stops.
      obtain ⟨gap, behind, rfl, gapLength⟩ :=
        exists_split (show declaration.span.start - position ≤ line.length by omega)
      rw [List.length_append] at inside
      obtain ⟨taken, rest, rfl, takenLength⟩ :=
        exists_split (show declaration.span.stop - declaration.span.start ≤ behind.length by omega)
      have withinRest : ∀ other ∈ others, declaration.span.stop ≤ other.span.start ∧
          other.span.start < other.span.stop ∧
          other.span.stop ≤ declaration.span.stop + rest.length := by
        intro other member
        obtain ⟨-, filledOther, insideOther⟩ := within other (List.mem_cons_of_mem _ member)
        rw [List.length_append, List.length_append] at insideOther
        exact ⟨first other member, filledOther, by omega⟩
      have bothLength : (gap ++ taken).length = declaration.span.stop - position := by
        rw [List.length_append]
        omega
      have isRest : (gap ++ (taken ++ rest)).drop (declaration.span.stop - position) = rest := by
        rw [← List.append_assoc]
        exact List.drop_left' bothLength
      rw [collapse, List.take_left' gapLength, isRest, List.append_assoc]
      exact .node (by omega) (by omega) (ih withinRest apartRest)

/-! ### Links -/

/-- A text that holds a mark right before what is left of it. -/
def MarkBefore (left text : List Char) : Prop :=
  ∃ front mark, text = front ++ mark :: left ∧ isMark mark = true

/-- A mark that is passed in a part of the text is passed in the text. -/
theorem MarkBefore.of_suffix {text rest left : List Char} (marked : MarkBefore left rest)
    (inside : rest <:+ text) : MarkBefore left text := by
  obtain ⟨before, rfl⟩ := inside
  obtain ⟨front, mark, rfl, isMark⟩ := marked
  exact ⟨before ++ front, mark, (List.append_assoc ..).symm, isMark⟩

/-- A literal that ends in a mark is taken with the mark. -/
theorem markBefore_of_literal {literal text left : List Char}
    (ends : ∃ mark ∈ literal.getLast?, isMark mark = true)
    (read : afterLiteral literal text = some left) : MarkBefore left text := by
  obtain ⟨mark, isLast, marked⟩ := ends
  obtain ⟨front, rfl⟩ := List.getLast?_eq_some_iff.mp isLast
  refine ⟨front, mark, ?_, marked⟩
  rw [afterLiteral_eq_some.mp read, List.append_assoc]
  rfl

/-- What a recognizer takes ends in a mark. -/
def TakesMark {α : Type} (item : Recognizer α) : Prop :=
  ∀ ⦃text : List Char⦄ ⦃value : α⦄ ⦃left : List Char⦄, item text = some (value, left) →
    MarkBefore left text

/-- A connector without a label passes its own last mark. -/
theorem takesMark_bareBody {token : String}
    (ends : ∃ mark ∈ token.toList.getLast?, isMark mark = true) : TakesMark (bareBody token) := by
  intro text label left read
  simp only [bareBody, Option.bind_eq_bind, Option.bind_eq_some_iff] at read
  obtain ⟨left, taken, same⟩ := read
  cases same
  exact markBefore_of_literal ends taken

/-- A connector with a label passes a pipe. -/
theorem takesMark_pipedBody (token : String) : TakesMark (pipedBody token) := by
  intro text label left read
  simp only [pipedBody, Option.bind_eq_bind, Option.bind_eq_some_iff] at read
  obtain ⟨behind, taken, opened, opens, closed, closes, same⟩ := read
  cases same
  have afterLabel : (run (· != '|') opened).2 <:+ opened := List.dropWhile_suffix _
  have afterPipe := (afterLiteral_isSuffix opens).trans (afterLiteral_isSuffix taken)
  have inside := afterLabel.trans afterPipe
  exact (markBefore_of_literal ⟨'|', rfl, by decide⟩ closes).of_suffix inside

theorem takesMark_labeledArrowBody : TakesMark labeledArrowBody := by
  intro text label left read
  rw [labeledArrowBody, Option.bind_eq_bind, Option.bind_eq_some_iff] at read
  obtain ⟨behind, taken, read⟩ := read
  split at read
  case h_2 => cases read
  case h_1 c rest visible =>
    split at read
    case isTrue => cases read
    case isFalse =>
      simp only [Option.bind_eq_bind, Option.bind_eq_some_iff] at read
      obtain ⟨⟨label, after⟩, readLabel, closed, closes, same⟩ := read
      cases same
      have afterBlanks := visible ▸ List.dropWhile_suffix (l := behind) isBlank
      have inside := (run1_isSuffix readLabel).trans
        (afterBlanks.trans (afterLiteral_isSuffix taken))
      exact (markBefore_of_literal ⟨'>', rfl, by decide⟩ closes).of_suffix inside

theorem takesMark_labeledDottedBody : TakesMark labeledDottedBody := by
  intro text label left read
  simp only [labeledDottedBody, Option.bind_eq_bind, Option.bind_eq_some_iff] at read
  obtain ⟨behind, taken, ⟨label, rest⟩, readLabel, closed, closes, same⟩ := read
  cases same
  have inside := (run1_isSuffix readLabel).trans (afterLiteral_isSuffix taken)
  exact (markBefore_of_literal ⟨'>', rfl, by decide⟩ closes).of_suffix inside

/-- Whatever the kind of a link, its own characters end in a mark. -/
theorem takesMark_body {connector : Connector} (listed : connector ∈ connectors) :
    TakesMark connector.body := by
  simp only [connectors, List.mem_cons, List.not_mem_nil, or_false] at listed
  rcases listed with rfl | rfl | rfl | rfl | rfl | rfl | rfl | rfl
  · exact takesMark_pipedBody "-->"
  · exact takesMark_pipedBody "-.->"
  · exact takesMark_labeledArrowBody
  · exact takesMark_bareBody ⟨'>', rfl, by decide⟩
  · exact takesMark_labeledDottedBody
  · exact takesMark_bareBody ⟨'>', rfl, by decide⟩
  · exact takesMark_bareBody ⟨'>', rfl, by decide⟩
  · exact takesMark_bareBody ⟨'-', rfl, by decide⟩

/-- A link is a word, and after it a tie that neither begins nor ends with a character of a word. -/
theorem connected_split {connector : Connector} (listed : connector ∈ connectors)
    {text left source target : List Char} {label : Option (List Char)}
    (read : connected connector text = some ((source, target, label), left)) :
    ∃ tie, text = source ++ (tie ++ left) ∧ source ≠ [] ∧ (∀ c ∈ source, isNameChar c = true) ∧
      (∃ c ∈ tie.head?, isNameChar c = false) ∧ ∃ c ∈ tie.getLast?, isNameChar c = false := by
  simp only [connected, Option.bind_eq_bind, Option.bind_eq_some_iff] at read
  obtain ⟨⟨word, rest⟩, readWord, ⟨found, behind⟩, readBody, ⟨other, more⟩, readTarget, same⟩ :=
    read
  cases same
  obtain ⟨filled, runs⟩ := run1_eq_some.mp readWord
  have isWord : text.takeWhile isNameChar = word := congrArg Prod.fst runs
  have isRest : text.dropWhile isNameChar = rest := congrArg Prod.snd runs
  obtain ⟨front, mark, split, marked⟩ := takesMark_body listed readBody
  have parts : rest = rest.takeWhile isBlank ++
      (front ++ mark :: (behind.takeWhile isBlank ++ behind.dropWhile isBlank)) := by
    rw [List.takeWhile_append_dropWhile, ← split, List.takeWhile_append_dropWhile]
  -- The tie ends in the mark and blanks, none of which belongs to a word.
  let ending := mark :: behind.takeWhile isBlank
  let tie := rest.takeWhile isBlank ++ front ++ ending
  have spelled : rest = tie ++ behind.dropWhile isBlank := by
    rw [parts]
    simp [tie, ending]
  have filledTie : tie ≠ [] := List.append_ne_nil_of_right_ne_nil _ (List.cons_ne_nil _ _)
  refine ⟨tie, ?_, filled, ?_, ?_, ?_⟩
  · rw [← spelled, ← isWord, ← isRest, List.takeWhile_append_dropWhile]
  · rw [← isWord]
    exact fun c member => List.mem_takeWhile_imp member
  · have stops : Stops isNameChar rest := isRest ▸ stops_dropWhile isNameChar text
    refine ⟨tie.head filledTie, List.head?_eq_some_head filledTie, stops _ ?_⟩
    rw [spelled, List.head?_append_of_ne_nil _ filledTie]
    exact List.head?_eq_some_head filledTie
  · have outside : ∀ c ∈ ending, isNameChar c = false := by
      intro c member
      rcases List.mem_cons.mp member with rfl | blank
      · exact isNameChar_of_isMark marked
      · exact isNameChar_of_isBlank (List.mem_takeWhile_imp blank)
    have filledEnding : ending ≠ [] := List.cons_ne_nil _ _
    refine ⟨ending.getLast filledEnding, ?_, outside _ (List.getLast_mem filledEnding)⟩
    rw [List.getLast?_append_of_ne_nil _ filledEnding]
    exact List.getLast?_eq_some_getLast filledEnding

/-- What is connected ends before the rest of the line. -/
theorem leavesEnd_connected {connector : Connector} (listed : connector ∈ connectors) :
    LeavesEnd (connected connector) := by
  rintro text ⟨source, target, label⟩ left read
  obtain ⟨tie, split, -⟩ := connected_split listed read
  exact ⟨source ++ tie, by rw [split, List.append_assoc]⟩

/-- Whether a character of a word stands at a position of a text. -/
def isNameAt (text : List Char) (position : Nat) : Bool :=
  text[position]?.any isNameChar

/-- Where a link stands on a line: its claim follows the word that is its source, and neither begins
nor ends inside of a word. -/
structure Connection.Stands (line : List Char) (link : Connection) : Prop where
  before : link.position < link.claimed.start
  filled : link.claimed.start < link.claimed.stop
  inside : link.claimed.stop ≤ line.length
  source : (line.drop link.position).take (link.claimed.start - link.position) = link.source.toList
  word : ∀ i, link.position ≤ i → i < link.claimed.start → isNameAt line i = true
  opens : isNameAt line link.claimed.start = false
  closes : isNameAt line (link.claimed.stop - 1) = false

theorem isNameAt_append (front text : List Char) (offset : Nat) :
    isNameAt (front ++ text) (front.length + offset) = isNameAt text offset := by
  rw [isNameAt, List.getElem?_append_right (Nat.le_add_right _ _), Nat.add_sub_cancel_left]
  rfl

/-- A link stands where the line holds its source and a tie after it. -/
theorem Connection.stands_of_split {link : Connection} {front source tie left : List Char}
    (position : link.position = front.length)
    (starts : link.claimed.start = front.length + source.length)
    (stops : link.claimed.stop = front.length + source.length + tie.length)
    (isSource : link.source = String.ofList source) (filled : source ≠ [])
    (isWord : ∀ c ∈ source, isNameChar c = true)
    (first : ∃ c ∈ tie.head?, isNameChar c = false)
    (last : ∃ c ∈ tie.getLast?, isNameChar c = false) :
    link.Stands (front ++ (source ++ (tie ++ left))) := by
  obtain ⟨c, isFirst, outsideFirst⟩ := first
  obtain ⟨d, isLast, outsideLast⟩ := last
  have longSource := List.length_pos_iff.mpr filled
  have longTie := List.length_pos_of_mem (List.mem_of_mem_head? isFirst)
  constructor
  case before => omega
  case filled => omega
  case inside =>
    simp only [List.length_append]
    omega
  case source =>
    rw [position, starts, isSource, List.drop_left, Nat.add_sub_cancel_left, List.take_left,
      String.toList_ofList]
  case word =>
    intro i after before
    obtain ⟨offset, rfl⟩ := Nat.exists_eq_add_of_le (position ▸ after)
    have inSource : offset < source.length := by omega
    rw [isNameAt_append, isNameAt, List.getElem?_append_left inSource,
      List.getElem?_eq_getElem inSource]
    exact isWord _ (List.getElem_mem inSource)
  case opens =>
    have here := isNameAt_append source (tie ++ left) 0
    have atFirst : (tie ++ left)[0]? = some c := by
      rw [List.getElem?_append_left longTie, ← List.head?_eq_getElem?]
      exact isFirst
    rw [starts, isNameAt_append]
    rw [Nat.add_zero] at here
    rw [here, isNameAt, atFirst]
    exact outsideFirst
  case closes =>
    have here := isNameAt_append source (tie ++ left) (tie.length - 1)
    have atLast : (tie ++ left)[tie.length - 1]? = some d := by
      rw [List.getElem?_append_left (by omega), ← List.getLast?_eq_getElem?]
      exact isLast
    have isStop : front.length + source.length + tie.length - 1 =
        front.length + (source.length + (tie.length - 1)) := by omega
    rw [stops, isStop, isNameAt_append, here, isNameAt, atLast]
    exact outsideLast

/-- A connector of one kind that is found stands on the line between two names. -/
theorem stands_of_mem_connectionsOf {connector : Connector} (listed : connector ∈ connectors)
    {line : List Char} {link : Connection} (member : link ∈ connectionsOf connector line) :
    link.Stands line := by
  obtain ⟨⟨span, source, target, label⟩, found, rfl⟩ := List.mem_map.mp member
  obtain ⟨front, taken, left, rfl, -, read, rfl⟩ := mem_findAll (leavesEnd_connected listed) found
  obtain ⟨tie, split, filled, isWord, first, last⟩ := connected_split listed read
  have isTaken : taken = source ++ tie := by
    rw [← List.append_assoc] at split
    exact List.append_cancel_right split
  rw [split]
  apply Connection.stands_of_split (Nat.zero_add _) _ _ rfl filled isWord first last
  · simp only [Nat.zero_add]
  · simp only [isTaken, List.length_append, Nat.zero_add, Nat.add_assoc]

/-- Every connector that is found does. -/
theorem stands_of_mem_connections {line : List Char} {link : Connection}
    (member : link ∈ connections line) : link.Stands line := by
  obtain ⟨connector, listed, found⟩ := candidate_of_mem_connections member
  exact stands_of_mem_connectionsOf listed found

/-- Of two links whose claims lie apart, the one whose source comes first ends before the source of
the other. -/
theorem Connection.Stands.stop_le_position {line : List Char} {left right : Connection}
    (standsLeft : left.Stands line) (standsRight : right.Stands line)
    (apart : left.claimed.Apart right.claimed) (ordered : left.position ≤ right.position) :
    left.claimed.stop ≤ right.position := by
  have filledLeft := standsLeft.filled
  have filledRight := standsRight.filled
  have before := standsRight.before
  rcases apart with leftFirst | rightFirst
  · -- If the right source began inside of the left claim, it would run over its end.
    by_contra inside
    have name := standsRight.word (left.claimed.stop - 1) (by omega) (by omega)
    rw [standsLeft.closes] at name
    cases name
  · -- The right claim would begin inside of the left source.
    have name := standsLeft.word right.claimed.start (by omega) (by omega)
    rw [standsRight.opens] at name
    cases name

/-- Each link ends before the source of the next begins. -/
theorem pairwise_connections (line : List Char) :
    (connections line).Pairwise fun left right => left.claimed.stop ≤ right.position := by
  have claims := @pairwise_sorted_claims Connection Connection.claimed (fun _ => false)
    Connection.position (connectors.flatMap fun connector => connectionsOf connector line)
  rw [← claimConnection_eq] at claims
  refine List.Pairwise.imp_of_mem ?_ claims
  intro left right isLeft isRight ⟨apart, ordered⟩
  exact (stands_of_mem_connections isLeft).stop_le_position (stands_of_mem_connections isRight)
    apart ordered

/-- What is found on a line lies apart and comes in the order of the text. Nodes with brackets are
replaced by their ids, and the rest of the line is kept. Each link claims what follows its source,
and the source of a link begins where the claim of the link before it ends, or behind. -/
theorem matches_ordered (line : List Char) :
    (∀ declaration ∈ declarations line,
      declaration.span.start < declaration.span.stop ∧ declaration.span.stop ≤ line.length) ∧
    ((declarations line).Pairwise fun left right =>
      left.span.overlaps right.span = false ∧ left.span.start < right.span.start ∧
        left.span.stop ≤ right.span.start) ∧
    Collapsed 0 line (declarations line) (collapse 0 line (declarations line)) ∧
    (∀ link ∈ connections line, link.Stands line) ∧
    (connections line).Pairwise fun left right =>
      left.claimed.overlaps right.claimed = false ∧ left.position < right.position ∧
        left.claimed.stop ≤ right.position := by
  have proper := @proper_of_mem_declarations line
  have stands := @stands_of_mem_connections line
  refine ⟨fun _ => proper, ?_, ?_, fun _ => stands, ?_⟩
  · refine (pairwise_declarations line).imp_of_mem fun {left right} isLeft _ before => ?_
    exact ⟨(overlaps_of_stop_le before).1, Nat.lt_of_lt_of_le (proper isLeft).1 before, before⟩
  · refine collapsed_collapse (fun declaration member => ?_) (pairwise_declarations line)
    rw [Nat.zero_add]
    exact ⟨Nat.zero_le _, proper member⟩
  · refine (pairwise_connections line).imp_of_mem fun {left right} isLeft isRight before => ?_
    have behind : left.claimed.stop ≤ right.claimed.start :=
      Nat.le_trans before (Nat.le_of_lt (stands isRight).before)
    have follows : left.position < left.claimed.stop :=
      Nat.lt_trans (stands isLeft).before (stands isLeft).filled
    exact ⟨(overlaps_of_stop_le behind).1, Nat.lt_of_lt_of_le follows before, before⟩

example : (connections "A --> B --> C".toList).map (fun link => (link.position, link.claimed)) =
    [(0, ⟨1, 6⟩), (6, ⟨7, 12⟩)] := by
  cbv

end Flowchart.Scan
