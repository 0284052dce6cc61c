import Flowchart.Proofs.Statement.Notation

/-!
Nodes are read back from their texts.

What follows a node decides whether reading stops where the node was written to end. `NodeEnds` and
`GroupEnds` collect what a text must not look like; the blanks and marks that chains put after their
nodes satisfy them.

Main statements: `nodeRef_append`, `nodeGroup_append`.
-/

namespace Flowchart.Statement

open Flowchart.Text Flowchart.Notation

/-! ### Identifiers -/

/-- No identifier goes on into a text. -/
structure IdentifierEnds (rest : List Char) : Prop where
  word : Stops isWordChar rest
  segment : hyphenSegment rest = none

theorem isWordChar_of_isWord {word : List Char} (isWord : IsWord word) :
    ∀ c ∈ word, isWordChar c = true :=
  fun c member => isWordChar_of_isAsciiWord (isWord.ascii c member)

/-- A hyphen with a word behind it goes on with an identifier. -/
theorem hyphenSegment_word {word rest : List Char} (isWord : IsWord word)
    (stops : Stops isWordChar rest) :
    hyphenSegment ('-' :: (word ++ rest)) = some ('-' :: word, rest) := by
  rw [hyphenSegment, run1_append isWord.nonempty (isWordChar_of_isWord isWord) stops]
  rfl

theorem hyphenSegment_of_ne {c : Char} {rest : List Char} (other : c ≠ '-') :
    hyphenSegment (c :: rest) = none := by
  unfold hyphenSegment
  split
  · rename_i same
    exact absurd (List.cons.inj same).1 other
  · rfl

/-- A mark other than the hyphen ends an identifier. -/
theorem identifierEnds_cons {c : Char} (rest : List Char) (mark : isMark c = true)
    (other : c ≠ '-') : IdentifierEnds (c :: rest) :=
  ⟨stops_cons (isWordChar_of_isMark mark), hyphenSegment_of_ne other⟩

theorem identifierEnds_gap {gap rest : List Char} (blank : Gap gap)
    (ends : IdentifierEnds rest) : IdentifierEnds (gap ++ rest) := by
  cases gap with
  | nil => exact ends
  | cons c gap =>
      have here : isInlineBlank c = true := blank c (by simp)
      refine identifierEnds_cons _ (isMark_of_isInlineBlank here) ?_
      rintro rfl
      simp [isInlineBlank] at here

/-- An identifier is its first word and the segments after it, which are read one by one. -/
theorem identifier_parts {id : List Char} (isIdentifier : IsIdentifier id) :
    ∃ word more, id = word ++ more ∧ IsWord word ∧ (∀ c ∈ more.head?, c = '-') ∧
      ∀ {rest}, IdentifierEnds rest → Stops isWordChar (more ++ rest) ∧
        ∃ segments, segments.flatten = more ∧
          many hyphenSegment (more ++ rest) = (segments, rest) := by
  induction isIdentifier with
  | @word word isWord =>
      refine ⟨word, [], (List.append_nil word).symm, isWord, by simp, ?_⟩
      intro rest ends
      exact ⟨ends.word, [], rfl, many_of_none ends.segment⟩
  | @joined word tail isWord _ ih =>
      obtain ⟨next, more, rfl, isNext, _, segmented⟩ := ih
      refine ⟨word, '-' :: (next ++ more), rfl, isWord, by simp, ?_⟩
      intro rest ends
      obtain ⟨stops, segments, flattened, read⟩ := segmented ends
      have head := hyphenSegment_word isNext stops
      refine ⟨stops_cons (isWordChar_of_isMark (by decide)), ('-' :: next) :: segments,
        by simp [flattened], ?_⟩
      have shorter : (more ++ rest).length < ('-' :: (next ++ (more ++ rest))).length := by
        simp only [List.length_cons, List.length_append]
        omega
      rw [List.cons_append, List.append_assoc, many_of_some head shorter, read]

/-- An identifier is read back when it ends where it was written to end. -/
theorem identifier_append {id rest : List Char} (isIdentifier : IsIdentifier id)
    (ends : IdentifierEnds rest) : identifier (id ++ rest) = some (String.ofList id, rest) := by
  obtain ⟨word, more, rfl, isWord, _, segmented⟩ := identifier_parts isIdentifier
  obtain ⟨stops, segments, flattened, read⟩ := segmented ends
  have first := run1_append isWord.nonempty (isWordChar_of_isWord isWord) stops
  rw [List.append_assoc, identifier, first]
  simp [read, flattened]

/-- The first character of an identifier belongs to a word. -/
theorem head_of_isIdentifier {id : List Char} (isIdentifier : IsIdentifier id) :
    ∃ c rest, id = c :: rest ∧ isAsciiWord c = true := by
  obtain ⟨word, more, rfl, isWord, _, _⟩ := identifier_parts isIdentifier
  cases word with
  | nil => exact absurd rfl isWord.nonempty
  | cons c word => exact ⟨c, word ++ more, rfl, isWord.ascii c (by simp)⟩

/-! ### Texts in brackets -/

theorem notMem_bracketMarks_of_isInlineBlank {c : Char} (blank : isInlineBlank c = true) :
    c ∉ bracketMarks := by
  simp only [isInlineBlank, Bool.or_eq_true, beq_iff_eq] at blank
  rcases blank with rfl | rfl <;> decide

/-- The blanks around a bare text hold no more bracket marks than the text itself. -/
theorem notMem_bracketMarks_of_bare {left text right : List Char} (leftBlank : Gap left)
    (rightBlank : Gap right) (plain : ∀ c ∈ text, c ∉ bracketMarks) :
    ∀ c ∈ left ++ text ++ right, c ∉ bracketMarks := by
  intro c member
  rcases List.mem_append.mp member with member | member
  · rcases List.mem_append.mp member with member | member
    · exact notMem_bracketMarks_of_isInlineBlank (leftBlank c member)
    · exact plain c member
  · exact notMem_bracketMarks_of_isInlineBlank (rightBlank c member)

/-- The text between brackets starts with no opening bracket. -/
theorem head_of_bodyText {text body : List Char} (nonempty : text ≠ [])
    (written : BodyText text body) :
    ∃ c rest, body = c :: rest ∧ c ∉ "[(\x7b".toList := by
  cases written with
  | @bare left right leftBlank rightBlank plain =>
      have free := notMem_bracketMarks_of_bare leftBlank rightBlank plain
      cases whole : left ++ text ++ right with
      | nil => simp [nonempty] at whole
      | cons c rest =>
          have here : c ∉ bracketMarks := free c (by simp [whole])
          refine ⟨c, rest, rfl, fun member => here ?_⟩
          have included : "[(\x7b".toList ⊆ bracketMarks := by decide
          exact included member
  | quoted => exact ⟨'"', _, rfl, by decide⟩
  | @loose before left right after visible beforeBlank =>
      cases before with
      | nil => exact absurd rfl visible
      | cons c before =>
          have here := notMem_bracketMarks_of_isInlineBlank (beforeBlank c (by simp))
          refine ⟨c, _, rfl, fun member => here ?_⟩
          have included : "[(\x7b".toList ⊆ bracketMarks := by decide
          exact included member

/-- The first character that closes a shape tells where its text has to stop. -/
theorem closing_eq_cons (shape : Shape) : ∃ more, shape.closing = shapeStop shape :: more := by
  cases shape <;> exact ⟨_, rfl⟩

theorem shapeStop_mem (shape : Shape) : shapeStop shape ∈ ")]\x7d".toList := by
  cases shape <;> decide

theorem shapeStop_mem_bracketMarks (shape : Shape) : shapeStop shape ∈ bracketMarks := by
  cases shape <;> decide

/-- A text in quotes is read up to the second quote. -/
theorem quotedText_append {inner : List Char} (free : ∀ c ∈ inner, c ≠ '"') (rest : List Char) :
    quotedText ('"' :: (inner ++ '"' :: rest)) = some ('"' :: (inner ++ ['"']), rest) := by
  have inside : ∀ c ∈ inner, (c != '"') = true := by
    intro c member
    simpa using free c member
  have stops : Stops (· != '"') ('"' :: rest) := stops_cons (by decide)
  simp only [quotedText]
  rw [takeWhile_append_stops inside stops, dropWhile_append_stops inside stops]

theorem quotedText_of_ne {c : Char} {rest : List Char} (other : c ≠ '"') :
    quotedText (c :: rest) = none := by
  unfold quotedText
  split
  · rename_i same
    exact absurd (List.cons.inj same).1 other
  · rfl

/-- The characters between the quotes are the text and blanks. -/
theorem ne_quote_of_quoted {left text right : List Char} (leftBlank : Gap left)
    (rightBlank : Gap right) (free : ∀ c ∈ text, c ≠ '"') :
    ∀ c ∈ left ++ text ++ right, c ≠ '"' := by
  have quote : '"' ∈ bracketMarks := by decide
  intro c member
  rcases List.mem_append.mp member with member | member
  · rcases List.mem_append.mp member with member | member
    · rintro rfl
      exact notMem_bracketMarks_of_isInlineBlank (leftBlank _ member) quote
    · exact free c member
  · rintro rfl
    exact notMem_bracketMarks_of_isInlineBlank (rightBlank _ member) quote

/-- A body without quote at its front and without closing bracket is read up to its brackets. -/
theorem bodyText_run {body rest : List Char} (shape : Shape) (nonempty : body ≠ [])
    (front : ∀ c ∈ body.head?, c ≠ '"') (inside : ∀ c ∈ body, c ≠ shapeStop shape ∧ c ≠ '\n') :
    bodyText (shapeStop shape) (body ++ (shape.closing ++ rest)) =
      some (body, shape.closing ++ rest) := by
  obtain ⟨more, closing⟩ := closing_eq_cons shape
  have belongs : ∀ c ∈ body, (c != shapeStop shape && c != '\n') = true := by
    intro c member
    simpa using inside c member
  have stops : Stops (fun c => c != shapeStop shape && c != '\n') (shape.closing ++ rest) := by
    rw [closing]
    exact stops_cons (by simp)
  have unquoted : quotedText (body ++ (shape.closing ++ rest)) = none := by
    cases body with
    | nil => exact absurd rfl nonempty
    | cons c body => exact quotedText_of_ne (front c rfl)
  rw [bodyText, firstOf_of_none unquoted, firstOf_of_some (run1_append nonempty belongs stops)]

/-- A text between brackets ends where the brackets close. -/
theorem bodyText_append {text body : List Char} (rest : List Char) (shape : Shape)
    (nonempty : text ≠ []) (written : BodyText text body) :
    bodyText (shapeStop shape) (body ++ (shape.closing ++ rest)) =
      some (body, shape.closing ++ rest) := by
  have stop := shapeStop_mem_bracketMarks shape
  cases written with
  | @bare left right leftBlank rightBlank plain =>
      have free := notMem_bracketMarks_of_bare leftBlank rightBlank plain
      refine bodyText_run shape (by simp [nonempty]) ?_ ?_
      · intro c first same
        exact free c (List.mem_of_mem_head? first) (same ▸ by decide)
      · intro c member
        exact ⟨fun same => free c member (same ▸ stop),
          fun same => free c member (same ▸ by decide)⟩
  | @quoted left right leftBlank rightBlank free =>
      have inside := ne_quote_of_quoted leftBlank rightBlank (fun c member => (free c member).1)
      have read := quotedText_append inside (shape.closing ++ rest)
      have whole : '"' :: (left ++ text ++ right ++ ['"']) ++ (shape.closing ++ rest) =
          '"' :: (left ++ text ++ right ++ '"' :: (shape.closing ++ rest)) := by
        simp
      rw [bodyText, whole, firstOf_of_some read]
  | @loose before left right after visible beforeBlank leftBlank rightBlank afterBlank free =>
      have quote : '"' ∉ ")]\x7d".toList := by decide
      have blank : ∀ c, isInlineBlank c = true → c ≠ shapeStop shape ∧ c ≠ '\n' := by
        intro c here
        have outside := notMem_bracketMarks_of_isInlineBlank here
        exact ⟨fun same => outside (same ▸ stop), fun same => outside (same ▸ by decide)⟩
      refine bodyText_run shape (by simp [visible]) ?_ ?_
      · intro c first same
        cases before with
        | nil => exact absurd rfl visible
        | cons d before =>
            obtain rfl : d = c := by simpa using first
            exact notMem_bracketMarks_of_isInlineBlank (beforeBlank d (by simp)) (same ▸ by decide)
      · intro c member
        simp only [List.mem_append, List.mem_cons, List.not_mem_nil, or_false] at member
        rcases member with ((member | rfl | (((member | member) | member) | rfl)) | member)
        · exact blank c (beforeBlank c member)
        · exact ⟨fun same => quote (same ▸ shapeStop_mem shape), by decide⟩
        · exact blank c (leftBlank c member)
        · have here := free c member
          exact ⟨fun same => here.2.2 (same ▸ shapeStop_mem shape), here.2.1⟩
        · exact blank c (rightBlank c member)
        · exact ⟨fun same => quote (same ▸ shapeStop_mem shape), by decide⟩
        · exact blank c (afterBlank c member)

/-- Blanks around quotes, and then the quotes, are taken away. -/
theorem unquote_quoted {before after : List Char} (beforeBlank : Gap before)
    (afterBlank : Gap after) (inner : List Char) :
    unquote (before ++ '"' :: (inner ++ ['"']) ++ after) = String.ofList (trim inner) := by
  have trimmed : IsTrimmed ('"' :: (inner ++ ['"'])) := by
    refine ⟨by simp, stops_cons (by decide), ?_⟩
    rw [List.reverse_cons, List.reverse_append]
    exact stops_cons (by decide)
  rw [unquote, trim_gaps beforeBlank afterBlank trimmed]
  simp

/-- Quotes and blanks around a text are no part of it. -/
theorem unquote_bodyText {text body : List Char} (trimmed : IsTrimmed text)
    (written : BodyText text body) : unquote body = String.ofList text := by
  cases written with
  | @bare left right leftBlank rightBlank plain =>
      have whole := trim_gaps leftBlank rightBlank trimmed
      cases text with
      | nil => exact absurd rfl trimmed.nonempty
      | cons c text =>
          have unquoted : c ≠ '"' := fun same => plain c (by simp) (same ▸ by decide)
          rw [unquote, whole]
          split
          · rename_i same
            exact absurd (List.cons.inj same).1 unquoted
          · rfl
  | @quoted left right leftBlank rightBlank _ =>
      have bare := unquote_quoted gap_nil gap_nil (left ++ text ++ right)
      rw [List.nil_append, List.append_nil] at bare
      rw [bare, trim_gaps leftBlank rightBlank trimmed]
  | loose _ beforeBlank leftBlank rightBlank afterBlank _ =>
      rw [unquote_quoted beforeBlank afterBlank, trim_gaps leftBlank rightBlank trimmed]

/-! ### Shapes -/

/-- Of a shape that has been written, the text is read without blanks and quotes around it. -/
theorem shapeBody_append {text body : List Char} (rest : List Char) (shape : Shape)
    (trimmed : IsTrimmed text) (written : BodyText text body) :
    shapeBody shape (shape.opening ++ (body ++ (shape.closing ++ rest))) =
      some ((shape, String.ofList text), rest) := by
  have read := bodyText_append rest shape trimmed.nonempty written
  simp [shapeBody, read, unquote_bodyText trimmed written]

/-- A shape is not read where its opening is missing. -/
theorem shapeBody_of_foreign {shape : Shape} {text : List Char}
    (foreign : afterLiteral shape.opening text = none) : shapeBody shape text = none := by
  simp [shapeBody, foreign]

/-- A shape is found when none before it in the order of trial opens like the text. -/
theorem anyShape_of_order {earlier later : List Shape} {shape : Shape} {text : List Char}
    {found : (Shape × String) × List Char} (order : shapeOrder = earlier ++ shape :: later)
    (foreign : ∀ other ∈ earlier, afterLiteral other.opening text = none)
    (read : shapeBody shape text = some found) : anyShape text = some found := by
  rw [anyShape, order]
  clear order
  induction earlier with
  | nil => exact firstOf_of_some read
  | cons other earlier ih =>
      have refused := shapeBody_of_foreign (foreign other (by simp))
      rw [List.cons_append, List.map_cons, firstOf_of_none refused]
      exact ih (fun next member => foreign next (List.mem_cons_of_mem _ member))

/-- In the order of trial, no shape opens like one after it whose text has begun. -/
theorem pairwise_foreign :
    shapeOrder.Pairwise fun earlier shape => ∀ c ∉ "[(\x7b".toList, ∀ rest,
      afterLiteral earlier.opening (shape.opening ++ c :: rest) = none := by
  simp only [shapeOrder, List.pairwise_cons, List.Pairwise.nil, Shape.opening, String.reduceToList,
    List.mem_cons, not_or]
  simp +contextual [afterLiteral]

/-- A text in brackets is read back as the shape of the brackets. -/
theorem anyShape_append {text body : List Char} (rest : List Char) (shape : Shape)
    (trimmed : IsTrimmed text) (written : BodyText text body) :
    anyShape (shape.opening ++ (body ++ (shape.closing ++ rest))) =
      some ((shape, String.ofList text), rest) := by
  have listed : shape ∈ shapeOrder := by
    cases shape <;> decide
  obtain ⟨earlier, later, order⟩ := List.append_of_mem listed
  obtain ⟨c, tail, head, plain⟩ := head_of_bodyText trimmed.nonempty written
  have foreign := pairwise_foreign
  rw [order, List.pairwise_append] at foreign
  refine anyShape_of_order order ?_ (shapeBody_append rest shape trimmed written)
  intro other member
  rw [head, List.cons_append]
  exact foreign.2.2 other member shape (by simp) c plain _

/-- No shape opens where no bracket stands. -/
theorem anyShape_of_stops {text : List Char}
    (stops : Stops ("[(\x7b>".toList.contains ·) text) : anyShape text = none := by
  have refused : ∀ shape ∈ shapeOrder, afterLiteral shape.opening text = none := by
    intro shape _
    cases text with
    | nil => cases shape <;> rfl
    | cons c rest =>
        have outside := stops c rfl
        simp only [String.reduceToList, List.contains_eq_mem, List.mem_cons, List.not_mem_nil,
          or_false, decide_eq_false_iff_not, not_or] at outside
        cases shape <;> simp [Shape.opening, afterLiteral, outside]
  rw [anyShape, firstOf, List.findSome?_eq_none_iff]
  intro choice member
  obtain ⟨shape, listed, rfl⟩ := List.mem_map.mp member
  exact shapeBody_of_foreign (refused shape listed)

/-! ### Nodes -/

/-- Nothing of a text belongs to the node before it. -/
structure NodeEnds (rest : List Char) : Prop extends IdentifierEnds rest where
  shape : anyShape (skipInline rest) = none
  suffix : afterClassSuffix rest = none

theorem afterClassSuffix_of_ne {c : Char} {rest : List Char} (other : c ≠ ':') :
    afterClassSuffix (c :: rest) = none := by
  simp [afterClassSuffix, afterLiteral, other]

/-- A node is read back when it ends where it was written to end. -/
theorem nodeRef_append {ref : NodeRef} {text rest : List Char} (written : RefText ref text)
    (ends : NodeEnds rest) : nodeRef (text ++ rest) = some (ref, rest) := by
  cases written with
  | plain isIdentifier =>
      have read := identifier_append isIdentifier ends.toIdentifierEnds
      simp [nodeRef, read, ends.shape, ends.suffix]
  | @shaped id gap inner body shape isIdentifier blank trimmed bodyWritten =>
      have bracket : ∃ c more, shape.opening = c :: more ∧ isMark c = true ∧ c ≠ '-' ∧
          isInlineBlank c = false := by
        cases shape <;> exact ⟨_, _, rfl, by decide, by decide, by decide⟩
      obtain ⟨c, more, opening, mark, notHyphen, notBlank⟩ := bracket
      have idEnds : IdentifierEnds
          (gap ++ (shape.opening ++ (body ++ (shape.closing ++ rest)))) := by
        rw [opening]
        exact identifierEnds_gap blank (identifierEnds_cons _ mark notHyphen)
      have skipped : skipInline (gap ++ (shape.opening ++ (body ++ (shape.closing ++ rest)))) =
          shape.opening ++ (body ++ (shape.closing ++ rest)) := by
        apply skipInline_gap blank
        rw [opening]
        exact stops_cons notBlank
      have readId := identifier_append isIdentifier idEnds
      have readShape := anyShape_append rest shape trimmed bodyWritten
      simp only [List.append_assoc]
      simp [nodeRef, readId, skipped, readShape, ends.suffix]

/-! ### Groups -/

/-- Nothing of a text belongs to the group of nodes before it. -/
structure GroupEnds (rest : List Char) : Prop extends NodeEnds rest where
  further : furtherRef rest = none

/-- The marks that stand after a node and are no part of it. -/
def followingMarks : List Char := ['&', '=', ';']

theorem nodeEnds_cons {c : Char} (rest : List Char) (follows : c ∈ followingMarks) :
    NodeEnds (c :: rest) := by
  have outside : isMark c = true ∧ c ≠ '-' ∧ c ≠ ':' ∧ isInlineBlank c = false ∧
      "[(\x7b>".toList.contains c = false := by
    simp only [followingMarks, List.mem_cons, List.not_mem_nil, or_false] at follows
    rcases follows with rfl | rfl | rfl <;> decide
  obtain ⟨mark, hyphen, colon, blank, bracket⟩ := outside
  constructor
  · exact identifierEnds_cons rest mark hyphen
  · rw [skipInline_of_stops (stops_cons blank)]
    exact anyShape_of_stops (stops_cons bracket)
  · exact afterClassSuffix_of_ne colon

theorem nodeEnds_gap {gap rest : List Char} (blank : Gap gap) (ends : NodeEnds rest) :
    NodeEnds (gap ++ rest) where
  toIdentifierEnds := identifierEnds_gap blank ends.toIdentifierEnds
  shape := by
    rw [skipInline_append blank]
    exact ends.shape
  suffix := by
    cases gap with
    | nil => exact ends.suffix
    | cons c gap =>
        have here : isInlineBlank c = true := blank c (by simp)
        apply afterClassSuffix_of_ne
        rintro rfl
        simp [isInlineBlank] at here

theorem furtherRef_gap {gap rest : List Char} (blank : Gap gap) :
    furtherRef (gap ++ rest) = furtherRef rest := by
  rw [furtherRef, furtherRef, skipInline_append blank]

theorem groupEnds_gap {gap rest : List Char} (blank : Gap gap) (ends : GroupEnds rest) :
    GroupEnds (gap ++ rest) where
  toNodeEnds := nodeEnds_gap blank ends.toNodeEnds
  further := by
    rw [furtherRef_gap blank]
    exact ends.further

/-- The first character of a node belongs to a word. -/
theorem head_of_refText {ref : NodeRef} {text : List Char} (written : RefText ref text) :
    ∃ c rest, text = c :: rest ∧ isAsciiWord c = true := by
  cases written with
  | plain isIdentifier => exact head_of_isIdentifier isIdentifier
  | shaped shape isIdentifier =>
      obtain ⟨c, rest, rfl, word⟩ := head_of_isIdentifier isIdentifier
      exact ⟨c, _, rfl, word⟩

/-- The gap after an ampersand ends where the next node starts. -/
theorem skipInline_refText {gap text rest : List Char} {ref : NodeRef} (blank : Gap gap)
    (written : RefText ref text) : skipInline (gap ++ (text ++ rest)) = text ++ rest := by
  obtain ⟨c, tail, rfl, word⟩ := head_of_refText written
  exact skipInline_gap blank (stops_cons (isInlineBlank_of_isAsciiWord word))

/-- Behind an ampersand the next node of a group is read. -/
theorem furtherRef_append {ref : NodeRef} {before after text rest : List Char}
    (beforeBlank : Gap before) (afterBlank : Gap after) (written : RefText ref text)
    (ends : NodeEnds rest) :
    furtherRef (before ++ '&' :: (after ++ (text ++ rest))) = some (ref, rest) := by
  have ampersand : skipInline ('&' :: (after ++ (text ++ rest))) =
      '&' :: (after ++ (text ++ rest)) :=
    skipInline_of_stops (stops_cons (by decide))
  rw [furtherRef_gap beforeBlank, furtherRef, ampersand]
  simp [afterLiteral, skipInline_refText afterBlank written, nodeRef_append written ends]

/-- A group is its first node and the nodes after ampersands, which are read one by one. -/
theorem group_parts {refs : List NodeRef} {text rest : List Char} (written : GroupText refs text)
    (ends : GroupEnds rest) :
    ∃ ref others part more, refs = ref :: others ∧ text = part ++ more ∧ RefText ref part ∧
      NodeEnds (more ++ rest) ∧ many furtherRef (more ++ rest) = (others, rest) := by
  induction written with
  | @one ref text written =>
      exact ⟨ref, [], text, [], rfl, (List.append_nil text).symm, written, ends.toNodeEnds,
        many_of_none ends.further⟩
  | @more ref refs text before after tail written beforeBlank afterBlank _ ih =>
      obtain ⟨next, others, part, more, rfl, rfl, nextWritten, nextEnds, read⟩ := ih
      refine ⟨ref, next :: others, text, before ++ '&' :: (after ++ (part ++ more)), rfl, ?_,
        written, ?_, ?_⟩
      · rw [List.append_assoc]
      · rw [List.append_assoc]
        exact nodeEnds_gap beforeBlank (nodeEnds_cons _ (by decide))
      · have head := furtherRef_append beforeBlank afterBlank nextWritten nextEnds
        have shorter : (more ++ rest).length <
            (before ++ '&' :: (after ++ (part ++ (more ++ rest)))).length := by
          simp only [List.length_append, List.length_cons]
          omega
        simp only [List.append_assoc, List.cons_append]
        rw [many_of_some head shorter, read]

/-- A group of nodes is read back when it ends where it was written to end. -/
theorem nodeGroup_append {refs : List NodeRef} {text rest : List Char}
    (written : GroupText refs text) (ends : GroupEnds rest) :
    nodeGroup (text ++ rest) = some (refs, rest) := by
  obtain ⟨ref, others, part, more, rfl, rfl, first, firstEnds, read⟩ := group_parts written ends
  have head := nodeRef_append first firstEnds
  rw [List.append_assoc, nodeGroup, head]
  simp [read]

end Flowchart.Statement
