import Flowchart.Proofs.Statement.Links
import Flowchart.Draft.Load

/-!
Chains of links are read back from their texts.

What stands after a group of nodes is the next link or the end of the line, and both end the group.
A line whose first word is no keyword is therefore read as exactly the chain that it was written
for.

Main statements: `ofLine?_edgesText`, `ofText_edgesText`.
-/

namespace Flowchart.Statement

open Flowchart.Text Flowchart.Notation
open Flowchart.Source (afterKeyword)

/-! ### What follows a group -/

/-- Every link starts with the two characters of its stroke. -/
theorem opening_of_linkText {link : Link} {text : List Char} (written : LinkText link text) :
    ∃ more, text = linkOpening link.stroke ++ more := by
  have plain : ∀ stroke directed,
      ∃ more, plainLink stroke directed = linkOpening stroke ++ more := by
    intro stroke directed
    cases stroke <;> cases directed <;> exact ⟨_, rfl⟩
  cases written with
  | plain stroke directed => exact plain stroke directed
  | piped stroke directed =>
      obtain ⟨more, opening⟩ := plain stroke directed
      exact ⟨_, by rw [opening, List.append_assoc, List.append_assoc]⟩
  | inner stroke directed => exact ⟨_, List.append_assoc _ _ _⟩

theorem furtherRef_of_ne {c : Char} {rest : List Char} (blank : isInlineBlank c = false)
    (other : c ≠ '&') : furtherRef (c :: rest) = none := by
  rw [furtherRef, skipInline_of_stops (stops_cons blank)]
  simp [afterLiteral, other]

/-- Two hyphens, or a hyphen and a point, are no segment of an identifier. -/
theorem hyphenSegment_of_isMark {c : Char} (rest : List Char) (mark : isMark c = true) :
    hyphenSegment ('-' :: c :: rest) = none := by
  rw [hyphenSegment, run1_of_stops (stops_cons (isWordChar_of_isMark mark))]
  rfl

/-- A link ends the group before it. -/
theorem groupEnds_linkOpening (stroke : Stroke) (rest : List Char) :
    GroupEnds (linkOpening stroke ++ rest) := by
  have hyphen : ∀ {c : Char}, isMark c = true → GroupEnds ('-' :: c :: rest) := by
    intro c mark
    refine ⟨⟨⟨stops_cons (by decide), hyphenSegment_of_isMark rest mark⟩, ?_,
      afterClassSuffix_of_ne (by decide)⟩, furtherRef_of_ne (by decide) (by decide)⟩
    rw [skipInline_of_stops (stops_cons (by decide))]
    exact anyShape_of_stops (stops_cons (by decide))
  cases stroke with
  | normal => exact hyphen (c := '-') (by decide)
  | dotted => exact hyphen (c := '.') (by decide)
  | thick =>
      exact ⟨nodeEnds_cons _ (by decide), furtherRef_of_ne (by decide) (by decide)⟩

theorem groupEnds_nil : GroupEnds [] :=
  have unshaped : anyShape (skipInline []) = none := by
    rw [skipInline_of_stops (stops_nil _)]
    exact anyShape_of_stops (stops_nil _)
  ⟨⟨⟨stops_nil _, rfl⟩, unshaped, rfl⟩, rfl⟩

/-- The end of a line ends the group before it. -/
theorem groupEnds_lineEnd {trail : List Char} (lineEnd : LineEnd trail) : GroupEnds trail := by
  cases lineEnd with
  | blank gap =>
      have ends := groupEnds_gap gap groupEnds_nil
      rwa [List.append_nil] at ends
  | semicolon before after =>
      exact groupEnds_gap before
        ⟨nodeEnds_cons _ (by decide), furtherRef_of_ne (by decide) (by decide)⟩

theorem groupEnds_hops {hops : List Hop} {chain trail : List Char}
    (written : HopsText hops chain) (lineEnd : LineEnd trail) : GroupEnds (chain ++ trail) := by
  cases written with
  | nil => exact groupEnds_lineEnd lineEnd
  | cons before linkWritten =>
      obtain ⟨more, rfl⟩ := opening_of_linkText linkWritten
      simp only [List.append_assoc]
      exact groupEnds_gap before (groupEnds_linkOpening _ _)

/-! ### Links one after the other -/

theorem head_of_groupText {refs : List NodeRef} {text : List Char}
    (written : GroupText refs text) : ∃ c rest, text = c :: rest ∧ isAsciiWord c = true := by
  cases written with
  | one refWritten => exact head_of_refText refWritten
  | more refWritten =>
      obtain ⟨c, rest, rfl, word⟩ := head_of_refText refWritten
      exact ⟨c, _, rfl, word⟩

/-- A group of nodes ends the link before it. -/
theorem linkEnds_group {gap group : List Char} (rest : List Char) {refs : List NodeRef}
    (blank : Gap gap) (written : GroupText refs group) : LinkEnds (gap ++ (group ++ rest)) := by
  obtain ⟨c, tail, rfl, word⟩ := head_of_groupText written
  have noToken : c ∉ "-=>".toList := notMem_of_isMark word (by decide)
  have noPipe : c ≠ '|' := ne_of_isMark word (by decide)
  constructor
  · cases gap with
    | nil => exact stops_cons (by simpa using noToken)
    | cons d gap =>
        have here : isInlineBlank d = true := blank d (by simp)
        simp only [isInlineBlank, Bool.or_eq_true, beq_iff_eq] at here
        rcases here with rfl | rfl <;> exact stops_cons (by decide)
  · refine pipeLabel_of_stops blank (stops_cons ?_)
    simp [isInlineBlank_of_isAsciiWord word, noPipe]

/-- A link and the group after it are read when the link is. -/
theorem hop_of_link {link : Link} {targets : List NodeRef}
    {before linkText after group rest : List Char} (beforeBlank : Gap before)
    (visible : Stops isInlineBlank linkText) (nonempty : linkText ≠ [])
    (readLink : Statement.link (linkText ++ (after ++ (group ++ rest))) =
      some (link, after ++ (group ++ rest)))
    (afterBlank : Gap after) (groupWritten : GroupText targets group) (ends : GroupEnds rest) :
    hop (before ++ (linkText ++ (after ++ (group ++ rest)))) = some (⟨link, targets⟩, rest) := by
  have linkHead : skipInline (before ++ (linkText ++ (after ++ (group ++ rest)))) =
      linkText ++ (after ++ (group ++ rest)) :=
    skipInline_gap beforeBlank (stops_append nonempty visible _)
  have groupHead : skipInline (after ++ (group ++ rest)) = group ++ rest := by
    obtain ⟨c, tail, rfl, word⟩ := head_of_groupText groupWritten
    exact skipInline_gap afterBlank (stops_cons (isInlineBlank_of_isAsciiWord word))
  have readGroup := nodeGroup_append groupWritten ends
  rw [hop, linkHead]
  simp [readLink, groupHead, readGroup]

/-- A link and the group after it are read back when the group ends where it was written to end. -/
theorem hop_append {link : Link} {targets : List NodeRef}
    {before linkText after group rest : List Char} (beforeBlank : Gap before)
    (linkWritten : LinkText link linkText) (afterBlank : Gap after)
    (groupWritten : GroupText targets group) (ends : GroupEnds rest) :
    hop (before ++ (linkText ++ (after ++ (group ++ rest)))) = some (⟨link, targets⟩, rest) := by
  have readLink := link_append linkWritten (linkEnds_group rest afterBlank groupWritten)
  obtain ⟨more, rfl⟩ := opening_of_linkText linkWritten
  have visible : Stops isInlineBlank (linkOpening link.stroke ++ more) := by
    cases link.stroke <;> exact stops_cons (by decide)
  have nonempty : linkOpening link.stroke ++ more ≠ [] := by
    cases link.stroke <;> exact List.cons_ne_nil _ _
  exact hop_of_link beforeBlank visible nonempty readLink afterBlank groupWritten ends

/-- After its blanks, the end of a line is over or goes on with a semicolon and blanks. -/
theorem skipInline_lineEnd {trail : List Char} (lineEnd : LineEnd trail) :
    skipInline trail = [] ∨ ∃ after, Gap after ∧ skipInline trail = ';' :: after := by
  cases lineEnd with
  | blank gap =>
      have skipped := skipInline_gap gap (stops_nil isInlineBlank)
      rw [List.append_nil] at skipped
      exact Or.inl skipped
  | semicolon beforeBlank afterBlank =>
      exact Or.inr ⟨_, afterBlank, skipInline_gap beforeBlank (stops_cons (by decide))⟩

/-- No link starts at the end of a line. -/
theorem hop_lineEnd {trail : List Char} (lineEnd : LineEnd trail) : hop trail = none := by
  rcases skipInline_lineEnd lineEnd with skipped | ⟨after, _, skipped⟩ <;>
  · rw [hop, skipped]
    rfl

/-- The links of a chain are read back one by one, up to the end of the line. -/
theorem many_hop {hops : List Hop} {chain trail : List Char} (written : HopsText hops chain)
    (lineEnd : LineEnd trail) : many hop (chain ++ trail) = (hops, trail) := by
  induction written with
  | nil => exact many_of_none (hop_lineEnd lineEnd)
  | @cons link _ _ _ _ _ _ _ beforeBlank linkWritten afterBlank groupWritten hopsWritten ih =>
      have ends := groupEnds_hops hopsWritten lineEnd
      have head := hop_append beforeBlank linkWritten afterBlank groupWritten ends
      have opened : 0 < (linkOpening link.stroke).length := by
        cases link.stroke <;> decide
      obtain ⟨more, rfl⟩ := opening_of_linkText linkWritten
      simp only [List.append_assoc] at head ⊢
      rw [many_of_some head (by simp only [List.length_append]; omega), ih]

/-! ### Other kinds of statements -/

/-- A text that is empty or starts with a mark. -/
def Marked (text : List Char) : Prop :=
  ∀ c ∈ text.head?, isMark c = true

theorem marked_cons {c : Char} (mark : isMark c = true) (rest : List Char) :
    Marked (c :: rest) := by
  intro d first
  obtain rfl : c = d := by simpa using first
  exact mark

theorem marked_gap {gap rest : List Char} (blank : Gap gap) (marked : Marked rest) :
    Marked (gap ++ rest) := by
  cases gap with
  | nil => exact marked
  | cons c gap => exact marked_cons (isMark_of_isInlineBlank (blank c (by simp))) _

/-- A text starts with a whole word, after which a mark stands or nothing at all. -/
def Leads (word text : List Char) : Prop :=
  IsWord word ∧ ∃ rest, text = word ++ rest ∧ Marked rest

/-- A keyword is not found where another word leads. -/
theorem afterKeyword_of_leads {belongs : Char → Bool} {fold : Char → Char}
    {keyword word text : List Char} (leads : Leads word text)
    (letters : ∀ c ∈ keyword, isAsciiWord c = true)
    (inside : ∀ c, isAsciiWord c = true → belongs c = true)
    (outside : ∀ c, isMark c = true → belongs c = false)
    (foldMark : ∀ c, isMark c = true → isAsciiWord (fold c) = false)
    (differs : word.map fold ≠ keyword) : afterKeyword belongs fold keyword text = none := by
  obtain ⟨isWord, rest, rfl, marked⟩ := leads
  refine afterKeyword_of_ne (fun c member => inside c (isWord.ascii c member)) ?_ ?_ differs
  · intro c first
    exact outside c (marked c first)
  · intro c first member
    have outside := foldMark c (marked c first)
    rw [letters _ member] at outside
    cases outside

theorem leads_identifier {id rest : List Char} (isIdentifier : IsIdentifier id)
    (marked : Marked rest) : Leads (id.takeWhile isAsciiWord) (id ++ rest) := by
  obtain ⟨word, more, rfl, isWord, hyphen, _⟩ := identifier_parts isIdentifier
  have stops : Stops isAsciiWord more := by
    intro c first
    rw [hyphen c first]
    decide
  rw [takeWhile_append_stops isWord.ascii stops]
  refine ⟨isWord, more ++ rest, List.append_assoc _ _ _, ?_⟩
  cases more with
  | nil => exact marked
  | cons c more =>
      refine marked_cons ?_ _
      rw [hyphen c rfl]
      decide

theorem leads_refText {ref : NodeRef} {text rest : List Char} (written : RefText ref text)
    (marked : Marked rest) : Leads (ref.id.toList.takeWhile isAsciiWord) (text ++ rest) := by
  cases written with
  | plain isIdentifier =>
      rw [String.toList_ofList]
      exact leads_identifier isIdentifier marked
  | @shaped id gap inner body shape isIdentifier blank =>
      have opening : Marked (shape.opening ++ (body ++ (shape.closing ++ rest))) := by
        cases shape <;> exact marked_cons (by decide) _
      rw [String.toList_ofList]
      simp only [List.append_assoc]
      exact leads_identifier isIdentifier (marked_gap blank opening)

/-- The first word of a group is that of the id of its first node. -/
theorem leads_groupText {ref : NodeRef} {refs : List NodeRef} {text rest : List Char}
    (written : GroupText (ref :: refs) text) (marked : Marked rest) :
    Leads (ref.id.toList.takeWhile isAsciiWord) (text ++ rest) := by
  cases written with
  | one refWritten => exact leads_refText refWritten marked
  | @more _ _ part before after tail refWritten beforeBlank =>
      have ampersand : Marked (before ++ '&' :: (after ++ tail) ++ rest) := by
        rw [List.append_assoc]
        exact marked_gap beforeBlank (marked_cons (by decide) _)
      have leads := leads_refText refWritten ampersand
      simpa only [List.append_assoc] using leads

/-- A chain with at least one link starts with a mark. -/
theorem marked_hops {hops : List Hop} {chain : List Char} (written : HopsText hops chain)
    (nonempty : hops ≠ []) (rest : List Char) : Marked (chain ++ rest) := by
  cases written with
  | nil => exact absurd rfl nonempty
  | cons before linkWritten =>
      obtain ⟨more, rfl⟩ := opening_of_linkText linkWritten
      simp only [List.append_assoc]
      apply marked_gap before
      cases ‹Link›.stroke <;> exact marked_cons (by decide) _

theorem map_foldLetter {word : List Char} (isWord : IsWord word) :
    word.map foldLetter = word.map Char.toLower := by
  apply List.map_congr_left
  intro c member
  rw [foldLetter, if_pos (toNat_lt_of_isAsciiWord (isWord.ascii c member))]

/-- A keyword in any case is not found where another word leads. -/
theorem afterCaselessWord_of_leads {word text : List Char} (leads : Leads word text)
    {keyword : String} (listed : keyword ∈ ["flowchart", "graph", "subgraph"])
    (other : word.map foldLetter ≠ keyword.toList) : afterCaselessWord keyword text = none := by
  have letters : ["flowchart", "graph", "subgraph"].all
      (fun keyword => keyword.toList.all isAsciiWord) = true := by decide
  exact afterKeyword_of_leads leads (List.all_eq_true.mp (List.all_eq_true.mp letters _ listed))
    (fun _ => isWordChar_of_isAsciiWord) (fun _ => isWordChar_of_isMark)
    (fun _ => isAsciiWord_foldLetter_of_isMark) other

theorem headerStatement_of_none {text : List Char}
    (flowchart : afterCaselessWord "flowchart" text = none)
    (graph : afterCaselessWord "graph" text = none) : headerStatement text = none := by
  rw [headerStatement, flowchart, graph]
  rfl

theorem blockStartStatement_of_none {text : List Char}
    (unopened : afterCaselessWord "subgraph" text = none) : blockStartStatement text = none := by
  rw [blockStartStatement, unopened]
  rfl

/-- A word that is free of keywords leads into none of the statements that keywords start. -/
theorem keywordStatements_of_leads {word text : List Char} (leads : Leads word text)
    (free : KeywordFree word) :
    headerStatement text = none ∧ blockStartStatement text = none ∧
      ignoredStatement text = none := by
  have whole : word.takeWhile isAsciiWord = word := List.takeWhile_eq_self_iff.mpr leads.1.ascii
  rw [KeywordFree, whole, ← map_foldLetter leads.1] at free
  have caseless : ∀ keyword ∈ ["flowchart", "graph", "subgraph"],
      afterCaselessWord keyword text = none := by
    intro keyword member
    apply afterCaselessWord_of_leads leads member
    intro same
    exact free.1 (List.mem_map.mpr ⟨keyword, member, same.symm⟩)
  have exact : ∀ keyword ∈ ignoredWords, afterExactWord keyword text = none := by
    intro keyword member
    refine afterKeyword_of_leads leads ?_ (fun _ => isWordChar_of_isAsciiWord)
      (fun _ => isWordChar_of_isMark) (fun _ => isAsciiWord_of_isMark) ?_
    · have letters : ignoredWords.all (fun keyword => keyword.toList.all isAsciiWord) = true := by
        decide
      exact List.all_eq_true.mp (List.all_eq_true.mp letters keyword member)
    · intro same
      rw [List.map_id] at same
      exact free.2 (List.mem_map.mpr ⟨keyword, member, same.symm⟩)
  refine ⟨headerStatement_of_none (caseless "flowchart" (by simp)) (caseless "graph" (by simp)),
    blockStartStatement_of_none (caseless "subgraph" (by simp)), ?_⟩
  have none : (ignoredWords.findSome? fun keyword => afterExactWord keyword text) = none :=
    List.findSome?_eq_none_iff.mpr exact
  simp [ignoredStatement, none]

/-- At the end of a line only blanks and semicolons are left. -/
theorem mem_of_atLineEnd {text : List Char} (ended : atLineEnd text = true) :
    ∀ c ∈ text, isInlineBlank c = true ∨ c = ';' := by
  have split : text.takeWhile isInlineBlank ++ skipInline text = text :=
    List.takeWhile_append_dropWhile
  have front : ∀ c ∈ text.takeWhile isInlineBlank, isInlineBlank c = true :=
    fun c member => List.mem_takeWhile_imp member
  have back : ∀ c ∈ skipInline text, isInlineBlank c = true ∨ c = ';' := by
    rw [atLineEnd] at ended
    cases left : skipInline text with
    | nil => simp
    | cons c rest =>
        rw [left] at ended
        by_cases semicolon : c = ';'
        · subst semicolon
          have blank : ∀ d ∈ rest, isInlineBlank d = true := by
            rw [← List.dropWhile_eq_nil_iff]
            exact List.isEmpty_iff.mp ended
          intro d member
          rcases List.mem_cons.mp member with rfl | member
          · exact Or.inr rfl
          · exact Or.inl (blank d member)
        · simp [semicolon] at ended
  intro c member
  rw [← split] at member
  rcases List.mem_append.mp member with member | member
  · exact Or.inl (front c member)
  · exact back c member

/-- A line with a hyphen or an equals sign in it does not end a block. -/
theorem blockEndStatement_of_mem {c : Char} {text : List Char} (member : c ∈ text)
    (connects : c = '-' ∨ c = '=') : blockEndStatement text = none := by
  cases read : afterCaseless foldLetter "end".toList text with
  | none =>
      rw [blockEndStatement, read]
      rfl
  | some rest =>
      obtain ⟨word, rfl, folded⟩ := afterCaseless_eq_some.mp read
      have foreign : c ∉ word := by
        intro inside
        have letter : foldLetter c ∈ "end".toList := by
          rw [← folded]
          exact List.mem_map_of_mem inside
        rcases connects with rfl | rfl <;> revert letter <;> decide
      have left : c ∈ rest := (List.mem_append.mp member).resolve_left foreign
      have unended : atLineEnd rest = false := by
        cases ended : atLineEnd rest with
        | false => rfl
        | true =>
            rcases mem_of_atLineEnd ended c left with blank | semicolon
            · rcases connects with rfl | rfl <;> simp [isInlineBlank] at blank
            · rcases connects with rfl | rfl <;> cases semicolon
      rw [blockEndStatement, read]
      simp [unended]

/-- A block is opened by the first kind of head that fits after its keyword. -/
theorem blockStartStatement_of_head {text rest left : List Char} {id title : Option String}
    (opened : afterCaselessWord "subgraph" text = some rest)
    (head : firstOf [bracketedHead, quotedHead, namedHead, textHead] (skipInline rest) =
      some ((id, title), left)) :
    blockStartStatement text = some (.blockStart id title, left) := by
  rw [blockStartStatement, opened]
  simp only [Option.bind_eq_bind, Option.bind_some, head]

/-- A line opens a block if it neither declares the diagram nor ends a block. -/
theorem ofLine?_of_blockStart {text left : List Char} {statement : Statement}
    (start : skipInline text = text) (header : headerStatement text = none)
    (blockEnd : blockEndStatement text = none)
    (blockStart : blockStartStatement text = some (statement, left))
    (ended : atLineEnd left = true) : ofLine? text = some (some statement) := by
  rw [ofLine?, start, anyStatement, firstOf_of_none header, firstOf_of_none blockEnd,
    firstOf_of_some blockStart]
  exact if_pos ended

/-! ### Chains -/

theorem atLineEnd_lineEnd {trail : List Char} (lineEnd : LineEnd trail) :
    atLineEnd trail = true := by
  rcases skipInline_lineEnd lineEnd with skipped | ⟨after, gap, skipped⟩
  · rw [atLineEnd, skipped]
    rfl
  · have rest := skipInline_gap gap (stops_nil isInlineBlank)
    rw [List.append_nil] at rest
    rw [atLineEnd, skipped]
    simp [rest]

/-- A hyphen or an equals sign stands in every chain with at least one link. -/
theorem connects_hops {hops : List Hop} {chain : List Char} (written : HopsText hops chain)
    (nonempty : hops ≠ []) : ∃ c ∈ chain, c = '-' ∨ c = '=' := by
  cases written with
  | nil => exact absurd rfl nonempty
  | @cons link _ _ _ _ _ _ _ _ linkWritten =>
      obtain ⟨more, rfl⟩ := opening_of_linkText linkWritten
      cases stroke : link.stroke with
      | normal => exact ⟨'-', by simp [linkOpening], Or.inl rfl⟩
      | dotted => exact ⟨'-', by simp [linkOpening], Or.inl rfl⟩
      | thick => exact ⟨'=', by simp [linkOpening], Or.inr rfl⟩

/-- A line is read as a chain of links when its first group ends before the links and no keyword
starts it. -/
theorem ofLine?_of_hops {ref : NodeRef} {refs : List NodeRef} {hops : List Hop}
    {lead group chain trail : List Char} (leadBlank : Gap lead)
    (groupWritten : GroupText (ref :: refs) group) (ends : GroupEnds (chain ++ trail))
    (readHops : many hop (chain ++ trail) = (hops, trail)) (nonempty : hops ≠ [])
    (marked : Marked (chain ++ trail)) (connects : ∃ c ∈ chain, c = '-' ∨ c = '=')
    (lineEnd : LineEnd trail) (free : KeywordFree ref.id.toList) :
    ofLine? (lead ++ (group ++ (chain ++ trail))) = some (some (.edges (ref :: refs) hops)) := by
  have start : skipInline (lead ++ (group ++ (chain ++ trail))) = group ++ (chain ++ trail) := by
    obtain ⟨c, tail, rfl, word⟩ := head_of_groupText groupWritten
    exact skipInline_gap leadBlank (stops_cons (isInlineBlank_of_isAsciiWord word))
  have readFirst := nodeGroup_append groupWritten ends
  have leads := leads_groupText groupWritten marked
  have wordFree : KeywordFree (ref.id.toList.takeWhile isAsciiWord) := by
    have whole := List.takeWhile_eq_self_iff.mpr leads.1.ascii
    rw [KeywordFree, whole]
    exact free
  obtain ⟨header, blockStart, ignored⟩ := keywordStatements_of_leads leads wordFree
  obtain ⟨c, member, connects⟩ := connects
  have blockEnd : blockEndStatement (group ++ (chain ++ trail)) = none :=
    blockEndStatement_of_mem (by simp [member]) connects
  have edges : edgesStatement (group ++ (chain ++ trail)) =
      some (.edges (ref :: refs) hops, trail) := by
    cases hops with
    | nil => exact absurd rfl nonempty
    | cons hop hops => simp [edgesStatement, readFirst, readHops]
  have read : anyStatement (group ++ (chain ++ trail)) =
      some (.edges (ref :: refs) hops, trail) := by
    rw [anyStatement, firstOf_of_none header, firstOf_of_none blockEnd,
      firstOf_of_none blockStart, firstOf_of_none ignored, firstOf_of_some edges]
  rw [ofLine?, start, read]
  simp [atLineEnd_lineEnd lineEnd]

/-- A line is read back as the chain of links that it was written for. -/
theorem ofLine?_edgesText {first : List NodeRef} {hops : List Hop} {line : List Char}
    (written : EdgesText first hops line)
    (free : ∀ ref ∈ first.head?, KeywordFree ref.id.toList) :
    ofLine? line = some (some (.edges first hops)) := by
  cases written with
  | @line lead group chain trail leadBlank groupWritten nonempty hopsWritten lineEnd =>
      obtain ⟨ref, others, rfl⟩ : ∃ ref others, first = ref :: others := by
        cases groupWritten <;> exact ⟨_, _, rfl⟩
      exact ofLine?_of_hops leadBlank groupWritten (groupEnds_hops hopsWritten lineEnd)
        (many_hop hopsWritten lineEnd) nonempty (marked_hops hopsWritten nonempty trail)
        (connects_hops hopsWritten nonempty) lineEnd (free ref rfl)

/-- Reading a line undoes writing it: every chain of links whose first word is no keyword is found
again in every line that it can be written as. -/
theorem ofText_edgesText {first : List NodeRef} {hops : List Hop} {line : List Char}
    (written : EdgesText first hops line)
    (free : ∀ ref ∈ first.head?, KeywordFree ref.id.toList) :
    ofText (String.ofList line) = .ok (some (.edges first hops)) := by
  rw [ofText, String.toList_ofList, ofLine?_edgesText written free]

/-- The first group of `packedLine`. -/
def packedFirst : List NodeRef :=
  [⟨"a-b", some (.circle, "x - y")⟩, ⟨"C", some (.asymmetric, "t")⟩]

/-- The links of `packedLine`. -/
def packedHops : List Hop :=
  [⟨⟨.dotted, true, some "p.q"⟩, [⟨"D", none⟩]⟩,
    ⟨⟨.normal, false, some "l"⟩, [⟨"graph", some (.hexagon, "h")⟩]⟩]

/-- A line with few blanks: a hyphened id, quotes, a text inside a link, a label and a semicolon. -/
def packedLine : String :=
  "a-b(( \"x - y\"))& C>t]-. p.q.->D---|l |graph\x7b\x7bh\x7d\x7d ;"

theorem packedLine_written : EdgesText packedFirst packedHops packedLine.toList := by
  have hyphened : IsIdentifier "a-b".toList :=
    @IsIdentifier.hyphened ['a'] ['b'] (by decide) (by decide)
  have quoted : BodyText "x - y".toList " \"x - y\"".toList :=
    @BodyText.loose _ [' '] [] [] [] (by decide) (by decide) gap_nil gap_nil gap_nil (by simp)
  have first : RefText ⟨"a-b", some (.circle, "x - y")⟩ "a-b(( \"x - y\"))".toList :=
    @RefText.shaped _ [] _ _ .circle hyphened gap_nil (by decide) quoted
  have bare : ∀ c, c ∉ bracketMarks → BodyText [c] [c] := by
    intro c free
    exact @BodyText.bare [c] [] [] gap_nil gap_nil (by simpa using free)
  have second : RefText ⟨"C", some (.asymmetric, "t")⟩ "C>t]".toList :=
    @RefText.shaped ['C'] [] ['t'] ['t'] .asymmetric (.word (by decide)) gap_nil
      (by decide) (bare 't' (by decide))
  have third : RefText ⟨"D", none⟩ "D".toList :=
    @RefText.plain ['D'] (.word (by decide))
  have fourth : RefText ⟨"graph", some (.hexagon, "h")⟩ "graph\x7b\x7bh\x7d\x7d".toList :=
    @RefText.shaped "graph".toList [] ['h'] ['h'] .hexagon
      (.word (by decide)) gap_nil (by decide)
      (bare 'h' (by decide))
  have inner : LinkText ⟨.dotted, true, some "p.q"⟩ "-. p.q.->".toList :=
    @LinkText.inner .dotted true [' '] "p.q".toList [] (by decide) gap_nil
      ⟨by decide, by simp, by simp⟩ (by simp)
  have piped : LinkText ⟨.normal, false, some "l"⟩ "---|l |".toList :=
    @LinkText.piped .normal false [] [] ['l'] [' '] gap_nil gap_nil (by decide) (by decide)
      (by simp)
  have group : GroupText packedFirst "a-b(( \"x - y\"))& C>t]".toList :=
    @GroupText.more _ _ _ [] [' '] _ first gap_nil (by decide) (.one second)
  have last : HopsText [packedHops[1]] "---|l |graph\x7b\x7bh\x7d\x7d".toList :=
    @HopsText.cons _ _ _ [] _ [] _ _ gap_nil piped gap_nil (.one fourth) .nil
  have chain : HopsText packedHops "-. p.q.->D---|l |graph\x7b\x7bh\x7d\x7d".toList :=
    @HopsText.cons _ _ _ [] _ [] _ _ gap_nil inner gap_nil (.one third) last
  have lineEnd : LineEnd " ;".toList :=
    @LineEnd.semicolon [' '] [] (by decide) gap_nil
  exact @EdgesText.line _ _ [] _ _ _ gap_nil group (by decide) chain lineEnd

theorem ofText_edgesText_packed :
    EdgesText packedFirst packedHops packedLine.toList ∧
      (∀ ref ∈ packedFirst.head?, KeywordFree ref.id.toList) ∧
      ofText packedLine = .ok (some (.edges packedFirst packedHops)) := by
  have free : ∀ ref ∈ packedFirst.head?, KeywordFree ref.id.toList := by decide
  have read := ofText_edgesText packedLine_written free
  rw [String.ofList_toList] at read
  exact ⟨packedLine_written, free, read⟩

/-- Where writing and reading part. The name of a node may be a keyword. A pipe, or a point or an
angle in front, cannot stand in the text inside a link, and a point before the hyphens that close it
belongs to them. Blanks stand around quotes only under the conditions of `BodyText`. -/
theorem ofText_unreadable :
    (EdgesText [⟨"graph", none⟩] [⟨⟨.normal, true, none⟩, [⟨"B", none⟩]⟩] "graph --> B".toList ∧
      ofText "graph --> B" = .error (.unrecognizedStatement "graph --> B")) ∧
    (∀ line ∈ ["A -- a|b --> B", "A -- .x --> B", "A -- >x --> B", "A[\"x\" ] --> B",
        "A[ \"x]y\"] --> B"], ofText line = .error (.unrecognizedStatement line)) ∧
    ofText "A -- x.--> B" =
      .ok (some (.edges [⟨"A", none⟩] [⟨⟨.dotted, true, some "x"⟩, [⟨"B", none⟩]⟩])) := by
  refine ⟨⟨?_, by decide +kernel⟩, by decide +kernel, by decide +kernel⟩
  have single : ∀ word, IsWord word → GroupText [⟨String.ofList word, none⟩] word :=
    fun _ isWord => .one (.plain (.word isWord))
  have chain : HopsText [⟨⟨.normal, true, none⟩, [⟨"B", none⟩]⟩] " --> B".toList :=
    @HopsText.cons _ _ _ [' '] _ [' '] _ _ (by decide) (.plain .normal true) (by decide)
      (single ['B'] (by decide)) .nil
  exact @EdgesText.line _ _ [] "graph".toList _ [] gap_nil
    (single "graph".toList (by decide)) (by decide) chain (.blank gap_nil)

end Flowchart.Statement
