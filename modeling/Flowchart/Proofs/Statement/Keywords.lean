import Flowchart.Proofs.Statement.Ignored

/-!
Lines that a keyword starts, read as arrows or as something else.

A keyword is found where a word ends, and a hyphen ends a word. An identifier may go on after a
hyphen, so it is its first word and not the whole of it that decides which statement a line is:
`style-guide --> b` starts with the keyword `style`.

Main definition: `arrowLine`. Main statement: `ofText_arrowLine`.
-/

namespace Flowchart.Notation

open Flowchart.Text

/-- Two nodes without brackets, and a plain arrow from the first to the second. -/
def arrowLine (source target : List Char) : List Char :=
  source ++ (" --> ".toList ++ target)

/-- What holds of the hyphen and of every ASCII word character holds of all characters of an
identifier. -/
theorem IsIdentifier.forall {id : List Char} (isIdentifier : IsIdentifier id)
    {property : Char → Prop} (hyphen : property '-')
    (word : ∀ c, isAsciiWord c = true → property c) : ∀ c ∈ id, property c := by
  induction isIdentifier with
  | word isWord =>
      intro c member
      exact word c (isWord.ascii c member)
  | joined isWord _ ih =>
      intro c member
      rcases List.mem_append.mp member with inside | after
      · exact word c (isWord.ascii c inside)
      · rcases List.mem_cons.mp after with same | inside
        · exact same ▸ hyphen
        · exact ih c inside

theorem forall_arrowLine {source target : List Char} (first : IsIdentifier source)
    (second : IsIdentifier target) (property : Char → Prop)
    (arrow : ∀ c ∈ " -->".toList, property c) (word : ∀ c, isAsciiWord c = true → property c) :
    ∀ c ∈ arrowLine source target, property c := by
  have hyphen := arrow '-' (by decide)
  intro c member
  rcases List.mem_append.mp member with inSource | member
  · exact first.forall hyphen word c inSource
  · rcases List.mem_append.mp member with inArrow | inTarget
    · have listed : " --> ".toList ⊆ " -->".toList := by decide
      exact arrow c (listed inArrow)
    · exact second.forall hyphen word c inTarget

end Flowchart.Notation

namespace Flowchart.Statement

open Flowchart.Text Flowchart.Notation

/-- A plain arrow from one node to another. -/
def arrowStatement (source target : List Char) : Statement :=
  .edges [⟨String.ofList source, none⟩]
    [⟨⟨.normal, true, none⟩, [⟨String.ofList target, none⟩]⟩]

/-- A plain arrow between two identifiers is written as the notation has it. -/
theorem edgesText_arrowLine {source target : List Char} (first : IsIdentifier source)
    (second : IsIdentifier target) :
    EdgesText [⟨String.ofList source, none⟩]
      [⟨⟨.normal, true, none⟩, [⟨String.ofList target, none⟩]⟩] (arrowLine source target) := by
  have space : Gap [' '] := by decide
  have chain := HopsText.cons space (.plain .normal true) space (.one (.plain second)) .nil
  have written := EdgesText.line gap_nil (.one (.plain first)) (by simp) chain (.blank gap_nil)
  simpa [arrowLine, plainLink] using written

/-! ### The front of a line -/

theorem trim_skipInline (text : List Char) : trim (skipInline text) = trim text := by
  have split : text.takeWhile isInlineBlank ++ skipInline text = text :=
    List.takeWhile_append_dropWhile
  have front : trimLeft (skipInline text) = trimLeft text := by
    rw [← split, trimLeft, trimLeft, List.dropWhile_append_of_pos, split]
    intro c member
    exact isBlank_of_isInlineBlank (List.mem_takeWhile_imp member)
  rw [trim, trim, front]

section Arrow

variable {source target : List Char}

/-- What stands on an arrow's line after the first word: the rest of the first identifier, and the
arrow. -/
def afterFirstWord (source target : List Char) : List Char :=
  arrowLine (source.dropWhile isAsciiWord) target

/-- After the first word, a hyphen follows, possibly after a blank. -/
theorem afterFirstWord_head (first : IsIdentifier source) (target : List Char) :
    Stops isWordChar (afterFirstWord source target) ∧
      ∃ rest, skipInline (afterFirstWord source target) = '-' :: rest := by
  obtain ⟨word, more, rfl, isWord, hyphen, _⟩ := identifier_parts first
  have stops : Stops isAsciiWord more := by
    intro c here
    rw [hyphen c here]
    decide
  rw [afterFirstWord, dropWhile_append_stops isWord.ascii stops, arrowLine]
  cases more with
  | nil =>
      refine ⟨stops_cons (by decide), '-' :: '>' :: ' ' :: target, ?_⟩
      exact @skipInline_gap [' '] _ (by decide) (stops_cons (by decide))
  | cons c more =>
      obtain rfl : c = '-' := hyphen c rfl
      exact ⟨stops_cons (by decide), _, skipInline_of_stops (stops_cons (by decide))⟩

theorem hyphen_mem_afterFirstWord : '-' ∈ afterFirstWord source target := by
  simp [afterFirstWord, arrowLine]

/-- An arrow is its first word with everything behind it. -/
theorem arrowLine_split :
    arrowLine source target = source.takeWhile isAsciiWord ++ afterFirstWord source target := by
  rw [afterFirstWord, arrowLine, arrowLine, ← List.append_assoc (List.takeWhile _ _),
    List.takeWhile_append_dropWhile]

theorem skipInline_arrowLine (first : IsIdentifier source) :
    skipInline (arrowLine source target) = arrowLine source target := by
  obtain ⟨c, rest, rfl, letter⟩ := head_of_isIdentifier first
  exact skipInline_of_stops (stops_cons (isInlineBlank_of_isAsciiWord letter))

theorem isWord_firstWord (first : IsIdentifier source) :
    IsWord (source.takeWhile isAsciiWord) :=
  (leads_identifier first (marked_cons (show isMark ' ' = true by decide) [])).1

/-- A keyword in any case is found at the front of an arrow exactly if it is the first word. -/
theorem afterCaselessWord_arrowLine (first : IsIdentifier source) {keyword : String}
    (listed : keyword ∈ ["flowchart", "graph", "subgraph"]) :
    afterCaselessWord keyword (arrowLine source target) =
      if (source.takeWhile isAsciiWord).map Char.toLower = keyword.toList then
        some (afterFirstWord source target)
      else none := by
  split
  case isTrue same =>
    rw [← map_foldLetter (isWord_firstWord first)] at same
    exact afterKeyword_eq_some.mpr
      ⟨afterCaseless_eq_some.mpr ⟨_, arrowLine_split, same⟩, (afterFirstWord_head first _).1⟩
  case isFalse other =>
    rw [← map_foldLetter (isWord_firstWord first)] at other
    exact afterCaselessWord_of_leads (leads_identifier first (marked_cons (by decide) _)) listed
      other

/-! ### Other readings -/

theorem atLineEnd_of_hyphen {text : List Char} (member : '-' ∈ text) : atLineEnd text = false := by
  rw [Bool.eq_false_iff]
  intro ended
  rcases mem_of_atLineEnd ended '-' member with blank | semicolon
  · exact absurd blank (by decide)
  · exact absurd semicolon (by decide)

/-- No direction is read before a hyphen. -/
theorem headerDirection_of_hyphen {text rest : List Char}
    (skipped : skipInline text = '-' :: rest) : headerDirection text = none := by
  rw [headerDirection, Option.bind_eq_bind, Option.bind_eq_none_iff]
  rintro ⟨blanks, left⟩ read
  obtain rfl : left = '-' :: rest := by
    obtain ⟨_, run⟩ := run1_eq_some.mp read
    rw [← skipped]
    exact (congrArg Prod.snd run).symm
  rfl

/-- A declaration that a hyphen follows does not end its line. -/
theorem ofLine?_arrowLine_header (first : IsIdentifier source) (target : List Char)
    (declares : (source.takeWhile isAsciiWord).map Char.toLower ∈
      ["flowchart", "graph"].map String.toList) : ofLine? (arrowLine source target) = none := by
  obtain ⟨rest, skipped⟩ := (afterFirstWord_head first target).2
  have keyword : ((afterCaselessWord "flowchart" (arrowLine source target)).orElse
      fun _ => afterCaselessWord "graph" (arrowLine source target)) =
        some (afterFirstWord source target) := by
    rw [afterCaselessWord_arrowLine first (by simp), afterCaselessWord_arrowLine first (by simp)]
    simp only [List.map_cons, List.map_nil, List.mem_cons, List.not_mem_nil, or_false] at declares
    rcases declares with same | same <;> rw [same] <;> rfl
  have header : headerStatement (arrowLine source target) =
      some (.header none, afterFirstWord source target) := by
    rw [headerStatement, keyword]
    simp [headerDirection_of_hyphen skipped]
  rw [ofLine?, skipInline_arrowLine first, anyStatement, firstOf_of_some header]
  simp [atLineEnd_of_hyphen hyphen_mem_afterFirstWord]

/-- No identifier and no text in quotes starts with a hyphen, so that what does is taken whole. -/
theorem textHead_of_hyphen {rest : List Char}
    (whole : ∀ c ∈ '-' :: rest, (c != ';' && c != '\n') = true) :
    firstOf [bracketedHead, quotedHead, namedHead, textHead] ('-' :: rest) =
      some ((none, some (String.ofList (trim ('-' :: rest)))), []) := by
  have unnamed : identifier ('-' :: rest) = none := by
    rw [identifier, run1_of_stops (stops_cons (by decide))]
    rfl
  have bracketed : bracketedHead ('-' :: rest) = none := by
    rw [bracketedHead, unnamed]
    rfl
  have quoted : quotedHead ('-' :: rest) = none := by
    rw [quotedHead, quotedText_of_ne (by decide)]
    rfl
  have named : namedHead ('-' :: rest) = none := by
    rw [namedHead, unnamed]
    rfl
  have title : textHead ('-' :: rest) =
      some ((none, some (String.ofList (trim ('-' :: rest)))), []) := by
    have run := run1_append (List.cons_ne_nil '-' rest) whole (stops_nil _)
    rw [List.append_nil] at run
    rw [textHead, run]
    rfl
  rw [firstOf_of_none bracketed, firstOf_of_none quoted, firstOf_of_none named,
    firstOf_of_some title]

/-- An arrow has no character that ends a statement. -/
theorem unbroken_arrowLine (first : IsIdentifier source) (second : IsIdentifier target) :
    ∀ c ∈ arrowLine source target, (c != ';' && c != '\n') = true := by
  apply forall_arrowLine first second (fun c => (c != ';' && c != '\n') = true)
    (List.all_eq_true.mp (by decide))
  intro c letter
  have semicolon : c ≠ ';' := ne_of_isMark letter (by decide)
  have lineEnd : c ≠ '\n' := ne_of_isMark letter (by decide)
  simp [semicolon, lineEnd]

theorem afterFirstWord_subset : afterFirstWord source target ⊆ arrowLine source target := by
  rw [arrowLine_split]
  exact List.subset_append_right _ _

/-- A block that a hyphen follows takes everything after its keyword as its title. -/
theorem ofLine?_arrowLine_blockStart (first : IsIdentifier source) (second : IsIdentifier target)
    (opens : (source.takeWhile isAsciiWord).map Char.toLower = "subgraph".toList) :
    ofLine? (arrowLine source target) =
      some (some (.blockStart none
        (some (String.ofList (trim (afterFirstWord source target)))))) := by
  have keyword : ∀ keyword ∈ ["flowchart", "graph", "subgraph"],
      afterCaselessWord keyword (arrowLine source target) =
        if "subgraph".toList = keyword.toList then some (afterFirstWord source target)
        else none := by
    intro keyword listed
    rw [afterCaselessWord_arrowLine first listed, opens]
  have header : headerStatement (arrowLine source target) = none :=
    headerStatement_of_none (keyword "flowchart" (by simp)) (keyword "graph" (by simp))
  have blockEnd : blockEndStatement (arrowLine source target) = none :=
    blockEndStatement_of_mem (c := '-') (by simp [arrowLine]) (Or.inl rfl)
  obtain ⟨rest, skipped⟩ := (afterFirstWord_head first target).2
  have whole : ∀ c ∈ '-' :: rest, (c != ';' && c != '\n') = true := by
    intro c member
    rw [← skipped] at member
    have inside := (List.dropWhile_suffix _).subset member
    exact unbroken_arrowLine first second c (afterFirstWord_subset inside)
  have head := textHead_of_hyphen whole
  rw [← skipped, trim_skipInline] at head
  exact ofLine?_of_blockStart (skipInline_arrowLine first) header blockEnd
    (blockStartStatement_of_head (keyword "subgraph" (by simp)) head) rfl

/-- An ignored word takes the rest of the arrow with it. -/
theorem ofLine?_arrowLine_ignored (first : IsIdentifier source) (second : IsIdentifier target)
    (ignored : source.takeWhile isAsciiWord ∈ ignoredWords.map String.toList) :
    ofLine? (arrowLine source target) = some (some .ignored) := by
  obtain ⟨word, listed, same⟩ := List.mem_map.mp ignored
  have whole : '\n' ∉ afterFirstWord source target := by
    intro member
    exact absurd (unbroken_arrowLine first second _ (afterFirstWord_subset member)) (by decide)
  rw [ofLine?_eq_ignored_iff, arrowLine_split, ← same]
  exact .line gap_nil listed (afterFirstWord_head first _).1 whole

/-- An arrow is read as one if its first word is no keyword. -/
theorem ofLine?_arrowLine_edges (first : IsIdentifier source) (second : IsIdentifier target)
    (free : KeywordFree source) :
    ofLine? (arrowLine source target) = some (some (arrowStatement source target)) := by
  apply ofLine?_edgesText (edgesText_arrowLine first second)
  rintro ref ⟨⟩
  rwa [String.toList_ofList]

/-- What a line with a plain arrow between two identifiers says is decided by the word at its front:
it is read as the arrow exactly if that word is no keyword, even if the first identifier goes on
after it. Otherwise the line is refused, opens a block or is ignored, as the keyword has it. -/
theorem ofText_arrowLine (first : IsIdentifier source) (second : IsIdentifier target) :
    (ofText (String.ofList (arrowLine source target)) = .ok (some (arrowStatement source target)) ↔
      KeywordFree source) ∧
    ((source.takeWhile isAsciiWord).map Char.toLower ∈ ["flowchart", "graph"].map String.toList →
      ofText (String.ofList (arrowLine source target)) =
        .error (.unrecognizedStatement (String.ofList (arrowLine source target)))) ∧
    ((source.takeWhile isAsciiWord).map Char.toLower = "subgraph".toList →
      ofText (String.ofList (arrowLine source target)) =
        .ok (some (.blockStart none
          (some (String.ofList (trim (afterFirstWord source target))))))) ∧
    (source.takeWhile isAsciiWord ∈ ignoredWords.map String.toList →
      ofText (String.ofList (arrowLine source target)) = .ok (some .ignored)) := by
  have text : ∀ {statement}, ofLine? (arrowLine source target) = some statement →
      ofText (String.ofList (arrowLine source target)) = .ok statement := by
    intro statement read
    rw [ofText, String.toList_ofList, read]
  have header := fun declares => ofLine?_arrowLine_header first target declares
  have blockStart := fun opens => text (ofLine?_arrowLine_blockStart first second opens)
  have ignored := fun listed => text (ofLine?_arrowLine_ignored first second listed)
  have refused : (source.takeWhile isAsciiWord).map Char.toLower ∈
      ["flowchart", "graph"].map String.toList →
        ofText (String.ofList (arrowLine source target)) =
          .error (.unrecognizedStatement (String.ofList (arrowLine source target))) := by
    intro declares
    rw [ofText, String.toList_ofList, header declares]
  refine ⟨⟨fun read => ?_, fun free => text (ofLine?_arrowLine_edges first second free)⟩,
    refused, blockStart, ignored⟩
  refine ⟨fun keyword => ?_, fun listed => ?_⟩
  · simp only [List.map_cons, List.map_nil, List.mem_cons, List.not_mem_nil, or_false] at keyword
    rcases keyword with flowchart | graph | opens
    · rw [refused (by simp [flowchart])] at read
      cases read
    · rw [refused (by simp [graph])] at read
      cases read
    · rw [blockStart opens] at read
      cases read
  · rw [ignored listed] at read
    cases read

end Arrow

-- The end of a block asks for the end of the line, which a hyphen is not.
example : ofText "end-user --> b" =
    .ok (some (arrowStatement "end-user".toList "b".toList)) := by
  decide +kernel

theorem ofText_arrowLine_styleGuide :
    IsIdentifier "style-guide".toList ∧ IsIdentifier "b".toList ∧
      ofText "style-guide --> b" = .ok (some .ignored) ∧
      ofText "style-guide --> b" ≠
        .ok (some (arrowStatement "style-guide".toList "b".toList)) := by
  have source : IsIdentifier "style-guide".toList :=
    @IsIdentifier.hyphened "style".toList "guide".toList (by decide) (by decide)
  have target : IsIdentifier "b".toList := .word (by decide)
  have read := ofText_arrowLine source target
  have notFree : ¬KeywordFree "style-guide".toList := by decide
  exact ⟨source, target, read.2.2.2 (by decide), mt read.1.mp notFree⟩

/-- A hyphenated identifier that is no keyword as a whole is taken for one because of its first
word: its arrow is passed over, or refused. -/
theorem ofText_keywordAndHyphen :
    (∀ source ∈ ["style-guide", "graph-db"], IsIdentifier source.toList ∧
      source.toList.map Char.toLower ∉ ["flowchart", "graph", "subgraph"].map String.toList ∧
      source.toList ∉ ignoredWords.map String.toList ∧
      ofText (source ++ " --> b") ≠ .ok (some (arrowStatement source.toList "b".toList))) ∧
    ofText "style-guide --> b" = .ok (some .ignored) ∧
    ofText "graph-db --> b" = .error (.unrecognizedStatement "graph-db --> b") := by
  have guide : IsIdentifier "style-guide".toList :=
    @IsIdentifier.hyphened "style".toList "guide".toList (by decide) (by decide)
  have database : IsIdentifier "graph-db".toList :=
    @IsIdentifier.hyphened "graph".toList "db".toList (by decide) (by decide)
  refine ⟨?_, by decide +kernel, by decide +kernel⟩
  intro source listed
  simp only [List.mem_cons, List.not_mem_nil, or_false] at listed
  rcases listed with rfl | rfl
  · exact ⟨guide, by decide, by decide, by decide +kernel⟩
  · exact ⟨database, by decide, by decide, by decide +kernel⟩

end Flowchart.Statement
