import Flowchart.Proofs.Plain.Text
import Flowchart.Draft.Scan

/-!
The source of a plain diagram is left alone by cleaning, and its lines are the lines of the diagram.

Main statements: `clean_text`, `trimmedLines_text`.
-/

namespace Flowchart.Text

/-! ### Replacing what does not occur -/

/-- A text in which nothing occurs is kept, and the search goes on behind it. -/
theorem replaceAllWith_append {occurrence : List Char → Option (List Char)}
    (replacement : Nat → List Char) {front : List Char}
    (absent : ∀ c ∈ front, ∀ rest, occurrence (c :: rest) = none) (rest : List Char) :
    replaceAllWith occurrence replacement (front ++ rest) =
      front ++ replaceAllWith occurrence replacement rest := by
  induction front with
  | nil => rfl
  | cons c front ih =>
      rw [List.cons_append, replaceAllWith, absent c (by simp) (front ++ rest),
        ih (fun d member => absent d (List.mem_cons_of_mem c member)), List.cons_append]

theorem replaceAllWith_of_none {occurrence : List Char → Option (List Char)}
    (replacement : Nat → List Char) {text : List Char}
    (absent : ∀ c ∈ text, ∀ rest, occurrence (c :: rest) = none) :
    replaceAllWith occurrence replacement text = text := by
  have kept := replaceAllWith_append replacement absent []
  rwa [List.append_nil, replaceAllWith, List.append_nil] at kept

/-- What occurs is replaced according to its length. -/
theorem replaceAllWith_of_some {occurrence : List Char → Option (List Char)}
    (replacement : Nat → List Char) {text after : List Char} (found : occurrence text = some after)
    (shorter : after.length < text.length) :
    replaceAllWith occurrence replacement text =
      replacement (text.length - after.length) ++
        replaceAllWith occurrence replacement after := by
  cases text with
  | nil => cases shorter
  | cons c rest =>
      rw [replaceAllWith, found]
      exact if_pos (Nat.le_of_lt_succ shorter)

theorem normalizeLineEnds_of_notMem {text : List Char} (absent : '\r' ∉ text) :
    normalizeLineEnds text = text := by
  induction text with
  | nil => rfl
  | cons c text ih =>
      have other : c ≠ '\r' := fun same => absent (by simp [same])
      have tail := ih (fun member => absent (List.mem_cons_of_mem c member))
      unfold normalizeLineEnds
      split
      · contradiction
      · rename_i rest same
        exact absurd (List.cons.inj same).1 other
      · rename_i d rest _ same
        obtain ⟨rfl, rfl⟩ := List.cons.inj same
        rw [if_neg other, tail]

/-! ### Lines -/

/-- A text without line feeds belongs to the first line. -/
theorem cutLines_append {line : List Char} (whole : '\n' ∉ line) (rest : List Char) :
    cutLines (line ++ rest) = (line ++ (cutLines rest).1, (cutLines rest).2) := by
  induction line with
  | nil => rfl
  | cons c line ih =>
      have other : c ≠ '\n' := fun same => whole (by simp [same])
      have tail := ih (fun member => whole (List.mem_cons_of_mem c member))
      simp [cutLines, tail, other]

/-- Lines joined by line ends are found again. -/
theorem splitLines_intercalate {lines : List (List Char)} (nonempty : lines ≠ [])
    (whole : ∀ line ∈ lines, '\n' ∉ line) : splitLines (['\n'].intercalate lines) = lines := by
  induction lines with
  | nil => exact absurd rfl nonempty
  | cons line lines ih =>
      have here := cutLines_append (whole line (by simp))
      cases lines with
      | nil =>
          have cut := here []
          rw [List.append_nil] at cut
          rw [List.intercalate_singleton, splitLines, cut]
          simp [cutLines]
      | cons next lines =>
          have tail := ih (by simp) (fun other member =>
            whole other (List.mem_cons_of_mem line member))
          rw [splitLines] at tail
          rw [List.intercalate_cons_cons, splitLines, List.append_assoc, here]
          simp [cutLines, tail]

end Flowchart.Text

namespace Flowchart.Plain

open Flowchart.Text

/-! ### The lines of a diagram -/

theorem isLine_keyword {keyword direction : List Char} (letters : keyword.all isAsciiWord = true)
    (keywordNonempty : keyword ≠ []) (more : direction.all isAsciiWord = true)
    (nonempty : direction ≠ []) : IsLine (keyword ++ ' ' :: direction) where
  plain := by
    have word : ∀ {text : List Char}, text.all isAsciiWord = true →
        ∀ c ∈ text, isPlain c = true := by
      intro text ascii c member
      simp [isPlain, List.all_eq_true.mp ascii c member]
    exact forall_append (word letters) (isPlain_space (word more))
  head := by
    cases keyword with
    | nil => exact absurd rfl keywordNonempty
    | cons c keyword => exact ⟨c, _, rfl, List.all_eq_true.mp letters c (by simp)⟩
  last := by
    have visible := isBlank_of_isAsciiWord (List.all_eq_true.mp more _ (List.getLast_mem nonempty))
    obtain ⟨front, c, ends, visible⟩ := exists_last nonempty visible
    exact ⟨keyword ++ ' ' :: front, c, by simp [ends], visible⟩

/-- The declaration is a line. -/
theorem Diagram.isLine_declaration (diagram : Diagram) : IsLine diagram.declaration := by
  have keyword : ∀ keyword ∈ ["flowchart", "graph"],
      keyword.toList.all isAsciiWord = true ∧ keyword.toList ≠ [] := by decide
  have direction : ∀ direction ∈ Statement.directionWords,
      direction.toList.all isAsciiWord = true ∧ direction.toList ≠ [] := by decide
  obtain ⟨letters, keywordNonempty⟩ := keyword _ diagram.declares
  obtain ⟨more, nonempty⟩ := direction _ diagram.directs
  exact isLine_keyword letters keywordNonempty more nonempty

/-- An item is written in lines. -/
theorem Item.isLine (item : Item) : ∀ line ∈ item.lines, IsLine line := by
  cases item with
  | chain links =>
      intro line member
      rw [List.mem_singleton.mp member]
      exact links.isLine
  | block name title chains =>
      intro line member
      rcases List.mem_cons.mp member with rfl | member
      · exact isLine_openingLine name title
      · rcases List.mem_append.mp member with member | member
        · obtain ⟨links, _, rfl⟩ := List.mem_map.mp member
          exact links.isLine
        · rw [List.mem_singleton.mp member]
          exact isLine_end

/-- A plain diagram is written in lines. -/
theorem Diagram.isLine (diagram : Diagram) : ∀ line ∈ diagram.lines, IsLine line := by
  intro line member
  rcases List.mem_cons.mp member with rfl | member
  · exact diagram.isLine_declaration
  · obtain ⟨item, _, inItem⟩ := List.mem_flatMap.mp member
    exact item.isLine line inItem

/-- A plain character is none of those that mean something outside of lines. -/
theorem isPlain_ne {c d : Char} (plain : isPlain c = true) (strange : isPlain d = false) :
    c ≠ d := by
  rintro rfl
  exact Bool.false_ne_true (strange.symm.trans plain)

theorem Diagram.lines_ne_nil (diagram : Diagram) : diagram.lines ≠ [] :=
  List.cons_ne_nil _ _

/-- Plain lines are the lines of the text that they are joined to. -/
theorem trimmedLines_intercalate {lines : List (List Char)} (nonempty : lines ≠ [])
    (isLine : ∀ line ∈ lines, IsLine line) :
    Source.trimmedLines (['\n'].intercalate lines) = lines := by
  have whole : ∀ line ∈ lines, '\n' ∉ line := by
    intro line member inside
    exact isPlain_ne ((isLine line member).plain _ inside) (by decide) rfl
  have kept : ∀ line ∈ lines, trim line = id line := by
    intro line member
    exact trim_of_isTrimmed (isLine line member).isTrimmed
  rw [Source.trimmedLines, splitLines_intercalate nonempty whole, List.map_congr_left kept,
    List.map_id]

/-- The lines of the source are the lines of the diagram. -/
theorem trimmedLines_text (diagram : Diagram) :
    Source.trimmedLines diagram.text.toList = diagram.lines := by
  rw [Diagram.text, String.toList_ofList]
  exact trimmedLines_intercalate diagram.lines_ne_nil diagram.isLine

/-! ### Cleaning -/

/-- Joined lines hold the characters of the lines and line ends. -/
theorem mem_intercalate {lines : List (List Char)} {c : Char}
    (member : c ∈ ['\n'].intercalate lines) : c = '\n' ∨ ∃ line ∈ lines, c ∈ line := by
  induction lines with
  | nil => cases member
  | cons line lines ih =>
      cases lines with
      | nil => exact Or.inr ⟨line, by simp, by simpa using member⟩
      | cons next lines =>
          rw [List.intercalate_cons_cons, List.append_assoc] at member
          rcases List.mem_append.mp member with member | member
          · exact Or.inr ⟨line, by simp, member⟩
          · rcases List.mem_cons.mp member with rfl | member
            · exact Or.inl rfl
            · rcases ih member with lineEnd | ⟨other, listed, inside⟩
              · exact Or.inl lineEnd
              · exact Or.inr ⟨other, List.mem_cons_of_mem line listed, inside⟩

/-- Joined lines start with the first and end with the last. -/
theorem isTrimmed_intercalate {lines : List (List Char)} (nonempty : lines ≠ [])
    (trimmed : ∀ line ∈ lines, IsTrimmed line) : IsTrimmed (['\n'].intercalate lines) := by
  induction lines with
  | nil => exact absurd rfl nonempty
  | cons line lines ih =>
      have here := trimmed line (by simp)
      cases lines with
      | nil =>
          rw [List.intercalate_singleton]
          exact here
      | cons next lines =>
          have tail := ih (by simp) (fun other member =>
            trimmed other (List.mem_cons_of_mem line member))
          rw [List.intercalate_cons_cons, List.append_assoc]
          refine ⟨by simp [here.nonempty], stops_append here.nonempty here.first _, ?_⟩
          rw [List.reverse_append, List.reverse_append, List.append_assoc]
          exact stops_append (by simpa using tail.nonempty) tail.last _

/-- No blanks stand around a plain diagram. -/
theorem Diagram.isTrimmed_text (diagram : Diagram) : IsTrimmed diagram.text.toList := by
  rw [Diagram.text, String.toList_ofList]
  exact isTrimmed_intercalate diagram.lines_ne_nil fun line member =>
    (diagram.isLine line member).isTrimmed

/-- A fence starts with a backtick. -/
theorem afterLiteral_fenceMark {text : List Char} (absent : '\x60' ∉ text) :
    afterLiteral Source.fenceMark text = none := by
  cases read : afterLiteral Source.fenceMark text with
  | none => rfl
  | some rest =>
      have starts := afterLiteral_eq_some.mp read
      exact absurd (by simp [starts, Source.fenceMark]) absent

/-- A text without backticks has no fence to drop. -/
theorem dropFences_of_notMem {text : List Char} (absent : '\x60' ∉ text) :
    Source.dropClosingFence (Source.dropOpeningFence text) = text := by
  have opened : Source.dropOpeningFence text = text := by
    have front : '\x60' ∉ trimLeft text :=
      fun member => absent ((List.dropWhile_suffix isBlank).subset member)
    rw [Source.dropOpeningFence, afterLiteral_fenceMark front]
  have back : '\x60' ∉ (trimRight text).reverse :=
    fun member => absent ((trimRight_isPrefix text).subset (List.mem_reverse.mp member))
  rw [opened, Source.dropClosingFence, afterLiteral_fenceMark back]

theorem afterDirective_of_ne {c : Char} (other : c ≠ '%') (rest : List Char) :
    Source.afterDirective (c :: rest) = none := by
  simp [Source.afterDirective, afterLiteral, other]

theorem afterLineBreak_of_ne {c : Char} (other : foldLetterDotted c ≠ '<') (rest : List Char) :
    afterLineBreak (c :: rest) = none := by
  simp [afterLineBreak, afterCaseless, other]

theorem foldLetterDotted_ne {c : Char} (plain : c = '\n' ∨ isPlain c = true) :
    foldLetterDotted c ≠ '<' := by
  rcases plain with rfl | plain
  · decide
  · have checked : ∀ code : Fin 128, isPlain (Char.ofNat code) = true →
        foldLetterDotted (Char.ofNat code) ≠ '<' := by
      decide +kernel
    have ascii : c.toNat < 128 := by
      simp only [isPlain, Bool.or_eq_true] at plain
      rcases plain with word | listed
      · exact toNat_lt_of_isAsciiWord word
      · have bounded :
            " []()\x7b\x7d-=.>|".toList.all (fun c => decide (c.toNat < 128)) = true := by
          decide
        simpa using List.all_eq_true.mp bounded c (List.contains_iff_mem.mp listed)
    exact forall_ascii (fun c => isPlain c = true → foldLetterDotted c ≠ '<') checked ascii plain

/-- Cleaning leaves plain lines alone. -/
theorem cleanChars_intercalate {lines : List (List Char)} (nonempty : lines ≠ [])
    (isLine : ∀ line ∈ lines, IsLine line) :
    Source.cleanChars (['\n'].intercalate lines) = ['\n'].intercalate lines := by
  have plain : ∀ c ∈ ['\n'].intercalate lines, c = '\n' ∨ isPlain c = true := by
    intro c member
    rcases mem_intercalate member with lineEnd | ⟨line, listed, inside⟩
    · exact Or.inl lineEnd
    · exact Or.inr ((isLine line listed).plain c inside)
  have absent : ∀ {c : Char}, isPlain c = false → c ≠ '\n' → c ∉ ['\n'].intercalate lines := by
    intro c strange visible member
    rcases plain c member with lineEnd | inside
    · exact visible lineEnd
    · exact isPlain_ne inside strange rfl
  have directives : replaceAll Source.afterDirective [] (['\n'].intercalate lines) =
      ['\n'].intercalate lines := by
    apply replaceAllWith_of_none
    intro c member
    apply afterDirective_of_ne
    rintro rfl
    exact absent (by decide) (by decide) member
  have breaks : breaksToSpaces (['\n'].intercalate lines) = ['\n'].intercalate lines := by
    apply replaceAllWith_of_none
    intro c member
    exact afterLineBreak_of_ne (foldLetterDotted_ne (plain c member))
  have fences := dropFences_of_notMem (absent (c := '\x60') (by decide) (by decide))
  have lineEnds := normalizeLineEnds_of_notMem (absent (c := '\r') (by decide) (by decide))
  have trimmed := isTrimmed_intercalate nonempty fun line member => (isLine line member).isTrimmed
  rw [Source.cleanChars, fences]
  simp only [directives, breaks, lineEnds]
  exact trim_of_isTrimmed trimmed

/-- Cleaning leaves the source of a plain diagram alone. -/
theorem clean_text (diagram : Diagram) : Source.clean diagram.text = diagram.text := by
  rw [Source.clean, Diagram.text, String.toList_ofList,
    cleanChars_intercalate diagram.lines_ne_nil diagram.isLine]

end Flowchart.Plain
