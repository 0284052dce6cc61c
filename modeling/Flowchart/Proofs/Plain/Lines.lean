import Flowchart.Proofs.Plain.Strict
import Flowchart.Proofs.Plain.Words

/-!
The lines of plain diagrams, as the forgiving reader tells them apart.

A chain starts with an id that is no keyword, so it neither declares a diagram nor opens or closes a
block. The line that opens a block gives its id and title, and the declaration gives the direction.

Main statements: `Chain.isContent_chars`, `blockOfLine?_openingLine`, `blockIds_lines`.
-/

namespace Flowchart.Plain

open Flowchart.Text Flowchart.Scan Flowchart.Notation
open Flowchart.Source (afterKeyword isDeclaration)
open Flowchart.Statement (Leads Marked marked_cons afterKeyword_of_leads)

/-! ### Keywords -/

theorem isAsciiWord_foldLetterDotted_of_isMark {c : Char} (mark : isMark c = true) :
    isAsciiWord (foldLetterDotted c) = false := by
  have passed : marks.all (fun c => !isAsciiWord (foldLetterDotted c)) = true := by decide
  simpa using test_of_isMark passed mark

/-- On words of ASCII the folding of letters is that of lower case. -/
theorem map_foldLetterDotted {word : List Char} (isWord : IsWord word) :
    word.map foldLetterDotted = word.map Char.toLower := by
  apply List.map_congr_left
  intro c member
  have ascii := toNat_lt_of_isAsciiWord (isWord.ascii c member)
  have notDotted : (c.toNat == 0x130 || c.toNat == 0x131) = false := by
    rw [Bool.or_eq_false_iff, beq_eq_false_iff_ne, beq_eq_false_iff_ne]
    omega
  rw [foldLetterDotted, notDotted, foldLetter, if_pos ascii]
  rfl

/-- A line that an id leads starts with no keyword. -/
theorem Name.afterKeyword_line (name : Name) {belongs : Char → Bool} {keyword line : List Char}
    (leads : Leads name.text line) (reserved : keyword ∈ reservedNames)
    (inside : ∀ c, isAsciiWord c = true → belongs c = true)
    (outside : ∀ c, isMark c = true → belongs c = false) :
    afterKeyword belongs foldLetterDotted keyword line = none := by
  have letters : reservedNames.all (fun keyword => keyword.all isAsciiWord) = true := by decide
  refine afterKeyword_of_leads leads
    (List.all_eq_true.mp (List.all_eq_true.mp letters keyword reserved)) inside outside
    (fun _ => isAsciiWord_foldLetterDotted_of_isMark) ?_
  rw [map_foldLetterDotted name.isWord]
  rintro rfl
  exact name.unreserved reserved

/-- Where a keyword is no whole word, no blank follows it. -/
theorem afterWordAndBlanks_of_none {word : String} {line : List Char}
    (refused : afterKeyword isAsciiWord foldLetterDotted word.toList line = none) :
    afterWordAndBlanks word line = none := by
  rw [afterKeyword] at refused
  rw [afterWordAndBlanks]
  cases read : afterCaseless foldLetterDotted word.toList line with
  | none => rfl
  | some rest =>
      rw [read] at refused
      cases rest with
      | nil => cases refused
      | cons c rest =>
          by_cases visible : isAsciiWord c = true
          · have unread : run1 isBlank (c :: rest) = none :=
              run1_of_stops (stops_cons (isBlank_of_isAsciiWord visible))
            simp [unread]
          · simp [visible] at refused

/-- A line is no declaration where neither keyword for one is found. -/
theorem isDeclaration_of_none {line : List Char}
    (refused : ∀ keyword ∈ ["flowchart", "graph"],
      afterKeyword isNameChar foldLetterDotted keyword.toList (trim line) = none) :
    isDeclaration line = false := by
  rw [isDeclaration]
  simp only [List.any_cons, List.any_nil, refused "flowchart" (by simp), refused "graph" (by simp)]
  rfl

/-- A line without the keyword for a block opens none. -/
theorem blockOfLine?_of_none {line : List Char}
    (refused : afterWordAndBlanks "subgraph" line = none) : blockOfLine? line = none := by
  rw [blockOfLine?, refused]
  rfl

/-- Where a keyword is no whole word, it is not the whole line either. -/
theorem closesBlock_of_none {line : List Char}
    (refused : afterKeyword isAsciiWord foldLetterDotted "end".toList line = none) :
    closesBlock line = false := by
  rw [afterKeyword] at refused
  rw [closesBlock]
  cases read : afterCaseless foldLetterDotted "end".toList line with
  | none => rfl
  | some rest =>
      rw [read] at refused
      cases rest with
      | nil => cases refused
      | cons c rest => rfl

/-! ### Chains -/

/-- A line of nodes and links: it declares no diagram, and opens and closes no block. -/
structure IsContent (line : List Char) : Prop where
  undeclared : isDeclaration line = false
  unopened : blockOfLine? line = none
  unclosed : closesBlock line = false

/-- The line of a chain begins with the name of its first node. -/
theorem Chain.leads_chars (links : Chain) : Leads links.first.name.text links.chars := by
  have space : Marked (links.steps.flatMap Step.chars) := by
    cases steps : links.steps with
    | nil => exact absurd steps links.linked
    | cons step steps => exact marked_cons (by decide) _
  refine ⟨links.first.name.isWord, _, List.append_assoc _ _ _, ?_⟩
  cases links.first.bracket with
  | none => exact space
  | some bracket =>
      have opening : Marked (bracket.chars ++ links.steps.flatMap Step.chars) := by
        rw [Bracket.chars, List.append_assoc, List.append_assoc]
        cases bracket.shape <;> exact marked_cons (by decide) _
      exact opening

/-- The line of a chain declares nothing, since a name is no keyword, and neither opens nor closes a
block. -/
theorem Chain.isContent_chars (links : Chain) : IsContent links.chars := by
  have leads := links.leads_chars
  have ascii : ∀ {keyword : List Char}, keyword ∈ reservedNames →
      afterKeyword isAsciiWord foldLetterDotted keyword links.chars = none := fun reserved =>
    links.first.name.afterKeyword_line leads reserved (fun _ => id)
      (fun _ => isAsciiWord_of_isMark)
  have reserved : ["flowchart", "graph"].map String.toList ⊆ reservedNames := by decide
  refine ⟨isDeclaration_of_none fun keyword listed => ?_,
    blockOfLine?_of_none (afterWordAndBlanks_of_none (ascii (by decide))),
    closesBlock_of_none (ascii (by decide))⟩
  rw [trim_of_isTrimmed links.isLine.isTrimmed]
  exact links.first.name.afterKeyword_line leads (reserved (List.mem_map_of_mem listed))
    (fun _ => isNameChar_of_isAsciiWord) (fun _ => isNameChar_of_isMark)

/-! ### Blocks -/

/-- The block that a line opens, without members. -/
def openedBlock (opening : Name × Option Phrase) : Block where
  id := opening.1.id
  title := some ((opening.2.map fun title => String.ofList title.text).getD opening.1.id)

theorem isDeclaration_openingLine (name : Name) (title : Option Phrase) :
    isDeclaration (openingLine name title) = false := by
  rw [isDeclaration, trim_of_isTrimmed (isLine_openingLine name title).isTrimmed, openingLine_eq]
  rfl

/-- Behind the keyword in the line of an opening stand the name and the title. -/
theorem afterWordAndBlanks_openingLine (name : Name) (title : Option Phrase) :
    afterWordAndBlanks "subgraph" (openingLine name title) =
      some (name.text ++ titleChars title) := by
  have visible : Stops isBlank (name.text ++ titleChars title) :=
    stops_append name.isWord.nonempty (isTrimmed_of_isWord name.isWord).first _
  have read := run1_append (by simp) isBlank_of_mem_space visible
  have found : afterCaseless foldLetterDotted "subgraph".toList (openingLine name title) =
      some ([' '] ++ (name.text ++ titleChars title)) := by
    rw [openingLine_eq]
    rfl
  rw [afterWordAndBlanks, found]
  simp only [Option.bind_eq_bind, Option.bind_some, read]

theorem stops_titleChars (title : Option Phrase) : Stops isNameChar (titleChars title) := by
  cases title with
  | none => exact stops_nil _
  | some title => exact stops_cons (by decide)

/-- The text of a title starts right after the bracket. -/
theorem afterBracketOpen_titleChars (title : Phrase) :
    afterLiteral ['['] ((titleChars (some title)).dropWhile isBlank) =
      some (title.text ++ [']']) := by
  have opened : (titleChars (some title)).dropWhile isBlank = '[' :: (title.text ++ [']']) :=
    dropWhile_append_stops isBlank_of_mem_space (stops_cons (by decide))
  rw [opened]
  rfl

theorem quotedTitle_titleChars (title : Option Phrase) : quotedTitle (titleChars title) = none := by
  cases title with
  | none => rfl
  | some title =>
      obtain ⟨c, rest, starts, word⟩ := title.isPhrase.head
      have unquoted : afterLiteral ['"'] ((title.text ++ [']']).dropWhile isBlank) = none := by
        rw [starts, List.cons_append,
          dropWhile_of_stops (stops_cons (isBlank_of_isAsciiWord word)), afterLiteral,
          if_neg (ne_quote_of_isAsciiWord word)]
      rw [quotedTitle, afterBracketOpen_titleChars]
      simp only [Option.bind_eq_bind, Option.bind_some, unquoted]
      rfl

/-- The title behind a name is found again. -/
theorem plainTitle_titleChars (title : Option Phrase) :
    plainTitle (titleChars title) = title.map Phrase.text := by
  cases title with
  | none => rfl
  | some title =>
      have inside : ∀ c ∈ title.text, (c != ']') = true := by
        intro c member
        exact bne_iff_ne.mpr (title.isPhrase.ne_of_mem member (by decide) (by decide))
      have stops : Stops (· != ']') [']'] := stops_cons (by decide)
      have read := run1_append title.isPhrase.isTrimmed.nonempty inside stops
      rw [plainTitle, afterBracketOpen_titleChars]
      simp only [Option.bind_eq_bind, Option.bind_some, read]
      rfl

/-- The line of an opening opens the block with this name and title. -/
theorem blockOfLine?_openingLine (name : Name) (title : Option Phrase) :
    blockOfLine? (openingLine name title) = some (openedBlock (name, title)) := by
  have read := run1_append name.isWord.nonempty (isNameChar_of_isWord name.isWord)
    (stops_titleChars title)
  have cleaned : String.ofList (cleanLabelChars ((title.map Phrase.text).getD name.text)) =
      (title.map fun title => String.ofList title.text).getD name.id := by
    cases title with
    | none => exact congrArg String.ofList (cleanLabelChars_word name.isWord)
    | some title => exact congrArg String.ofList (cleanLabelChars_phrase title.isPhrase)
  have visible : ((title.map fun title => String.ofList title.text).getD name.id).isEmpty =
      false := by
    cases title with
    | none => simp [Name.id, name.isWord.nonempty]
    | some title => exact title.isEmpty
  rw [blockOfLine?, afterWordAndBlanks_openingLine]
  simp only [Option.bind_eq_bind, Option.bind_some, read, quotedTitle_titleChars,
    Option.orElse_none, plainTitle_titleChars, cleaned, visible]
  rfl

/-! ### Declarations and ends of blocks -/

theorem isDeclaration_end : isDeclaration "end".toList = false := by
  decide +kernel

theorem blockOfLine?_end : blockOfLine? "end".toList = none := by
  rfl

theorem closesBlock_end : closesBlock "end".toList = true := by
  decide +kernel

/-- The declaration gives the direction of a plain diagram and opens no block. -/
theorem Diagram.declared (diagram : Diagram) :
    isDeclaration diagram.declaration = true ∧
      declaredDirection? diagram.declaration = some diagram.direction ∧
        blockOfLine? diagram.declaration = none := by
  have checked : ∀ keyword ∈ ["flowchart", "graph"], ∀ direction ∈ Statement.directionWords,
      isDeclaration (keyword.toList ++ ' ' :: direction.toList) = true ∧
        declaredDirection? (keyword.toList ++ ' ' :: direction.toList) = some direction ∧
          blockOfLine? (keyword.toList ++ ' ' :: direction.toList) = none := by
    decide +kernel
  exact checked _ diagram.declares _ diagram.directs

/-! ### The ids of the blocks -/

/-- The lines of chains open no blocks. -/
theorem filterMap_blockOfLine?_chains (chains : List Chain) :
    (chains.map Chain.chars).filterMap blockOfLine? = [] := by
  rw [List.filterMap_map, List.filterMap_eq_nil_iff]
  exact fun links _ => links.isContent_chars.unopened

/-- The lines of an item open its block, if it is one, and no other. -/
theorem Item.filterMap_blockOfLine? (item : Item) :
    item.lines.filterMap blockOfLine? = item.opening?.toList.map openedBlock := by
  cases item with
  | chain links => exact filterMap_blockOfLine?_chains [links]
  | block name title chains =>
      rw [Item.lines, List.filterMap_cons, blockOfLine?_openingLine, List.filterMap_append,
        filterMap_blockOfLine?_chains]
      rfl

/-- The blocks that the lines of a diagram open. -/
theorem blockIds_lines (diagram : Diagram) :
    (diagram.lines.filterMap blockOfLine?).map Block.id = diagram.blockIds := by
  have items : ∀ items : List Item, ((items.flatMap Item.lines).filterMap blockOfLine?) =
      (items.filterMap Item.opening?).map openedBlock := by
    intro items
    induction items with
    | nil => rfl
    | cons item items ih =>
        rw [List.flatMap_cons, List.filterMap_append, item.filterMap_blockOfLine?, ih]
        cases opening : item.opening? with
        | none => simp [opening]
        | some opened => simp [opening]
  have declaration : blockOfLine? diagram.declaration = none := diagram.declared.2.2
  have lines : diagram.lines = diagram.declaration :: diagram.items.flatMap Item.lines := rfl
  rw [lines, List.filterMap_cons, declaration, items, Diagram.blockIds, List.map_map]
  rfl

end Flowchart.Plain
