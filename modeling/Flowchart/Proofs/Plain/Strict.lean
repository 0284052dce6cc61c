import Mathlib.Data.List.Forall2
import Flowchart.Proofs.Draft.Accepted
import Flowchart.Proofs.Plain.Source
import Flowchart.Proofs.Statement.RoundTrip

/-!
Plain diagrams are read strictly.

Each line of a plain diagram makes the statement that it was written for, and these statements can
be applied one after the other: every block is opened before it is closed.

Main statement: `load_text`.
-/

namespace Flowchart.Plain

open Flowchart.Text Flowchart.Notation Flowchart.Statement
open Flowchart.Source (afterKeyword)

/-! ### Chains -/

/-- The link as the strict reader finds it. -/
def Tie.link (tie : Tie) : Link :=
  ⟨tie.stroke, tie.directed, tie.label.map fun label => String.ofList label.text⟩

/-- The link and its node as the strict reader finds them. -/
def Step.hop (step : Step) : Hop :=
  ⟨step.tie.link, [step.target.ref]⟩

/-- The statement of a chain. -/
def Chain.statement (links : Chain) : Statement :=
  .edges [links.first.ref] (links.steps.map Step.hop)

/-- A phrase may stand bare between brackets. -/
theorem Phrase.bodyText (phrase : Phrase) : BodyText phrase.text phrase.text := by
  have plain : ∀ c ∈ phrase.text, c ∉ bracketMarks := by
    intro c member inside
    rcases phrase.isPhrase.chars c member with word | rfl
    · have marked : bracketMarks.all isMark = true := by decide
      exact notMem_of_isMark word marked inside
    · revert inside
      decide
  have written := @BodyText.bare phrase.text [] [] gap_nil gap_nil plain
  rwa [List.nil_append, List.append_nil] at written

/-- A node of a plain diagram is written as the notation has it. -/
theorem Mention.refText (mention : Mention) : RefText mention.ref mention.chars := by
  have isIdentifier : IsIdentifier mention.name.text := .word mention.name.isWord
  cases bracketed : mention.bracket with
  | none =>
      have written := RefText.plain isIdentifier
      simpa [Mention.ref, Mention.chars, bracketed, Name.id] using written
  | some bracket =>
      have written := RefText.shaped bracket.shape isIdentifier gap_nil
        bracket.text.isPhrase.isTrimmed bracket.text.bodyText
      simpa [Mention.ref, Mention.chars, bracketed, Bracket.chars, Name.id] using written

/-- A phrase may stand inside an arrow. -/
theorem Phrase.isInnerText (phrase : Phrase) : IsInnerText phrase.text where
  toIsTrimmed := phrase.isPhrase.isTrimmed
  free := by
    intro c member
    refine ⟨?_, ?_, ?_⟩ <;> exact phrase.isPhrase.ne_of_mem member (by decide) (by decide)
  start := by
    intro c first
    have member := List.mem_of_mem_head? first
    constructor <;> exact phrase.isPhrase.ne_of_mem member (by decide) (by decide)

/-- Every link is written as the strict reader expects it. -/
theorem Tie.linkText (tie : Tie) : LinkText tie.link tie.chars := by
  have space : Gap [' '] := by decide
  have free : ∀ label : Phrase, ∀ c ∈ label.text, c ≠ '|' ∧ c ≠ '\n' := by
    intro label c member
    constructor <;> exact label.isPhrase.ne_of_mem member (by decide) (by decide)
  cases tie with
  | arrow => exact .plain .normal true
  | dotted => exact .plain .dotted true
  | thick => exact .plain .thick true
  | line => exact .plain .normal false
  | labeledArrow label =>
      have written := LinkText.piped .normal true gap_nil gap_nil gap_nil label.isPhrase.isTrimmed
        (free label)
      simpa [Tie.chars_labeledArrow, plainLink, Tie.link, Tie.stroke, Tie.directed, Tie.label]
        using written
  | labeledDotted label =>
      have written := LinkText.piped .dotted true gap_nil gap_nil gap_nil label.isPhrase.isTrimmed
        (free label)
      simpa [Tie.chars_labeledDotted, plainLink, Tie.link, Tie.stroke, Tie.directed, Tie.label]
        using written
  | textArrow text =>
      have written := LinkText.inner .normal true space space text.isInnerText (by simp)
      simpa [Tie.chars_textArrow, linkOpening, linkClosing, Tie.link, Tie.stroke, Tie.directed,
        Tie.label] using written

/-- The steps of a chain are written as the notation has them. -/
theorem hopsText (steps : List Step) :
    HopsText (steps.map Step.hop) (steps.flatMap Step.chars) := by
  have space : Gap [' '] := by decide
  induction steps with
  | nil => exact .nil
  | cons step steps ih =>
      have written := HopsText.cons space step.tie.linkText space (.one step.target.refText) ih
      simpa [Step.hop, Step.chars] using written

theorem Chain.edgesText (links : Chain) :
    EdgesText [links.first.ref] (links.steps.map Step.hop) links.chars := by
  have written := EdgesText.line gap_nil (.one links.first.refText) (by simpa using links.linked)
    (hopsText links.steps) (.blank gap_nil)
  simpa [Chain.chars] using written

/-- No keyword is an id. -/
theorem Name.keywordFree (name : Name) : KeywordFree name.text := by
  have whole : name.text.takeWhile isAsciiWord = name.text :=
    List.takeWhile_eq_self_iff.mpr name.isWord.ascii
  have small : ["flowchart", "graph", "subgraph"].map String.toList ⊆ reservedNames := by decide
  have ignored : ∀ word ∈ ignoredWords, word.toList.map Char.toLower ∈ reservedNames := by decide
  rw [KeywordFree, whole]
  refine ⟨fun member => name.unreserved (small member), fun member => ?_⟩
  obtain ⟨word, listed, same⟩ := List.mem_map.mp member
  have reserved := ignored word listed
  rw [same] at reserved
  exact name.unreserved reserved

/-- The line of a chain is read as its statement. -/
theorem Chain.ofLine?_chars (links : Chain) :
    ofLine? links.chars = some (some links.statement) := by
  apply ofLine?_edgesText links.edgesText
  intro ref first
  obtain rfl : links.first.ref = ref := by simpa using first
  simpa [Mention.ref, Name.id] using links.first.name.keywordFree

/-! ### Blocks and declarations -/

theorem afterKeyword_append {isWord : Char → Bool} {fold : Char → Char} {keyword rest : List Char}
    (folded : keyword.map fold = keyword) (stops : Stops isWord rest) :
    afterKeyword isWord fold keyword (keyword ++ rest) = some rest :=
  afterKeyword_eq_some.mpr ⟨afterCaseless_eq_some.mpr ⟨keyword, rfl, folded⟩, stops⟩

/-- The line of an opening begins with its keyword as a whole word. -/
theorem leads_openingLine (name : Name) (title : Option Phrase) :
    Leads "subgraph".toList (openingLine name title) :=
  ⟨by decide, ' ' :: (name.text ++ titleChars title), openingLine_eq name title,
    marked_cons (by decide) _⟩

/-- The name in an opening ends before the title. -/
theorem identifierEnds_titleChars (title : Option Phrase) : IdentifierEnds (titleChars title) := by
  cases title with
  | none => exact ⟨stops_nil _, rfl⟩
  | some title => exact identifierEnds_cons _ (by decide) (by decide)

theorem ne_quote_of_isAsciiWord {c : Char} (word : isAsciiWord c = true) : c ≠ '"' :=
  ne_of_isMark word (by decide)

/-- An id alone on the line of its block. -/
theorem namedHead_append (name : Name) :
    firstOf [bracketedHead, quotedHead, namedHead, textHead] name.text =
      some ((some name.id, none), []) := by
  have readId := identifier_append (.word name.isWord) (identifierEnds_titleChars none)
  rw [titleChars, List.append_nil] at readId
  obtain ⟨c, rest, text, word⟩ := name.head
  have unbracketed : bracketedHead name.text = none := by
    rw [bracketedHead, readId]
    rfl
  have unquoted : quotedHead name.text = none := by
    rw [quotedHead, text, quotedText_of_ne (ne_quote_of_isAsciiWord word)]
    rfl
  have named : namedHead name.text = some ((some name.id, none), []) := by
    rw [namedHead, readId]
    rfl
  rw [firstOf_of_none unbracketed, firstOf_of_none unquoted, firstOf_of_some named]

/-- An id with a title in square brackets. -/
theorem bracketedHead_append (name : Name) (title : Phrase) :
    bracketedHead (name.text ++ titleChars (some title)) =
      some ((some name.id, some (String.ofList title.text)), []) := by
  have readId := identifier_append (.word name.isWord) (identifierEnds_titleChars (some title))
  obtain ⟨c, rest, text, word⟩ := title.isPhrase.head
  have opened : skipInline (titleChars (some title)) = '[' :: (title.text ++ [']']) := by
    have space : Gap [' '] := by decide
    exact skipInline_gap space (stops_cons (by decide))
  have started : skipInline (title.text ++ [']']) = title.text ++ [']'] := by
    rw [text]
    exact skipInline_of_stops (stops_cons (isInlineBlank_of_isAsciiWord word))
  have unquoted : quotedText (title.text ++ [']']) = none := by
    rw [text]
    exact quotedText_of_ne (ne_quote_of_isAsciiWord word)
  have inside : ∀ c ∈ title.text, (c != ']' && c != '\n') = true := by
    intro c member
    have bracket : c ≠ ']' := title.isPhrase.ne_of_mem member (by decide) (by decide)
    have lineEnd : c ≠ '\n' := title.isPhrase.ne_of_mem member (by decide) (by decide)
    simp [bracket, lineEnd]
  have stops : Stops (fun c => c != ']' && c != '\n') [']'] := stops_cons (by decide)
  have closed : afterLiteral [']'] (skipInline [']']) = some [] := by decide
  have unquoted' : unquote title.text = String.ofList title.text :=
    unquote_bodyText title.isPhrase.isTrimmed title.bodyText
  rw [bracketedHead, readId]
  simp [opened, afterLiteral, started, unquoted, run_append inside stops, closed, unquoted',
    Name.id]

/-- The id and the title of a block. -/
theorem firstHead_append (name : Name) (title : Option Phrase) :
    firstOf [bracketedHead, quotedHead, namedHead, textHead] (name.text ++ titleChars title) =
      some ((some name.id, title.map fun title => String.ofList title.text), []) := by
  cases title with
  | none =>
      rw [titleChars, List.append_nil, namedHead_append]
      rfl
  | some title => exact firstOf_of_some (bracketedHead_append name title)

/-- The line that opens a block. -/
theorem ofLine?_openingLine (name : Name) (title : Option Phrase) :
    ofLine? (openingLine name title) =
      some (some (.blockStart (some name.id)
        (title.map fun title => String.ofList title.text))) := by
  have leads := leads_openingLine name title
  have header : headerStatement (openingLine name title) = none :=
    headerStatement_of_none (afterCaselessWord_of_leads leads (by simp) (by decide))
      (afterCaselessWord_of_leads leads (by simp) (by decide))
  have noEnd : afterCaseless foldLetter "end".toList (openingLine name title) = none := by
    rw [openingLine_eq]
    rfl
  have blockEnd : blockEndStatement (openingLine name title) = none := by
    rw [blockEndStatement, noEnd]
    rfl
  have opened : afterCaselessWord "subgraph" (openingLine name title) =
      some (' ' :: (name.text ++ titleChars title)) := by
    rw [openingLine_eq]
    exact afterKeyword_append (by decide) (stops_cons (by decide))
  have skipped : skipInline (' ' :: (name.text ++ titleChars title)) =
      name.text ++ titleChars title := by
    obtain ⟨c, rest, text, word⟩ := name.head
    have space : Gap [' '] := by decide
    rw [text]
    exact skipInline_gap space (stops_cons (isInlineBlank_of_isAsciiWord word))
  have start : skipInline (openingLine name title) = openingLine name title := by
    obtain ⟨c, rest, text, word⟩ := (isLine_openingLine name title).head
    rw [text]
    exact skipInline_of_stops (stops_cons (isInlineBlank_of_isAsciiWord word))
  have head := skipped ▸ firstHead_append name title
  exact ofLine?_of_blockStart start header blockEnd (blockStartStatement_of_head opened head) rfl

theorem ofLine?_end : ofLine? "end".toList = some (some .blockEnd) := by
  decide +kernel

/-- The declaration is read as a header with the direction. -/
theorem ofLine?_declaration (diagram : Diagram) :
    ofLine? diagram.declaration = some (some (.header (some diagram.direction))) := by
  have checked : ∀ keyword ∈ ["flowchart", "graph"], ∀ direction ∈ directionWords,
      ofLine? (keyword.toList ++ ' ' :: direction.toList) =
        some (some (.header (some direction))) := by
    decide +kernel
  exact checked _ diagram.declares _ diagram.directs

/-! ### Statements -/

/-- The statements of an item. -/
def Item.statements : Item → List Statement
  | .chain links => [links.statement]
  | .block name title chains =>
    .blockStart (some name.id) (title.map fun title => String.ofList title.text) ::
      (chains.map Chain.statement ++ [.blockEnd])

/-- The statements of a diagram. -/
def Diagram.statements (diagram : Diagram) : List Statement :=
  .header (some diagram.direction) :: diagram.items.flatMap Item.statements

/-- A line that makes a statement. -/
def Makes (line : List Char) (statement : Statement) : Prop :=
  IsLine line ∧ ofLine? line = some (some statement)

/-- A line of a plain diagram is neither blank nor a comment. -/
theorem IsLine.isSilent {line : List Char} (isLine : IsLine line) :
    Source.isSilent line = false := by
  obtain ⟨c, rest, rfl, word⟩ := isLine.head
  exact isSilent_of_ne (ne_of_isMark word (by decide)) rest

theorem makes_chains (chains : List Chain) :
    List.Forall₂ Makes (chains.map Chain.chars) (chains.map Chain.statement) := by
  induction chains with
  | nil => exact .nil
  | cons links chains ih => exact .cons ⟨links.isLine, links.ofLine?_chars⟩ ih

/-- The lines of an item make its statements, one each. -/
theorem Item.makes (item : Item) : List.Forall₂ Makes item.lines item.statements := by
  cases item with
  | chain links => exact makes_chains [links]
  | block name title chains =>
      exact .cons ⟨isLine_openingLine name title, ofLine?_openingLine name title⟩
        (List.rel_append (makes_chains chains) (.cons ⟨isLine_end, ofLine?_end⟩ .nil))

/-- Each line of a diagram makes its statement. -/
theorem Diagram.makes (diagram : Diagram) :
    List.Forall₂ Makes diagram.lines diagram.statements := by
  refine .cons ⟨diagram.isLine_declaration, ofLine?_declaration diagram⟩ ?_
  induction diagram.items with
  | nil => exact .nil
  | cons item items ih =>
      rw [List.flatMap_cons, List.flatMap_cons]
      exact List.rel_append item.makes ih

/-- Lines that make statements one by one make them together. -/
theorem statementsOf_of_makes {lines : List (List Char)} {statements : List Statement}
    (made : List.Forall₂ Makes lines statements) : Source.statementsOf lines = statements := by
  induction made with
  | nil => rfl
  | cons here _ ih => rw [statementsOf_cons here.1.isSilent here.2, ih]

/-- Every line that makes a statement can be read. -/
theorem readable_of_makes {lines : List (List Char)} {statements : List Statement}
    (made : List.Forall₂ Makes lines statements) : ∀ line ∈ lines, Source.Readable line := by
  induction made with
  | nil => simp
  | cons here _ ih =>
      intro line member
      rcases List.mem_cons.mp member with rfl | member
      · exact Or.inr (by rw [here.2]; rfl)
      · exact ih line member

/-! ### Loading -/

/-- A run over two parts is a run over the second one after one over the first. -/
theorem run_append (loading : Loading) (left right : List Statement) :
    loading.run (left ++ right) = (loading.run left).bind fun next => next.run right := by
  induction left generalizing loading with
  | nil => rfl
  | cons statement left ih =>
      rw [List.cons_append, Loading.run, Loading.run]
      cases loading.apply 0 statement with
      | ok next => exact ih next
      | error cause => rfl

/-- Chains are accepted everywhere and open no block. -/
theorem run_chains (loading : Loading) (chains : List Chain) :
    ∃ after, loading.run (chains.map Chain.statement) = some after ∧
      after.openBlocks = loading.openBlocks := by
  induction chains generalizing loading with
  | nil => exact ⟨loading, rfl, rfl⟩
  | cons links chains ih =>
      obtain ⟨after, ran, same⟩ := ih
        ((loading.mentionAll [links.first.ref]).addHops [links.first.ref]
          (links.steps.map Step.hop))
      refine ⟨after, ran, same.trans ?_⟩
      rw [Loading.openBlocks_addHops, Loading.openBlocks_mentionAll]

/-- An item leaves no block open that was not open before. -/
theorem Item.run_statements (item : Item) (loading : Loading) :
    ∃ after, loading.run item.statements = some after ∧
      after.openBlocks = loading.openBlocks := by
  cases item with
  | chain links => exact run_chains loading [links]
  | block name title chains =>
      obtain ⟨inside, ran, same⟩ := run_chains
        (loading.openBlock (some name.id) (title.map fun title => String.ofList title.text)) chains
      have opened : inside.openBlocks = loading.blocks.length :: loading.openBlocks := same
      refine ⟨{ inside with openBlocks := loading.openBlocks }, ?_, rfl⟩
      have closes : inside.run [.blockEnd] =
          some { inside with openBlocks := loading.openBlocks } := by
        simp [Loading.run, Loading.apply, opened]
      have whole := run_append (loading.openBlock (some name.id)
        (title.map fun title => String.ofList title.text)) (chains.map Chain.statement) [.blockEnd]
      rw [ran] at whole
      exact whole.trans closes

/-- Items are loaded without an error, and the blocks that they open are closed again. -/
theorem run_items (loading : Loading) (items : List Item) :
    ∃ after, loading.run (items.flatMap Item.statements) = some after ∧
      after.openBlocks = loading.openBlocks := by
  induction items generalizing loading with
  | nil => exact ⟨loading, rfl, rfl⟩
  | cons item items ih =>
      obtain ⟨next, here, same⟩ := item.run_statements loading
      obtain ⟨after, ran, rest⟩ := ih next
      refine ⟨after, ?_, rest.trans same⟩
      rw [List.flatMap_cons, run_append, here]
      exact ran

/-- A declaration and statements that close every block they open are accepted, and read for what
they mean, if each stands on a plain line. -/
theorem load_of_makes {lines : List (List Char)} {direction : Option String}
    {body : List Statement} {after : Loading}
    (made : List.Forall₂ Makes lines (.header direction :: body))
    (ran : ({ direction } : Loading).run body = some after) (closed : after.openBlocks = []) :
    Draft.load (String.ofList (['\n'].intercalate lines)) =
      .ok (Draft.meaning (.header direction :: body)) := by
  have nonempty : lines ≠ [] := by
    rintro rfl
    cases made
  have isLine : ∀ line ∈ lines, IsLine line := by
    intro line member
    obtain ⟨position, inside, rfl⟩ := List.mem_iff_getElem.mp member
    exact (List.forall₂_iff_get.mp made).2 position inside
      (made.length_eq ▸ inside) |>.1
  have split : Source.trimmedLines (String.ofList (['\n'].intercalate lines)).toList = lines := by
    rw [String.toList_ofList]
    exact trimmedLines_intercalate nonempty isLine
  have read := Loading.run_hasRead (Loading.hasRead_declaration direction) ran
  rw [load_eq_ok_iff]
  refine ⟨?_, direction, body, after, ?_, ran, closed, (toDraft_eq_meaning read).symm⟩
  · rw [split]
    exact readable_of_makes made
  · rw [Source.statements, split, statementsOf_of_makes made]

/-- The strict reader accepts a plain diagram, and reads what its statements mean. -/
theorem load_text (diagram : Diagram) :
    Draft.load diagram.text = .ok (Draft.meaning diagram.statements) := by
  obtain ⟨after, ran, closed⟩ :=
    run_items { direction := some diagram.direction } diagram.items
  exact load_of_makes diagram.makes ran closed

end Flowchart.Plain
