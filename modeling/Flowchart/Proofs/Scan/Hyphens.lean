import Flowchart.Proofs.Scan.Squares

/-!
Hyphenated ids, read strictly and forgivingly.

The strict reader takes words that hyphens join for one id. The forgiving reader knows words only:
it names a node with brackets by the last word of its id, and the node that an arrow leads to by the
first one. The two agree on an arrow between nodes in square brackets exactly if neither id holds a
hyphen.

Main definitions: `oneLine`, `strictSquares`, `foundSquares`. Main statement: `drafts_squareLine`.
-/

namespace Flowchart.Scan

open Flowchart.Text Flowchart.Notation Flowchart.Plain
open Flowchart.Source (isDeclaration)

/-! ### Diagrams of one line -/

/-- A declaration, and one line after it. -/
def oneLine (keyword direction : String) (line : List Char) : String :=
  String.ofList (['\n'].intercalate [keyword.toList ++ ' ' :: direction.toList, line])

section OneLine

variable {keyword direction : String} {line : List Char}

/-- The lines of such a diagram are read as they are written. -/
theorem scannedLines_oneLine (declaration : IsLine (keyword.toList ++ ' ' :: direction.toList))
    (isLine : IsLine line) :
    scannedLines (oneLine keyword direction line) =
      [keyword.toList ++ ' ' :: direction.toList, line] := by
  have lines : ∀ other ∈ [keyword.toList ++ ' ' :: direction.toList, line], IsLine other := by
    simpa using ⟨declaration, isLine⟩
  rw [scannedLines, oneLine, String.toList_ofList, cleanChars_intercalate (by simp) lines,
    trimmedLines_intercalate (by simp) lines]

/-- The forgiving reader finds the declared direction, and what the line enters and draws. -/
theorem scan_oneLine (declares : keyword ∈ ["flowchart", "graph"])
    (directs : direction ∈ Statement.directionWords) (isLine : IsLine line)
    (body : isBodyLine line = true) :
    Draft.scan (oneLine keyword direction line) =
      { direction := some direction
        vertices := firstByKey Vertex.id [] (entered line)
        arcs := drawn line
        blocks := [] } := by
  let header : Diagram := ⟨keyword, direction, [], declares, directs⟩
  obtain ⟨declared, named, unopened⟩ := header.declared
  have spoken := header.isLine_declaration.isSilent
  have lines := scannedLines_oneLine header.isLine_declaration isLine
  have only : OnlyBodyLine (oneLine keyword direction line) line := by
    refine ⟨[header.declaration], [], lines, ?_⟩
    intro other listed
    rw [List.mem_singleton.mp listed]
    simp [isBodyLine, declared]
  have blockIds : (Draft.scan (oneLine keyword direction line)).blockIds = [] := by
    have unopenedLine := blockOfLine?_of_isBodyLine body
    rw [blockIds_scan, lines]
    simp only [List.filterMap_cons, unopenedLine, List.filterMap_nil]
    rw [Diagram.declaration] at unopened
    rw [unopened]
    rfl
  have directed : (Draft.scan (oneLine keyword direction line)).direction = some direction := by
    have here : direction? (keyword.toList ++ ' ' :: direction.toList) = some direction := by
      rw [Diagram.declaration] at spoken declared named
      rw [direction?, spoken, declared]
      exact named
    rw [direction_scan, lines, List.findSome?_cons, here]
  obtain ⟨arcs, vertices⟩ := scan_of_onlyBodyLine only
  rw [blockIds] at vertices
  have blocks : (Draft.scan (oneLine keyword direction line)).blocks = [] :=
    List.map_eq_nil_iff.mp blockIds
  calc Draft.scan (oneLine keyword direction line)
      = ⟨(Draft.scan (oneLine keyword direction line)).direction,
          (Draft.scan (oneLine keyword direction line)).vertices,
          (Draft.scan (oneLine keyword direction line)).arcs,
          (Draft.scan (oneLine keyword direction line)).blocks⟩ := rfl
    _ = ⟨some direction, firstByKey Vertex.id [] (entered line), drawn line, []⟩ := by
        rw [directed, vertices, arcs, blocks]

/-- The strict reader accepts the diagram if the line says something about nodes. -/
theorem load_oneLine (declares : keyword ∈ ["flowchart", "graph"])
    (directs : direction ∈ Statement.directionWords) (isLine : IsLine line)
    {first : List NodeRef} {hops : List Hop}
    (read : Statement.ofLine? line = some (some (.edges first hops))) :
    Draft.load (oneLine keyword direction line) =
      .ok (Draft.meaning [.header (some direction), .edges first hops]) := by
  let header : Diagram := ⟨keyword, direction, [], declares, directs⟩
  have made : List.Forall₂ Makes [keyword.toList ++ ' ' :: direction.toList, line]
      [.header (some direction), .edges first hops] :=
    .cons ⟨header.isLine_declaration, ofLine?_declaration header⟩ (.cons ⟨isLine, read⟩ .nil)
  apply load_of_makes made rfl
  rw [Loading.openBlocks_addHops, Loading.openBlocks_mentionAll]

end OneLine

/-! ### An arrow between nodes in square brackets -/

/-- What the strict reader finds on the line. -/
def squareStatement (source first target second : List Char) : Statement :=
  .edges [⟨String.ofList source, some (.square, String.ofList first)⟩]
    [⟨⟨.normal, true, none⟩, [⟨String.ofList target, some (.square, String.ofList second)⟩]⟩]

/-- The draft that the strict reader makes of the line. -/
def strictSquares (direction : String) (source first target second : List Char) : Draft where
  direction := some direction
  vertices := [captioned source first, captioned target second]
  arcs := [plainArc source target]

/-- The draft that the forgiving reader makes of the line: brackets follow the last words of the
ids, and the arrow leads from the last word of one to the first word of the other. -/
def foundSquares (direction : String) (source first target second : List Char) : Draft where
  direction := some direction
  vertices := firstByKey Vertex.id []
    [captioned (lastWord source) first, captioned (lastWord target) second,
      ⟨String.ofList (lastWord source), none, none⟩,
      ⟨String.ofList (firstWord target), none, none⟩]
  arcs := [plainArc (lastWord source) (firstWord target)]

section Squares

variable {source first target second : List Char}

theorem groupText_squareNode {id text : List Char} (isIdentifier : IsIdentifier id)
    (isPhrase : IsPhrase text) :
    GroupText [⟨String.ofList id, some (.square, String.ofList text)⟩] (squareNode id text) := by
  have bare : ∀ c ∈ text, c ∉ bracketMarks := by
    intro c member
    rcases isPhrase.chars c member with word | rfl
    · exact notMem_of_isMark word (by decide)
    · decide
  have body : BodyText text text := by
    have written := BodyText.bare gap_nil gap_nil bare
    simpa using written
  have written := RefText.shaped .square isIdentifier gap_nil isPhrase.isTrimmed body
  apply GroupText.one
  simpa [squareNode, Shape.opening, Shape.closing] using written

/-- The strict reader takes the ids of a line of two nodes as a whole. -/
theorem ofLine?_squareLine (isSource : IsIdentifier source) (isTarget : IsIdentifier target)
    (free : KeywordFree source) (isFirst : IsPhrase first) (isSecond : IsPhrase second) :
    Statement.ofLine? (squareLine source first target second) =
      some (some (squareStatement source first target second)) := by
  have space : Gap [' '] := by decide
  have chain := HopsText.cons space (.plain .normal true) space
    (groupText_squareNode isTarget isSecond) .nil
  have written := EdgesText.line gap_nil (groupText_squareNode isSource isFirst) (by simp) chain
    (.blank gap_nil)
  have spelled : squareLine source first target second =
      [] ++ (squareNode source first ++
        (([' '] ++ plainLink .normal true ++
          ([' '] ++ squareNode target second ++ [])) ++ [])) := by
    simp [squareLine, plainLink]
  rw [spelled]
  apply Statement.ofLine?_edgesText written
  rintro ref ⟨⟩
  rwa [String.toList_ofList]

theorem forall_squareLine (isSource : IsIdentifier source) (isTarget : IsIdentifier target)
    (property : Char → Prop) (marks : ∀ c ∈ "[]-> ".toList, property c)
    (word : ∀ c, isAsciiWord c = true → property c) (isFirst : ∀ c ∈ first, property c)
    (isSecond : ∀ c ∈ second, property c) :
    ∀ c ∈ squareLine source first target second, property c := by
  have among : ∀ text ∈ ["[", "] --> ", "]"], ∀ c ∈ text.toList, property c := by
    have listed : ∀ text ∈ ["[", "] --> ", "]"], text.toList ⊆ "[]-> ".toList := by decide
    exact fun text inside c member => marks c (listed text inside member)
  have hyphen := marks '-' (by decide)
  have spelled : squareLine source first target second = source ++ ("[".toList ++ (first ++
      ("] --> ".toList ++ (target ++ ("[".toList ++ (second ++ "]".toList)))))) := by
    simp [squareLine, squareNode]
  rw [spelled]
  exact forall_append (isSource.forall hyphen word) (forall_append (among "[" (by simp))
    (forall_append isFirst (forall_append (among "] --> " (by simp))
      (forall_append (isTarget.forall hyphen word) (forall_append (among "[" (by simp))
        (forall_append isSecond (among "]" (by simp))))))))

/-- Such a line is one that cleaning leaves alone. -/
theorem isLine_squareLine (isSource : IsIdentifier source) (isTarget : IsIdentifier target)
    (isFirst : IsPhrase first) (isSecond : IsPhrase second) :
    IsLine (squareLine source first target second) := by
  obtain ⟨starts, front, ends⟩ :=
    @ends_squareLine source first target second (areWords_of_isIdentifier isSource)
  refine ⟨?_, starts, front, ']', ends, by decide⟩
  exact forall_squareLine isSource isTarget (isPlain · = true) (List.all_eq_true.mp (by decide))
    (fun c word => by simp [isPlain, word]) (isPlain_of_isPhrase isFirst)
    (isPlain_of_isPhrase isSecond)

/-- Without pipes in the texts, nothing is masked. -/
theorem maskPipeLabels_squareLine (isSource : IsIdentifier source) (isTarget : IsIdentifier target)
    (isFirst : '|' ∉ first) (isSecond : '|' ∉ second) :
    maskPipeLabels (squareLine source first target second) =
      squareLine source first target second := by
  apply maskPipeLabels_of_free
  exact forall_squareLine isSource isTarget (· ≠ '|') (List.forall_mem_ne'.mpr (by decide))
    (fun c word => ne_of_isMark word (by decide)) (List.forall_mem_ne'.mpr isFirst)
    (List.forall_mem_ne'.mpr isSecond)

/-- A phrase may be searched for square brackets. -/
theorem isBody_of_isPhrase {text : List Char} (isPhrase : IsPhrase text) : IsBody text where
  nonempty := isPhrase.isTrimmed.nonempty
  chars := fun c member => (isPhrase.chars c member).imp_right Or.inl

/-- What the forgiving reader finds on the line. -/
theorem scan_squareLine {keyword direction : String} (declares : keyword ∈ ["flowchart", "graph"])
    (directs : direction ∈ Statement.directionWords) (isSource : IsIdentifier source)
    (isTarget : IsIdentifier target) (free : KeywordFree source)
    (acceptedSource : isReserved (String.ofList (lastWord source)) = false)
    (acceptedTarget : isReserved (String.ofList (lastWord target)) = false)
    (isFirst : IsPhrase first) (isSecond : IsPhrase second) :
    Draft.scan (oneLine keyword direction (squareLine source first target second)) =
      foundSquares direction source first target second := by
  have pipeFree : ∀ {text}, IsPhrase text → '|' ∉ text :=
    fun isPhrase => isPhrase.notMem (by decide) (by decide)
  have masked := maskPipeLabels_squareLine isSource isTarget (pipeFree isFirst) (pipeFree isSecond)
  obtain ⟨drawn, entered⟩ := drawn_of_squareLine isSource isTarget free
    (isBody_of_isPhrase isFirst) (isBody_of_isPhrase isSecond) rfl rfl masked acceptedSource
    acceptedTarget
  have firstText := unquoteOnce_phrase ⟨first, isFirst⟩
  have secondText := unquoteOnce_phrase ⟨second, isSecond⟩
  rw [scan_oneLine declares directs (isLine_squareLine isSource isTarget isFirst isSecond)
    (isBodyLine_squareLine isSource free), drawn, entered, squareVertex, squareVertex, firstText,
    secondText]
  rfl

/-- What the line says, if its nodes are two. -/
theorem meaning_squareStatement (distinct : source ≠ target) (direction : String) :
    Draft.meaning [.header (some direction), squareStatement source first target second] =
      strictSquares direction source first target second := by
  have other : String.ofList target ≠ String.ofList source :=
    mt String.ofList_inj.mp distinct.symm
  have mentions : Meaning.mentions
      [.header (some direction), squareStatement source first target second] =
        [⟨String.ofList source, some (.square, String.ofList first)⟩,
          ⟨String.ofList target, some (.square, String.ofList second)⟩] :=
    rfl
  rw [Draft.meaning, mentions]
  simp [strictSquares, captioned, plainArc, squareStatement, Meaning.direction, Meaning.ids,
    Meaning.vertex, Meaning.lastBody, Meaning.openings, Statement.opening?, Statement.arcs,
    Statement.chainArcs, List.eraseDups_cons, other, Stroke.name, Shape.name]

/-- What the strict reader makes of the line. -/
theorem load_squareLine {keyword direction : String} (declares : keyword ∈ ["flowchart", "graph"])
    (directs : direction ∈ Statement.directionWords) (isSource : IsIdentifier source)
    (isTarget : IsIdentifier target) (distinct : source ≠ target) (free : KeywordFree source)
    (isFirst : IsPhrase first) (isSecond : IsPhrase second) :
    Draft.load (oneLine keyword direction (squareLine source first target second)) =
      .ok (strictSquares direction source first target second) := by
  have read := ofLine?_squareLine isSource isTarget free isFirst isSecond
  rw [load_oneLine declares directs (isLine_squareLine isSource isTarget isFirst isSecond) read]
  exact congrArg Except.ok (meaning_squareStatement distinct direction)

/-! ### Where the readers agree -/

/-- An identifier without hyphens is a word, and any other is not. -/
theorem isWord_iff {id : List Char} (isIdentifier : IsIdentifier id) : IsWord id ↔ '-' ∉ id := by
  constructor
  · intro isWord member
    exact absurd (isWord.ascii '-' member) (by decide)
  · intro free
    cases isIdentifier with
    | word isWord => exact isWord
    | joined => exact absurd (by simp) free

/-- The last word of an identifier is the whole exactly if it has no hyphen. -/
theorem lastWord_eq_iff {id : List Char} (isIdentifier : IsIdentifier id) :
    lastWord id = id ↔ '-' ∉ id := by
  rw [← isWord_iff isIdentifier]
  constructor
  · intro same
    rw [← same]
    exact isWord_lastWord (areWords_of_isIdentifier isIdentifier)
  · exact fun isWord => (lead_word isWord).2

theorem firstWord_eq_iff {id : List Char} (isIdentifier : IsIdentifier id) :
    firstWord id = id ↔ '-' ∉ id := by
  rw [← isWord_iff isIdentifier]
  constructor
  · intro same
    rw [← same]
    exact (firstWord_split (areWords_of_isIdentifier isIdentifier)).1
  · exact firstWord_word

/-- The readers see the same nodes and the same arc exactly if no id holds a hyphen. -/
theorem strictSquares_eq_foundSquares_iff (isSource : IsIdentifier source)
    (isTarget : IsIdentifier target) (distinct : source ≠ target) (direction : String) :
    strictSquares direction source first target second =
        foundSquares direction source first target second ↔ '-' ∉ source ∧ '-' ∉ target := by
  constructor
  · intro same
    have arcs := congrArg Draft.arcs same
    simp only [strictSquares, foundSquares, plainArc, List.cons.injEq, Arc.mk.injEq, and_true]
      at arcs
    have left : lastWord source = source := (String.ofList_inj.mp arcs.1).symm
    have right : firstWord target = target := (String.ofList_inj.mp arcs.2).symm
    exact ⟨(lastWord_eq_iff isSource).mp left, (firstWord_eq_iff isTarget).mp right⟩
  · rintro ⟨sourceFree, targetFree⟩
    have other : String.ofList target ≠ String.ofList source :=
      mt String.ofList_inj.mp distinct.symm
    rw [strictSquares, foundSquares, (lastWord_eq_iff isSource).mpr sourceFree,
      (lastWord_eq_iff isTarget).mpr targetFree, (firstWord_eq_iff isTarget).mpr targetFree]
    simp [firstByKey, captioned, other]

end Squares

/-- An arrow between two nodes in square brackets, read strictly and forgivingly. The strict reader
finds both nodes under their ids and the arc between them. The forgiving reader finds the texts
under the last words of the ids, and the arc from the last word of the one id to the first word of
the other. Both drafts are the same exactly if no id holds a hyphen. -/
theorem drafts_squareLine {keyword direction : String} {source first target second : List Char}
    (declares : keyword ∈ ["flowchart", "graph"]) (directs : direction ∈ Statement.directionWords)
    (isSource : IsIdentifier source) (isTarget : IsIdentifier target) (distinct : source ≠ target)
    (free : KeywordFree source)
    (acceptedSource : isReserved (String.ofList (lastWord source)) = false)
    (acceptedTarget : isReserved (String.ofList (lastWord target)) = false)
    (isFirst : IsPhrase first) (isSecond : IsPhrase second) :
    Draft.load (oneLine keyword direction (squareLine source first target second)) =
        .ok (strictSquares direction source first target second) ∧
      Draft.scan (oneLine keyword direction (squareLine source first target second)) =
        foundSquares direction source first target second ∧
      (Draft.load (oneLine keyword direction (squareLine source first target second)) =
          .ok (Draft.scan (oneLine keyword direction (squareLine source first target second))) ↔
        '-' ∉ source ∧ '-' ∉ target) := by
  have loaded := load_squareLine declares directs isSource isTarget distinct free isFirst isSecond
  have found := scan_squareLine declares directs isSource isTarget free acceptedSource
    acceptedTarget isFirst isSecond
  refine ⟨loaded, found, ?_⟩
  rw [loaded, found, Except.ok.injEq]
  exact strictSquares_eq_foundSquares_iff isSource isTarget distinct direction

/-- A diagram whose node ids both hold a hyphen. -/
def hyphenedSource : String :=
  "flowchart TD\nweb-app[x] --> data-base[y]"

theorem hyphenedSource_eq : hyphenedSource =
    oneLine "flowchart" "TD" (squareLine "web-app".toList ['x'] "data-base".toList ['y']) := by
  decide +kernel

theorem isPhrase_letter {c : Char} (letter : c.isAlphanum = true) : IsPhrase [c] :=
  .word (by simp) (by simpa using letter)

theorem drafts_squareLine_hyphened :
    IsIdentifier "web-app".toList ∧ IsIdentifier "data-base".toList ∧ IsPhrase ['x'] ∧
      IsPhrase ['y'] ∧
      Draft.load hyphenedSource =
        .ok (strictSquares "TD" "web-app".toList ['x'] "data-base".toList ['y']) ∧
      Draft.scan hyphenedSource =
        foundSquares "TD" "web-app".toList ['x'] "data-base".toList ['y'] ∧
      Draft.load hyphenedSource ≠ .ok (Draft.scan hyphenedSource) := by
  have isSource : IsIdentifier "web-app".toList :=
    @IsIdentifier.hyphened "web".toList "app".toList (by decide) (by decide)
  have isTarget : IsIdentifier "data-base".toList :=
    @IsIdentifier.hyphened "data".toList "base".toList (by decide) (by decide)
  have isFirst : IsPhrase ['x'] := isPhrase_letter (by decide)
  have isSecond : IsPhrase ['y'] := isPhrase_letter (by decide)
  rw [hyphenedSource_eq]
  obtain ⟨loaded, found, agree⟩ := @drafts_squareLine "flowchart" "TD" _ _ _ _ (by simp)
    (by decide) isSource isTarget (by decide) (by decide) (by decide)
    (by decide) isFirst isSecond
  have hyphen : '-' ∈ "web-app".toList := by decide
  exact ⟨isSource, isTarget, isFirst, isSecond, loaded, found,
    fun same => (agree.mp same).1 hyphen⟩

/-- Hyphenated ids mean one pair of nodes to the strict reader, and three other nodes to the
forgiving one: the texts belong to the last words of the ids, and the arrow leads to the first word
of the second id, which has no text. -/
theorem drafts_hyphenedSource :
    Draft.load hyphenedSource = .ok {
        direction := some "TD"
        vertices := [⟨"web-app", some "x", some "square"⟩, ⟨"data-base", some "y", some "square"⟩]
        arcs := [⟨"web-app", "data-base", none, "normal", true⟩] } ∧
      Draft.scan hyphenedSource = {
        direction := some "TD"
        vertices := [⟨"app", some "x", some "square"⟩, ⟨"base", some "y", some "square"⟩,
          ⟨"data", none, none⟩]
        arcs := [⟨"app", "data", none, "normal", true⟩] } := by
  have isSource : IsIdentifier "web-app".toList :=
    @IsIdentifier.hyphened "web".toList "app".toList (by decide) (by decide)
  have isTarget : IsIdentifier "data-base".toList :=
    @IsIdentifier.hyphened "data".toList "base".toList (by decide) (by decide)
  have isFirst : IsPhrase ['x'] := isPhrase_letter (by decide)
  have isSecond : IsPhrase ['y'] := isPhrase_letter (by decide)
  rw [hyphenedSource_eq]
  constructor
  · rw [load_squareLine (by simp) (by decide) isSource isTarget
      (by decide) (by decide) isFirst isSecond]
    decide +kernel
  · rw [scan_squareLine (by simp) (by decide) isSource isTarget
      (by decide) (by decide) (by decide) isFirst isSecond]
    decide +kernel

end Flowchart.Scan
