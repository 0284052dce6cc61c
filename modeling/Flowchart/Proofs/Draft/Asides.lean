import Flowchart.Proofs.Draft.Accepted
import Flowchart.Proofs.Scan.Entries
import Flowchart.Proofs.Source.Insertion
import Flowchart.Proofs.Statement.Ignored

/-!
Lines about styling and interaction, put in between the lines of a diagram.

The strict reader passes over such a line wherever it stands after the declaration. The forgiving
reader knows no such lines and searches them like any other. It finds the same diagram whatever
the lines around it are if and only if it finds neither a node with brackets nor a link there, and
the line ends no directive: a directive may begin on an earlier line, and takes everything up to
its end away.

Main definitions: `Source.withLine`, `Source.Divided`. Main statement: `drafts_aside`.
-/

namespace Flowchart

open Flowchart.Text
open Flowchart.Source (Readable Unmarked isDeclaration isSilent statementsOf trimmedLines)

/-! ### Sources with a line put in -/

namespace Source

/-- The source of some lines, a new one, and further lines. -/
def withLine (before : List (List Char)) (line : List Char) (after : List (List Char)) : String :=
  String.ofList (['\n'].intercalate (before ++ line :: after))

theorem cleanChars_of_clean {source : String} (same : clean source = source) :
    cleanChars source.toList = source.toList := by
  have chars := congrArg String.toList same
  rwa [clean, String.toList_ofList] at chars

/-- One of the two readers takes a line for the declaration of a diagram. -/
def Declares (line : List Char) : Prop :=
  isDeclaration line = true ∨
    ∃ direction, Statement.ofLine? (trim line) = some (some (.header direction))

/-- The lines of a source in two parts, the first of which declares the diagram. -/
structure Divided (source : String) (before after : List (List Char)) : Prop where
  lines : splitLines source.toList = before ++ after
  declared : ∃ line ∈ before, Declares line

end Source

open Source (Declares Divided withLine)

/-! ### Declarations -/

namespace Statement

/-- A comment makes no statement. -/
theorem ofLine?_comment (rest : List Char) : ofLine? ('%' :: rest) = none := by
  rfl

/-- A line that says nothing holds only blanks and semicolons. -/
theorem mem_of_ofLine?_nothing {line : List Char} (read : ofLine? line = some none) :
    ∀ c ∈ skipInline line, isInlineBlank c = true ∨ c = ';' := by
  simp only [ofLine?] at read
  split at read
  case h_1 => split at read <;> cases read
  case h_2 =>
    split at read
    case isTrue ended => exact mem_of_atLineEnd ended
    case isFalse => cases read

/-- What starts with neither a blank nor a semicolon says something, or cannot be read. -/
theorem exists_of_isSome_ofLine? {c : Char} {rest : List Char} (visible : isInlineBlank c = false)
    (semicolon : c ≠ ';') (readable : (ofLine? (c :: rest)).isSome = true) :
    ∃ statement, ofLine? (c :: rest) = some (some statement) := by
  obtain ⟨made, read⟩ := Option.isSome_iff_exists.mp readable
  cases made with
  | some statement => exact ⟨statement, read⟩
  | none =>
      have member : c ∈ skipInline (c :: rest) := by
        rw [skipInline_of_stops (stops_cons visible)]
        exact List.mem_cons_self
      rcases mem_of_ofLine?_nothing read c member with blank | same
      · exact absurd blank (by simp [visible])
      · exact absurd same semicolon

end Statement

/-- A declaration starts neither like a comment nor like a line that says nothing. -/
theorem head_declaration {line : List Char} (declares : isDeclaration line = true) :
    ∃ c rest, trim line = c :: rest ∧ c ≠ '%' ∧ c ≠ ';' ∧ isInlineBlank c = false := by
  obtain ⟨c, rest, starts, letter⟩ := Scan.head_trim_of_isDeclaration declares
  refine ⟨c, rest, starts, ?_, ?_, ?_⟩
  · rintro rfl
    revert letter
    decide
  · rintro rfl
    revert letter
    decide
  · rw [Bool.eq_false_iff]
    intro blank
    rw [foldLetterDotted_of_isBlank (isBlank_of_isInlineBlank blank)] at letter
    rcases letter with rfl | rfl <;> exact absurd blank (by decide)

/-- A declaration that can be read makes a statement. -/
theorem makes_of_declares {line : List Char} (declares : Declares line)
    (readable : Readable (trim line)) :
    isSilent (trim line) = false ∧
      ∃ statement, Statement.ofLine? (trim line) = some (some statement) := by
  rcases declares with declares | ⟨direction, read⟩
  · obtain ⟨c, rest, starts, percent, semicolon, visible⟩ := head_declaration declares
    rw [starts] at readable ⊢
    have spoken : isSilent (c :: rest) = false := isSilent_of_ne percent rest
    have isRead := readable.resolve_left (by simp [spoken])
    exact ⟨spoken, Statement.exists_of_isSome_ofLine? visible semicolon isRead⟩
  · refine ⟨?_, .header direction, read⟩
    cases starts : trim line with
    | nil =>
        rw [starts] at read
        cases read
    | cons c rest =>
        have spoken : c ≠ '%' := by
          rintro rfl
          rw [starts, Statement.ofLine?_comment] at read
          cases read
        exact isSilent_of_ne spoken rest

/-! ### Ignored lines -/

theorem isSilent_ignored {line : List Char}
    (ignored : Statement.ofLine? line = some (some .ignored)) : isSilent (trim line) = false := by
  obtain ⟨word, rest, listed, trimmed, _⟩ := Statement.trim_ignored ignored
  obtain ⟨c, more, starts, _, foreign⟩ := Statement.head_ignored listed
  have other : c ≠ '%' := by
    rintro rfl
    exact foreign (by decide)
  rw [trimmed, starts]
  exact isSilent_of_ne other (more ++ rest)

/-! ### The strict reader -/

/-- An ignored statement has no effect on the ones after it. -/
theorem Loading.run_ignored (loading : Loading) (before after : List Statement) :
    loading.run (before ++ .ignored :: after) = loading.run (before ++ after) := by
  induction before generalizing loading with
  | nil => rfl
  | cons statement before ih =>
      rw [List.cons_append, List.cons_append, run, run]
      cases loading.apply 0 statement with
      | ok next => exact ih next
      | error cause => rfl

section Lines

variable {source : String} {line : List Char} {before after : List (List Char)}

theorem Source.Divided.whole (divided : Divided source before after) :
    ∀ line ∈ before ++ after, '\n' ∉ line := by
  rw [← divided.lines]
  exact Source.whole_splitLines source.toList

/-- The lines of a source without the blanks around them. -/
theorem Source.Divided.trimmedLines_eq (divided : Divided source before after) :
    trimmedLines source.toList = before.map trim ++ after.map trim := by
  rw [trimmedLines, divided.lines, List.map_append]

/-- The lines of a source with a new one. -/
theorem Source.Divided.trimmedLines_withLine (divided : Divided source before after)
    (whole : '\n' ∉ line) :
    trimmedLines (withLine before line after).toList =
      before.map trim ++ trim line :: after.map trim := by
  obtain ⟨wholeBefore, wholeAfter⟩ := List.forall_mem_append.mp divided.whole
  rw [withLine, String.toList_ofList, Source.trimmedLines_intercalate (by simp)
    (List.forall_mem_append.mpr ⟨wholeBefore, List.forall_mem_cons.mpr ⟨whole, wholeAfter⟩⟩)]
  simp

/-- Whatever is read strictly is read in the same way with an ignored line after the
declaration. -/
theorem load_withLine (ignored : Statement.ofLine? line = some (some .ignored)) {draft : Draft}
    (divided : Divided source before after) (loaded : Draft.load source = .ok draft) :
    Draft.load (withLine before line after) = .ok draft := by
  obtain ⟨readable, direction, body, loading, made, ran, closed, rfl⟩ := load_eq_ok_iff.mp loaded
  have whole := Statement.whole_ignoredText (Statement.ofLine?_eq_ignored_iff.mp ignored)
  have here := Statement.ofLine?_trim_ignored ignored
  have lines := divided.trimmedLines_withLine whole
  rw [divided.trimmedLines_eq] at readable
  obtain ⟨readableBefore, readableAfter⟩ := List.forall_mem_append.mp readable
  rw [Source.statements, divided.trimmedLines_eq, statementsOf_append] at made
  -- The declaration is one of the statements before the new line, and therefore the first.
  obtain ⟨declaration, listed, declares⟩ := divided.declared
  have declared := List.mem_map_of_mem (f := trim) listed
  obtain ⟨spoken, statement, read⟩ := makes_of_declares declares (readableBefore _ declared)
  have member : statement ∈ statementsOf (before.map trim) :=
    List.mem_filterMap.mpr ⟨trim declaration, List.mem_filter.mpr ⟨declared, by simp [spoken]⟩,
      by rw [read]; rfl⟩
  cases split : statementsOf (before.map trim) with
  | nil =>
      rw [split] at member
      cases member
  | cons first front =>
      rw [split, List.cons_append] at made
      obtain ⟨rfl, rfl⟩ := List.cons.inj made
      apply load_eq_ok_iff.mpr
      constructor
      · rw [lines, List.forall_mem_append, List.forall_mem_cons]
        exact ⟨readableBefore, Or.inr (by rw [here]; rfl), readableAfter⟩
      · refine ⟨direction, front ++ .ignored :: statementsOf (after.map trim), loading, ?_, ?_,
          closed, rfl⟩
        · rw [Source.statements, lines, statementsOf_append,
            statementsOf_cons (isSilent_ignored ignored) here, split, List.cons_append]
        · rw [Loading.run_ignored]
          exact ran

end Lines

/-! ### The forgiving reader -/

namespace Scan

open Flowchart.Plain (blockOfLine?_of_none declaredVertex isDeclaration_of_none)

section Lines

variable {line : List Char}

/-- No keyword of another kind of line stands at the front of an ignored line. -/
theorem afterCaseless_trim_ignored (ignored : Statement.ofLine? line = some (some .ignored)) :
    ∀ keyword ∈ ["flowchart", "graph", "end", "subgraph"],
      afterCaseless foldLetterDotted keyword.toList (trim line) = none := by
  obtain ⟨word, rest, listed, trimmed, _⟩ := Statement.trim_ignored ignored
  intro keyword other
  rw [trimmed]
  exact (Statement.afterCaseless_ignored listed rest other).2

theorem isDeclaration_ignored (ignored : Statement.ofLine? line = some (some .ignored)) :
    isDeclaration line = false := by
  have other := afterCaseless_trim_ignored ignored
  apply isDeclaration_of_none
  intro keyword listed
  have longer : ["flowchart", "graph"] ⊆ ["flowchart", "graph", "end", "subgraph"] := by decide
  rw [Source.afterKeyword, other keyword (longer listed)]
  rfl

/-- The forgiving reader takes an ignored line for one of nodes and links. -/
theorem isBodyLine_ignored (ignored : Statement.ofLine? line = some (some .ignored)) :
    isBodyLine (trim line) = true := by
  have undeclared := isDeclaration_ignored (Statement.ofLine?_trim_ignored ignored)
  have other := afterCaseless_trim_ignored ignored
  have unopened : blockOfLine? (trim line) = none := by
    apply blockOfLine?_of_none
    rw [afterWordAndBlanks, other "subgraph" (by simp)]
    rfl
  have unclosed : closesBlock (trim line) = false := by
    rw [closesBlock, other "end" (by simp)]
    rfl
  exact isBodyLine_of_spoken (isSilent_ignored ignored) undeclared unopened unclosed

/-- A line of nodes and links on which nothing is found leaves everything as it is. -/
theorem scanLine_of_nothing (body : isBodyLine line = true) (bare : declarations line = [])
    (unlinked : connections line = []) (blockIds : List String) (state : Scanning) :
    scanLine blockIds state line = state := by
  obtain ⟨none, links⟩ := drawn_of_undeclared body bare
  rw [unlinked, List.map_nil] at links
  have nothing : entered line = [] := by
    rw [entered, none, links]
    rfl
  rw [scanLine_of_isBodyLine body, nothing, links, List.append_nil]
  rfl

theorem blockOfLine?_ignored (ignored : Statement.ofLine? line = some (some .ignored)) :
    blockOfLine? (trim line) = none :=
  blockOfLine?_of_isBodyLine (isBodyLine_ignored ignored)

/-- A line that neither opens a block nor has any effect can be left out. -/
theorem scanLines_insert (unopened : blockOfLine? line = none)
    (idle : ∀ blockIds state, scanLine blockIds state line = state)
    (before after : List (List Char)) :
    scanLines (before ++ line :: after) = scanLines (before ++ after) := by
  have blocks : (before ++ line :: after).filterMap blockOfLine? =
      (before ++ after).filterMap blockOfLine? := by
    rw [List.filterMap_append, List.filterMap_append, List.filterMap_cons_none unopened]
  rw [scanLines, scanLines, blocks, List.foldl_append, List.foldl_append, List.foldl_cons, idle]

end Lines

section Sources

variable {source : String} {line : List Char} {before after : List (List Char)}

theorem insertable_ignored (ignored : Statement.ofLine? line = some (some .ignored))
    (unmarked : Unmarked line) (unclosed : ¬ "\x7d%%".toList <:+: line) :
    Source.Insertable line := by
  have written := Statement.ofLine?_eq_ignored_iff.mp ignored
  have whole := Statement.whole_ignoredText written
  refine { unmarked with whole := whole, unclosed := unclosed, leading := ?_ }
  cases written with
  | @line lead rest word blank listed stops _ =>
      obtain ⟨c, more, starts, visible, foreign⟩ := Statement.head_ignored listed
      refine ⟨c, more ++ rest, ?_, fun member => foreign (List.mem_cons_of_mem _ member)⟩
      rw [starts]
      exact dropWhile_append_stops (isBlank_of_gap blank) (stops_cons visible)

theorem ne_nil_of_declares {line : List Char} (declares : Declares line) : line ≠ [] := by
  rintro rfl
  rcases declares with declares | ⟨direction, read⟩
  · cases declares
  · cases read

/-- The lines of a cleaned source with a new one, as the forgiving reader goes through them. -/
theorem scannedLines_withLine (same : Source.clean source = source)
    (divided : Divided source before after) (insertable : Source.Insertable line) :
    scannedLines (withLine before line after) = before.map trim ++ trim line :: after.map trim := by
  obtain ⟨first, listed, declares⟩ := divided.declared
  rw [scannedLines, withLine, String.toList_ofList,
    Source.trimmedLines_insert (Source.cleanChars_of_clean same) divided.lines
      ⟨first, listed, ne_nil_of_declares declares⟩ insertable]
  simp

theorem scan_congr {other : String}
    (same : scanLines (scannedLines source) = scanLines (scannedLines other)) :
    Draft.scan source = Draft.scan other := by
  rw [scannedLines, scannedLines] at same
  rw [Draft.scan, Draft.scan, same]

/-- An ignored line on which nothing is found leaves what is found elsewhere as it is. -/
theorem scan_withLine (ignored : Statement.ofLine? line = some (some .ignored))
    (unmarked : Unmarked line) (unclosed : ¬ "\x7d%%".toList <:+: line)
    (bare : declarations (trim line) = []) (unlinked : connections (trim line) = [])
    (same : Source.clean source = source) (divided : Divided source before after) :
    Draft.scan (withLine before line after) = Draft.scan source := by
  have insertable := insertable_ignored ignored unmarked unclosed
  have lines : scannedLines source = before.map trim ++ after.map trim := by
    rw [scannedLines, Source.cleanChars_of_clean same, divided.trimmedLines_eq]
  apply scan_congr
  rw [scannedLines_withLine same divided insertable, lines]
  exact scanLines_insert (blockOfLine?_ignored ignored)
    (scanLine_of_nothing (isBodyLine_ignored ignored) bare unlinked) _ _

end Sources

/-! ### Lines that do show -/

section Showing

variable {line : List Char}

/-- A diagram that consists of its declaration only. -/
def bareSource : String :=
  "flowchart TD"

theorem clean_bareSource : Source.clean bareSource = bareSource := by
  decide +kernel

theorem divided_bareSource : Divided bareSource [bareSource.toList] [] where
  lines := by decide
  declared := ⟨_, List.mem_singleton_self _, Or.inl (by decide)⟩

/-- Whatever is found on an ignored line shows in a diagram that is empty otherwise. -/
theorem nothing_of_scan_bareSource (ignored : Statement.ofLine? line = some (some .ignored))
    (insertable : Source.Insertable line)
    (same : Draft.scan (withLine [bareSource.toList] line []) = Draft.scan bareSource) :
    declarations (trim line) = [] ∧ connections (trim line) = [] := by
  have body := isBodyLine_ignored ignored
  have bareLine : entered (trim bareSource.toList) = [] ∧ drawn (trim bareSource.toList) = [] := by
    have other : isBodyLine (trim bareSource.toList) = false := by decide +kernel
    exact ⟨entered_of_not_isBodyLine other, by simp [drawn, other]⟩
  have empty : Draft.scan bareSource = { direction := some "TD" } := by decide +kernel
  have noBlocks : Draft.blockIds { direction := some "TD" } = [] := rfl
  have lines := scannedLines_withLine clean_bareSource divided_bareSource insertable
  have vertices := vertices_scan (withLine [bareSource.toList] line [])
  have arcs := arcs_scan (withLine [bareSource.toList] line [])
  rw [same, empty, lines] at vertices arcs
  simp only [List.map_cons, List.map_nil, List.singleton_append, List.flatMap_cons,
    List.flatMap_nil, bareLine.1, bareLine.2, noBlocks, List.nil_append,
    List.append_nil] at vertices arcs
  have unentered : ∀ vertex, vertex ∉ entered (trim line) := by
    intro vertex member
    have kept := mem_map_firstByKey.mpr
      ⟨List.mem_map_of_mem (f := Vertex.id) member, List.not_mem_nil (a := vertex.id)⟩
    rw [← vertices] at kept
    cases kept
  have bare : declarations (trim line) = [] := by
    rw [List.eq_nil_iff_forall_not_mem]
    intro declaration found
    apply unentered (declaredVertex declaration)
    rw [entered, declared, if_pos body]
    exact List.mem_append_left _ (List.mem_map_of_mem found)
  refine ⟨bare, ?_⟩
  rw [(drawn_of_undeclared body bare).2] at arcs
  exact List.map_eq_nil_iff.mp arcs.symm

/-- A diagram whose lines after the first stand behind the front of a directive. -/
def hidingSource (hidden : List Char) : String :=
  String.ofList ("flowchart\n".toList ++ ("%%\x7binit:".toList ++ hidden))

theorem afterDirective_hidden {hidden : List Char} (free : '\x7d' ∉ hidden) (line : List Char) :
    Source.afterDirective ("%%\x7binit:".toList ++ (hidden ++ line)) =
      afterFirst "\x7d%%".toList line :=
  have read : Source.afterDirective ("%%\x7binit:".toList ++ (hidden ++ line)) =
      afterFirst "\x7d%%".toList (hidden ++ line) := rfl
  read.trans (afterFirst_append free line)

/-- The end of a directive on a new line takes all hidden lines away. -/
theorem cleanChars_hidingSource {rest hidden : List Char} (fenceless : '\x60' ∉ hidden ++ line)
    (free : '\x7d' ∉ hidden) (closed : afterFirst "\x7d%%".toList line = some rest) :
    Source.cleanChars ((hidingSource hidden).toList ++ '\n' :: line) =
      trim (normalizeLineEnds (breaksToSpaces ("flowchart\n".toList ++
        replaceAll Source.afterDirective [] rest))) := by
  have spelled : (hidingSource hidden).toList ++ '\n' :: line =
      "flowchart\n".toList ++ ("%%\x7binit:".toList ++ ((hidden ++ ['\n']) ++ line)) := by
    have split : ∀ front opening : List Char, (front ++ (opening ++ hidden)) ++ '\n' :: line =
        front ++ (opening ++ ((hidden ++ ['\n']) ++ line)) := by simp
    exact (congrArg (· ++ '\n' :: line) String.toList_ofList).trans (split _ _)
  have unfenced : '\x60' ∉ "flowchart\n".toList ++
      ("%%\x7binit:".toList ++ ((hidden ++ ['\n']) ++ line)) := by
    simp only [List.mem_append, not_or] at fenceless ⊢
    exact ⟨by decide, by decide, ⟨fenceless.1, by decide⟩, fenceless.2⟩
  have found : Source.afterDirective ("%%\x7binit:".toList ++ ((hidden ++ ['\n']) ++ line)) =
      some rest := by
    rw [← closed]
    apply afterDirective_hidden
    rw [List.mem_append, not_or]
    exact ⟨free, by decide⟩
  have front : '%' ∉ "flowchart\n".toList := by decide
  have replaced : replaceAll Source.afterDirective []
      ("%%\x7binit:".toList ++ ((hidden ++ ['\n']) ++ line)) =
        replaceAll Source.afterDirective [] rest := by
    have shorter := Source.length_afterDirective found
    rw [replaceAll, replaceAll, replaceAllWith_of_some _ found shorter, List.nil_append]
  have kept : ∀ text, replaceAll Source.afterDirective [] ("flowchart\n".toList ++ text) =
      "flowchart\n".toList ++ replaceAll Source.afterDirective [] text :=
    replaceAllWith_append _ fun c member =>
      Plain.afterDirective_of_ne fun same => front (same ▸ member)
  rw [Source.cleanChars, spelled, Plain.dropFences_of_notMem unfenced, kept, replaced]

theorem toList_withLine_last (source : String) (line : List Char) :
    (withLine (splitLines source.toList) line []).toList = source.toList ++ '\n' :: line := by
  rw [withLine, String.toList_ofList, Source.intercalate_append (by simp [splitLines]),
    Source.intercalate_splitLines, List.flatMap_singleton]

/-- The hidden lines of the two diagrams that are compared. -/
def hiddenDeclarations : List (List Char) :=
  ["\ngraph TD".toList, "\ngraph LR".toList]

theorem divided_hidingSource : ∀ hidden ∈ hiddenDeclarations,
    Source.clean (hidingSource hidden) = hidingSource hidden ∧
      Divided (hidingSource hidden) (splitLines (hidingSource hidden).toList) [] := by
  have checked : ∀ hidden ∈ hiddenDeclarations,
      Source.clean (hidingSource hidden) = hidingSource hidden ∧
        "flowchart".toList ∈ splitLines (hidingSource hidden).toList := by
    decide +kernel
  intro hidden listed
  obtain ⟨clean, declared⟩ := checked hidden listed
  exact ⟨clean, (List.append_nil _).symm, _, declared, Or.inl (by decide)⟩

/-- A line that ends a directive does not leave the two hidden declarations alone: with it, both
diagrams are the same. -/
theorem unclosed_of_scan_hidingSource (unmarked : Unmarked line)
    (same : ∀ hidden ∈ hiddenDeclarations,
      Draft.scan (withLine (splitLines (hidingSource hidden).toList) line []) =
        Draft.scan (hidingSource hidden)) :
    ¬ "\x7d%%".toList <:+: line := by
  have visible : "\x7d%%".toList ≠ [] := by decide
  cases closed : afterFirst "\x7d%%".toList line with
  | none => exact (absent_iff_not_isInfix visible).mp ((afterFirst_eq_none_iff visible).mp closed)
  | some rest =>
      exfalso
      have free : ∀ hidden ∈ hiddenDeclarations, '\x60' ∉ hidden ∧ '\x7d' ∉ hidden := by decide
      have taken : ∀ hidden ∈ hiddenDeclarations,
          Source.cleanChars (withLine (splitLines (hidingSource hidden).toList) line []).toList =
            trim (normalizeLineEnds (breaksToSpaces ("flowchart\n".toList ++
              replaceAll Source.afterDirective [] rest))) := by
        intro hidden listed
        obtain ⟨fenceless, unended⟩ := free hidden listed
        rw [toList_withLine_last]
        apply cleanChars_hidingSource _ unended closed
        rw [List.mem_append, not_or]
        exact ⟨fenceless, unmarked.fenceless⟩
      have first : "\ngraph TD".toList ∈ hiddenDeclarations := by decide
      have second : "\ngraph LR".toList ∈ hiddenDeclarations := by decide
      have equal : Draft.scan (hidingSource "\ngraph TD".toList) =
          Draft.scan (hidingSource "\ngraph LR".toList) := by
        rw [← same _ first, ← same _ second]
        apply scan_congr
        rw [scannedLines, scannedLines, taken _ first, taken _ second]
      exact absurd equal (by decide +kernel)

end Showing

end Scan

/-! ### Both readers -/

/-- An ignored line after the declaration has no effect on what is read strictly. A diagram is read
forgivingly in the same way with the line, whatever its other lines are, exactly if nothing is found
on the line and it ends no directive. -/
theorem drafts_aside {line : List Char}
    (ignored : Statement.ofLine? line = some (some .ignored)) :
    (∀ source before after draft, Divided source before after → Draft.load source = .ok draft →
        Draft.load (withLine before line after) = .ok draft) ∧
      (Unmarked line →
        ((∀ source before after, Source.clean source = source → Divided source before after →
            Draft.scan (withLine before line after) = Draft.scan source) ↔
          ¬ "\x7d%%".toList <:+: line ∧ Scan.declarations (trim line) = [] ∧
            Scan.connections (trim line) = [])) := by
  constructor
  · intro source before after draft divided loaded
    exact load_withLine ignored divided loaded
  · intro unmarked
    constructor
    · intro same
      have unclosed := Scan.unclosed_of_scan_hidingSource unmarked fun hidden listed =>
        same _ _ _ (Scan.divided_hidingSource hidden listed).1
          (Scan.divided_hidingSource hidden listed).2
      have insertable := Scan.insertable_ignored ignored unmarked unclosed
      have alone := same _ _ _ Scan.clean_bareSource Scan.divided_bareSource
      exact ⟨unclosed, Scan.nothing_of_scan_bareSource ignored insertable alone⟩
    · rintro ⟨unclosed, bare, unlinked⟩ source before after clean divided
      exact Scan.scan_withLine ignored unmarked unclosed bare unlinked clean divided

/-- A line about a link, as it may stand inside a block. -/
def linkStyling : List Char :=
  "  linkStyle 0 stroke:#f66,stroke-width:2px;".toList

theorem drafts_aside_linkStyling :
    Statement.ofLine? linkStyling = some (some .ignored) ∧ Unmarked linkStyling ∧
      ∃ before after, Divided nestedSource before after ∧ before.length = 3 ∧
        Draft.load (withLine before linkStyling after) = .ok nestedDraft ∧
          Draft.scan (withLine before linkStyling after) = Draft.scan nestedSource := by
  have ignored : Statement.ofLine? linkStyling = some (some .ignored) := by decide +kernel
  have unmarked : Unmarked linkStyling :=
    ⟨by decide +kernel, by decide +kernel, by decide +kernel, by decide +kernel⟩
  have declared : "graph TB".toList ∈ (splitLines nestedSource.toList).take 3 := by decide +kernel
  have divided : Divided nestedSource ((splitLines nestedSource.toList).take 3)
      ((splitLines nestedSource.toList).drop 3) :=
    ⟨(List.take_append_drop 3 _).symm, _, declared, Or.inl (by decide)⟩
  have loaded : Draft.load nestedSource = .ok nestedDraft := by decide +kernel
  have clean : Source.clean nestedSource = nestedSource := by decide +kernel
  have harmless : ¬ "\x7d%%".toList <:+: linkStyling ∧
      Scan.declarations (trim linkStyling) = [] ∧ Scan.connections (trim linkStyling) = [] := by
    decide +kernel
  refine ⟨ignored, unmarked, _, _, divided, by decide +kernel, ?_, ?_⟩
  · exact (drafts_aside ignored).1 _ _ _ _ divided loaded
  · exact ((drafts_aside ignored).2 unmarked).mpr harmless _ _ _ clean divided

/-- A line that gives a node a colour, with brackets around the numbers. -/
def colourStyling : List Char :=
  "style A fill:rgb(255,0,0)".toList

/-- A line about styling that ends a directive. -/
def directiveEnd : List Char :=
  "style A \x7d%%".toList

/-- A diagram with one link. -/
def linkSource : String :=
  "flowchart TD\nA --> B"

/-- A diagram with two links, the second of which stands behind the front of a directive. -/
def openedSource : String :=
  "flowchart TD\nA --> B %%\x7binit:\nC --> D"

/-- Two ignored lines that the forgiving reader does not pass over: one brings a node, the other
takes a link away. -/
theorem scan_stylings :
    (Statement.ofLine? colourStyling = some (some .ignored) ∧ Unmarked colourStyling ∧
      Source.clean linkSource = linkSource ∧
      Divided linkSource (splitLines linkSource.toList) [] ∧
      (Draft.scan linkSource).vertices = [⟨"A", none, none⟩, ⟨"B", none, none⟩] ∧
      (Draft.scan (withLine (splitLines linkSource.toList) colourStyling [])).vertices =
        [⟨"A", none, none⟩, ⟨"B", none, none⟩, ⟨"rgb", some "255,0,0", some "round"⟩]) ∧
    (Statement.ofLine? directiveEnd = some (some .ignored) ∧ Unmarked directiveEnd ∧
      Source.clean openedSource = openedSource ∧
      Divided openedSource (splitLines openedSource.toList) [] ∧
      (Draft.scan openedSource).arcs =
        [{ source := "A", target := "B" }, { source := "C", target := "D" }] ∧
      (Draft.scan (withLine (splitLines openedSource.toList) directiveEnd [])).arcs =
        [{ source := "A", target := "B" }]) := by
  have declares : Declares "flowchart TD".toList := Or.inl (by decide)
  have divided : ∀ source : String, "flowchart TD".toList ∈ splitLines source.toList →
      Divided source (splitLines source.toList) [] :=
    fun source first => ⟨(List.append_nil _).symm, _, first, declares⟩
  have unmarked : Unmarked colourStyling ∧ Unmarked directiveEnd :=
    ⟨⟨by decide +kernel, by decide +kernel, by decide +kernel, by decide +kernel⟩,
      ⟨by decide +kernel, by decide +kernel, by decide +kernel, by decide +kernel⟩⟩
  constructor
  · exact ⟨by decide +kernel, unmarked.1, by decide +kernel, divided _ (by decide +kernel),
      by decide +kernel, by decide +kernel⟩
  · exact ⟨by decide +kernel, unmarked.2, by decide +kernel, divided _ (by decide +kernel),
      by decide +kernel, by decide +kernel⟩

end Flowchart
