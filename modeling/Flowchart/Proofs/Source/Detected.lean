import Mathlib.Data.List.Infix
import Flowchart.Source.Detect
import Flowchart.Proofs.Draft.Accepted
import Flowchart.Proofs.Source.Fences
import Flowchart.Proofs.Source.Settled
import Flowchart.Proofs.Statement.Ignored
import Flowchart.Proofs.Text.LineFronts

/-!
Accepted sources, and what they seem to be.

A source that is read strictly declares a diagram on one of the lines of the cleaned text. Whether
it is taken for a diagram is decided on the source as it stands, where the declaration may be
indented, or first come to the front of a line by cleaning. Where it stands at the front of a line
from the start, the source is taken for a diagram.

Main definitions: `KeepsFronts`, `DeclaresIndented`. Main statement: `detect_of_load`.
-/

namespace Flowchart.Source

open Flowchart.Text

/-- The words that declare a diagram which can be read. -/
def keywords : List (List Char) :=
  ["flowchart".toList, "graph".toList]

/-- What follows the mark of the fence that opens a text and the name of the language. -/
def afterOpeningMark (text : List Char) : Option (List Char) :=
  (afterLiteral fenceMark (trimLeft text)).map fun rest =>
    (afterCaseless foldLetterDotted "mermaid".toList rest).getD rest

/-- Cleaning a source brings nothing to the front of a line: the opening fence and a directive over
several lines have the rest of their line to themselves, no line opens with a line-break tag, and
carriage returns stand at line ends only. -/
structure KeepsFronts (source : List Char) : Prop where
  fence : ∀ rest ∈ afterOpeningMark source, EndsLine rest
  directives : ∀ ⦃directive rest : List Char⦄, directive ++ rest <:+ source →
    afterDirective (directive ++ rest) = some rest → '\n' ∈ directive → EndsLine rest
  breaks : ∀ line ∈ splitLines source, ¬Begins "<br".toList (trimLeft line)
  returns : ReturnsAtLineEnds source

/-- A line that starts with one of the keywords. -/
def BeginsKeyword (line : List Char) : Prop :=
  ∃ word ∈ keywords, Begins word line

instance (line : List Char) : Decidable (BeginsKeyword line) :=
  inferInstanceAs (Decidable (∃ word ∈ keywords, Begins word line))

/-- A source that declares a diagram, but only behind blanks at the front of a line. -/
def DeclaresIndented (source : List Char) : Prop :=
  (∃ line ∈ splitLines source, BeginsKeyword (trimLeft line)) ∧
    ∀ line ∈ splitLines source, ¬BeginsKeyword line

instance (source : List Char) : Decidable (DeclaresIndented source) :=
  inferInstanceAs (Decidable ((∃ line ∈ splitLines source, BeginsKeyword (trimLeft line)) ∧
    ∀ line ∈ splitLines source, ¬BeginsKeyword line))

/-- The conditions on the parts of a source, as conditions on its finitely many tails. -/
theorem keepsFronts_iff {source : List Char} : KeepsFronts source ↔
    (∀ rest ∈ afterOpeningMark source, EndsLine rest) ∧
      (∀ tail ∈ source.tails, ∀ rest ∈ afterDirective tail,
        '\n' ∈ tail.take (tail.length - rest.length) → EndsLine rest) ∧
      (∀ line ∈ splitLines source, ¬Begins "<br".toList (trimLeft line)) ∧
      ∀ tail ∈ source.tails, tail.head? = some '\r' →
        tail.tail.head?.all (· == '\n') = true := by
  constructor
  · rintro ⟨fence, directives, breaks, returns⟩
    refine ⟨fence, fun tail inside rest read severalLines => ?_, breaks,
      fun tail inside first => ?_⟩
    · obtain ⟨directive, rfl, _⟩ := afterDirective_split read
      have front : (directive ++ rest).take ((directive ++ rest).length - rest.length) =
          directive := by
        rw [List.length_append, Nat.add_sub_cancel, List.take_left]
      exact directives ((List.mem_tails _ _).mp inside) read (front ▸ severalLines)
    · obtain ⟨rest, rfl⟩ := List.head?_eq_some_iff.mp first
      rw [Option.all_eq_true]
      exact fun c second => beq_iff_eq.mpr (returns ((List.mem_tails _ _).mp inside) c second)
  · rintro ⟨fence, directives, breaks, returns⟩
    refine ⟨fence, fun directive rest inside read severalLines => ?_, breaks,
      fun rest inside c first => ?_⟩
    · apply directives _ ((List.mem_tails _ _).mpr inside) rest read
      rwa [List.length_append, Nat.add_sub_cancel, List.take_left]
    · have alike := returns ('\r' :: rest) ((List.mem_tails _ _).mpr inside) rfl
      exact beq_iff_eq.mp ((Option.all_eq_true _ _).mp alike c first)

instance (source : List Char) : Decidable (KeepsFronts source) :=
  decidable_of_iff _ keepsFronts_iff.symm

/-- The rest of the line behind each directive is blank. -/
def DirectivesEndLines (text : List Char) : Prop :=
  ∀ ⦃tail after : List Char⦄, tail <:+ text → afterDirective tail = some after → EndsLine after

/-! ### Fences -/

section Fences

variable {word text : List Char}

theorem dropClosingFence_isPrefix (text : List Char) : dropClosingFence text <+: text := by
  rw [dropClosingFence]
  cases closes : afterLiteral fenceMark (trimRight text).reverse with
  | none => exact List.prefix_rfl
  | some rest =>
      have split := congrArg List.reverse (afterLiteral_eq_some.mp closes)
      rw [List.reverse_reverse, List.reverse_append] at split
      have front : rest.reverse <+: text :=
        (split ▸ List.prefix_append rest.reverse _).trans (trimRight_isPrefix text)
      split
      case h_1 same => cases same
      case h_2 before same =>
        cases same
        rw [List.reverse_cons] at front
        exact (List.prefix_append _ _).trans front
      case h_3 before _ same =>
        cases same
        exact front

theorem dropOpeningFence_eq (text : List Char) : dropOpeningFence text =
    match afterOpeningMark text with
    | none => text
    | some rest =>
      match skipInline rest with
      | '\n' :: left => left
      | left => left := by
  rw [dropOpeningFence, afterOpeningMark]
  cases afterLiteral fenceMark (trimLeft text) <;> rfl

theorem afterOpeningMark_isSuffix {rest : List Char} (opens : rest ∈ afterOpeningMark text) :
    rest <:+ text := by
  obtain ⟨marked, mark, rfl⟩ := Option.map_eq_some_iff.mp opens
  have inside : marked <:+ text :=
    (afterLiteral_isSuffix mark).trans (List.dropWhile_suffix isBlank)
  cases read : afterCaseless foldLetterDotted "mermaid".toList marked with
  | none => exact inside
  | some left =>
      obtain ⟨name, split, _⟩ := afterCaseless_eq_some.mp read
      exact List.IsSuffix.trans ⟨name, split.symm⟩ inside

/-- What starts a line behind an opening fence starts a line of the text, or is the rest of the line
of the fence. -/
theorem lineStart_of_dropOpeningFence {tail : List Char}
    (start : LineStart (dropOpeningFence text) tail) :
    LineStart text tail ∨ ∃ rest ∈ afterOpeningMark text, tail = skipInline rest := by
  rw [dropOpeningFence_eq] at start
  cases opens : afterOpeningMark text with
  | none =>
      rw [opens] at start
      exact Or.inl start
  | some rest =>
      have inside : skipInline rest <:+ text :=
        (List.dropWhile_suffix isInlineBlank).trans (afterOpeningMark_isSuffix opens)
      rw [opens] at start
      dsimp only at start
      split at start
      case h_1 left ends =>
        rw [ends] at inside
        rcases start with rfl | behind
        · exact Or.inl (Or.inr inside)
        · exact Or.inl (Or.inr (behind.trans ((List.suffix_cons _ _).trans inside)))
      case h_2 =>
        rcases start with rfl | behind
        · exact Or.inr ⟨rest, rfl, rfl⟩
        · exact Or.inl (Or.inr (behind.trans inside))

theorem dropOpeningFence_isSuffix (text : List Char) : dropOpeningFence text <:+ text := by
  rcases lineStart_of_dropOpeningFence (Or.inl rfl) with start | ⟨rest, opens, same⟩
  · exact start.isSuffix
  · rw [same]
    exact (List.dropWhile_suffix isInlineBlank).trans (afterOpeningMark_isSuffix opens)

/-- What heads a line between the fences heads a line of the text. -/
theorem headsLine_of_dropFences (visible : IsVisible word)
    (fence : ∀ rest ∈ afterOpeningMark text, EndsLine rest)
    (heads : HeadsLine word (dropClosingFence (dropOpeningFence text))) : HeadsLine word text := by
  obtain ⟨tail, start, first⟩ :=
    visible.headsLine_of_front (dropClosingFence_isPrefix (dropOpeningFence text)) heads
  rcases lineStart_of_dropOpeningFence start with start | ⟨rest, opens, rfl⟩
  · exact ⟨tail, start, first⟩
  · exact absurd first (visible.not_heads (fence rest opens).skipInline)

end Fences

/-! ### Curly brackets -/

theorem occursIn_singleton {c : Char} {text : List Char} : occursIn [c] text = true ↔ c ∈ text := by
  induction text with
  | nil => simp [occursIn]
  | cons d text ih => simp [occursIn, List.isPrefixOf, ih]

theorem exists_afterFirst_singleton (c : Char) (front rest : List Char) :
    ∃ later, afterFirst [c] (front ++ c :: rest) = some later ∧ rest <:+ later := by
  induction front with
  | nil => exact ⟨rest, by simp [afterFirst, afterLiteral], List.suffix_rfl⟩
  | cons d front ih =>
      by_cases same : d = c
      · refine ⟨front ++ c :: rest, by simp [afterFirst, afterLiteral, same], ?_⟩
        exact (List.suffix_cons c rest).trans (List.suffix_append front _)
      · obtain ⟨later, found, inside⟩ := ih
        exact ⟨later, by simp [afterFirst, afterLiteral, same, found], inside⟩

theorem encloses_append (front inner rest : List Char) :
    encloses "\x7b" "\x7d" (front ++ '\x7b' :: (inner ++ '\x7d' :: rest)) = true := by
  obtain ⟨later, found, inside⟩ :=
    exists_afterFirst_singleton '\x7b' front (inner ++ '\x7d' :: rest)
  have opens : afterFirst "\x7b".toList (front ++ '\x7b' :: (inner ++ '\x7d' :: rest)) =
      some later := found
  have closes : '\x7d' ∈ later := inside.subset (by simp)
  rw [encloses, opens]
  exact occursIn_singleton.mpr closes

/-! ### Directives -/

section Directives

variable {word text : List Char}

/-- Text put behind a text is put behind what is left after a directive at its front. -/
theorem afterDirective_append_right {after : List Char} (read : afterDirective text = some after)
    (rest : List Char) : afterDirective (text ++ rest) = some (after ++ rest) := by
  simp only [afterDirective, Option.bind_eq_bind, Option.bind_eq_some_iff] at read ⊢
  obtain ⟨opened, opens, named, names, body, colon, ends⟩ := read
  have seen : ∀ {literal left back : List Char}, literal ≠ [] →
      afterLiteral literal (left.dropWhile isBlank) = some back →
        afterLiteral literal ((left ++ rest).dropWhile isBlank) = some (back ++ rest) := by
    intro literal left back nonempty here
    have remains : left.dropWhile isBlank ≠ [] := by
      intro empty
      have split := afterLiteral_eq_some.mp here
      rw [empty] at split
      exact nonempty (List.nil_eq_append_iff.mp split).1
    rw [dropWhile_append_of_ne_nil remains]
    exact afterLiteral_append_right here rest
  exact ⟨opened ++ rest, afterLiteral_append_right opens rest, named ++ rest,
    seen (by decide) names, body ++ rest, seen (by decide) colon, afterFirst_append_right ends rest⟩

/-- Directives that end their lines do so in every part at the end of the text. -/
theorem DirectivesEndLines.of_suffix {tail : List Char} (directives : DirectivesEndLines text)
    (isTail : tail <:+ text) : DirectivesEndLines tail :=
  fun _ _ inside => directives (inside.trans isTail)

theorem DirectivesEndLines.of_front {front : List Char} (directives : DirectivesEndLines text)
    (isFront : front <+: text) : DirectivesEndLines front := by
  obtain ⟨rest, rfl⟩ := isFront
  rintro tail after ⟨before, rfl⟩ read
  have inside : tail ++ rest <:+ before ++ tail ++ rest := ⟨before, by simp⟩
  exact (directives inside (afterDirective_append_right read rest)).of_front
    (List.prefix_append after rest)

/-- Nothing that is left where a directive is taken out is visible on its line. -/
theorem DirectivesEndLines.parts (directives : DirectivesEndLines text) :
    Parts afterDirective [] text := by
  intro tail after inside read
  have ends := directives inside read
  cases after with
  | nil =>
      rw [replaceAll_nil]
      exact stops_nil _
  | cons c after =>
      have blank : isBlank c = true := by
        cases margin : isMargin c with
        | true => exact (Bool.and_eq_true_iff.mp margin).1
        | false =>
            rw [EndsLine, skipMargin_cons_of_not margin] at ends
            rw [ends c rfl]
            rfl
      rw [replaceAll_of_none (afterDirective_of_isBlank c blank after)]
      exact stops_cons (by simp [blank])

/-- No directive begins where only blanks follow on the line. -/
theorem afterDirective_of_endsLine (ends : EndsLine text) :
    afterDirective (skipMargin text) = none := by
  cases left : skipMargin text with
  | nil => rfl
  | cons c rest =>
      rw [EndsLine, left] at ends
      rw [ends c rfl]
      exact afterDirective_of_isBlank '\n' (by decide) rest

/-- Taking out directives that end their lines brings nothing to the front of a line. -/
theorem DirectivesEndLines.headsLine (directives : DirectivesEndLines text)
    (visible : IsVisible word) (heads : HeadsLine word (replaceAll afterDirective [] text)) :
    HeadsLine word text := by
  apply consumes_afterDirective.headsLine_of_replaceAll afterDirective_of_isBlank
    List.not_mem_nil visible directives.parts _ heads
  intro tail after start read behind
  have inside : skipMargin tail <:+ text :=
    (List.dropWhile_suffix isMargin).trans start.isSuffix
  obtain ⟨directive, split, _⟩ := afterDirective_split read
  have ends := directives inside read
  have further := directives.of_suffix (List.IsSuffix.trans ⟨directive, split.symm⟩ inside)
  -- What is left behind the directive is blank up to the line end, so it holds no other one there.
  have first := consumes_afterDirective.heads_of_replaceAll afterDirective_of_isBlank visible
    further.parts (fun _ found => by simp [afterDirective_of_endsLine ends] at found) behind
  exact visible.not_heads ends first

/-- A directive on one line is in curly brackets. -/
theorem encloses_of_afterDirective {directive rest : List Char}
    (inside : directive ++ rest <:+ text)
    (read : afterDirective (directive ++ rest) = some rest) (oneLine : '\n' ∉ directive) :
    ∃ line ∈ splitLines text, encloses "\x7b" "\x7d" line = true := by
  obtain ⟨written, split, isDirective⟩ := afterDirective_split read
  have same : directive = written := List.append_cancel_right split
  have part : directive <:+: text :=
    (List.prefix_append directive rest).isInfix.trans inside.isInfix
  obtain ⟨_, member, front, back, rfl⟩ := exists_line_of_isInfix oneLine part
  refine ⟨_, member, ?_⟩
  subst same
  cases isDirective with
  | @mk before after body =>
      have curly : front ++ ("%%\x7b".toList ++ (before ++ ("init".toList ++ (after ++
          ([':'] ++ (body ++ "\x7d%%".toList)))))) ++ back =
            (front ++ "%%".toList) ++ '\x7b' :: ((before ++ ("init".toList ++ (after ++
              ([':'] ++ body)))) ++ '\x7d' :: ("%%".toList ++ back)) := by
        simp
      rw [curly]
      exact encloses_append _ _ _

/-- Unless some line shows a mark of a diagram, no directive is on one line, and so each directive
has the rest of its line to itself. -/
theorem KeepsFronts.directivesEndLines (keeps : KeepsFronts text)
    (unmarked : ∀ line ∈ splitLines text, encloses "\x7b" "\x7d" line = false) :
    DirectivesEndLines text := by
  intro tail after inside read
  obtain ⟨directive, rfl, _⟩ := afterDirective_split read
  apply keeps.directives inside read
  by_contra oneLine
  obtain ⟨line, member, marked⟩ := encloses_of_afterDirective inside read oneLine
  rw [unmarked line member] at marked
  cases marked

end Directives

/-! ### Breaks -/

section Breaks

variable {word text : List Char}

theorem begins_of_afterLineBreak {after : List Char} (read : afterLineBreak text = some after) :
    Begins "<br".toList text := by
  rw [afterLineBreak_eq, Option.bind_eq_some_iff] at read
  obtain ⟨opened, opens, _⟩ := read
  rw [Begins, opens]
  rfl

/-- Making spaces of line-break tags brings nothing to the front of a line that starts with
something else. -/
theorem headsLine_of_breaksToSpaces (visible : IsVisible word)
    (breaks : ¬HeadsLine "<br".toList text) (heads : HeadsLine word (breaksToSpaces text)) :
    HeadsLine word text := by
  have parts : Parts afterLineBreak [' '] text := fun _ _ _ _ => stops_cons (by decide)
  apply consumes_afterLineBreak.headsLine_of_replaceAll afterLineBreak_of_isBlank (by decide)
    visible parts _ heads
  exact fun tail _ start read _ => breaks ⟨tail, start, begins_of_afterLineBreak read⟩

end Breaks

/-! ### Cleaning -/

/-- What heads a line of a cleaned source heads a line of the source. -/
theorem KeepsFronts.headsLine {source word : List Char} (keeps : KeepsFronts source)
    (unmarked : ∀ line ∈ splitLines source, encloses "\x7b" "\x7d" line = false)
    (visible : IsVisible word) (heads : HeadsLine word (cleanChars source)) :
    HeadsLine word source := by
  let body := dropClosingFence (dropOpeningFence source)
  have front : body <+: dropOpeningFence source := dropClosingFence_isPrefix _
  have back : dropOpeningFence source <:+ source := dropOpeningFence_isSuffix source
  have directives : DirectivesEndLines body :=
    ((keeps.directivesEndLines unmarked).of_suffix back).of_front front
  have returns : ReturnsAtLineEnds (breaksToSpaces (replaceAll afterDirective [] body)) :=
    (((keeps.returns.of_suffix back).of_front front).replaceAll consumes_afterDirective
      afterDirective_of_isBlank List.not_mem_nil).replaceAll consumes_afterLineBreak
        afterLineBreak_of_isBlank (by decide)
  have fences : ∀ {word}, IsVisible word → HeadsLine word body → HeadsLine word source :=
    fun visible => headsLine_of_dropFences visible keeps.fence
  have tag : IsVisible "<br".toList := by decide
  have breaks : ¬HeadsLine "<br".toList (replaceAll afterDirective [] body) := by
    intro starts
    obtain ⟨line, member, begins⟩ := (headsLine_iff tag).mp
      (fences tag (directives.headsLine tag starts))
    exact keeps.breaks line member begins
  have trimmed := visible.headsLine_of_trim heads
  have ended := headsLine_of_normalizeLineEnds visible returns trimmed
  have plain := headsLine_of_breaksToSpaces visible breaks ended
  exact fences visible (directives.headsLine visible plain)

/-! ### Declarations -/

section Declarations

theorem isVisible_keywords : ∀ word ∈ keywords, IsVisible word := by
  decide

/-- An ASCII letter is found alike in both ways to compare letters. -/
theorem foldLetterDotted_of_foldLetter {c : Char} (ascii : (foldLetter c).toNat < 128) :
    foldLetterDotted c = foldLetter c := by
  rw [foldLetterDotted, if_neg]
  intro dotted
  have code : c.toNat = 0x130 ∨ c.toNat = 0x131 := by simpa using dotted
  have same : foldLetter c = c := by
    rcases code with code | code <;> simp [foldLetter, code]
  rw [same] at ascii
  omega

/-- A keyword of ASCII that is read is at the front of the text. -/
theorem begins_of_afterKeyword {word text rest : List Char}
    (ascii : word.all (fun c => c.toNat < 128) = true)
    (read : afterKeyword isWordChar foldLetter word text = some rest) : Begins word text := by
  obtain ⟨front, split, folded⟩ := afterCaseless_eq_some.mp (afterKeyword_eq_some.mp read).1
  refine begins_iff.mpr ⟨front, rest, split, ?_⟩
  rw [← folded]
  refine List.map_congr_left fun c member => foldLetterDotted_of_foldLetter ?_
  have letter : foldLetter c ∈ word := folded ▸ List.mem_map_of_mem member
  simpa using List.all_eq_true.mp ascii _ letter

/-- A declaration starts with one of the keywords. -/
theorem begins_of_headerStatement {text left : List Char} {statement : Statement}
    (read : Statement.headerStatement text = some (statement, left)) :
    ∃ word ∈ keywords, Begins word text := by
  simp only [Statement.headerStatement, Option.bind_eq_bind, Option.bind_eq_some_iff] at read
  obtain ⟨rest, first, _⟩ := read
  cases chart : Statement.afterCaselessWord "flowchart" text with
  | some left => exact ⟨_, List.mem_cons_self, begins_of_afterKeyword (by decide) chart⟩
  | none =>
      rw [chart] at first
      have graph : Statement.afterCaselessWord "graph" text = some rest := first
      exact ⟨_, List.mem_cons_of_mem _ List.mem_cons_self,
        begins_of_afterKeyword (by decide) graph⟩

/-- A line that makes a declaration starts with one of the keywords. -/
theorem begins_of_header {line : List Char} {direction : Option String}
    (read : Statement.ofLine? line = some (some (.header direction))) :
    ∃ word ∈ keywords, Begins word (trimLeft line) := by
  obtain ⟨left, any, -⟩ := Statement.read_of_ofLine? read
  obtain ⟨word, listed, begins⟩ := begins_of_headerStatement (Statement.read_of_anyStatement any)
  refine ⟨word, listed, ?_⟩
  have gap : ∀ c ∈ line.takeWhile isInlineBlank, isBlank c = true :=
    fun c member => isBlank_of_isInlineBlank (List.mem_takeWhile_imp member)
  have stops := (isVisible_keywords word listed).stops begins
  have trimmed := dropWhile_append_stops gap stops
  rw [skipInline, List.takeWhile_append_dropWhile] at trimmed
  rwa [trimLeft, trimmed]

/-- One of the lines of a source that is read strictly starts with a keyword. -/
theorem headsLine_of_load {source : String} {draft : Draft}
    (loaded : Draft.load source = .ok draft) :
    ∃ word ∈ keywords, HeadsLine word source.toList := by
  obtain ⟨-, direction, body, after, first, -⟩ := load_eq_ok_iff.mp loaded
  have member : .header direction ∈ statementsOf (trimmedLines source.toList) := by
    rw [← statements, first]
    exact List.mem_cons_self
  obtain ⟨trimmed, spoken, made⟩ := List.mem_filterMap.mp member
  obtain ⟨line, onLine, rfl⟩ := List.mem_map.mp (List.mem_filter.mp spoken).1
  obtain ⟨word, listed, begins⟩ := begins_of_header (Option.join_eq_some_iff.mp made)
  have front : trimLeft (trim line) <+: trimLeft line := by
    rw [trimLeft, dropWhile_of_stops (stops_trim line)]
    exact trimRight_isPrefix (trimLeft line)
  obtain ⟨rest, split⟩ := front
  exact ⟨word, listed, (headsLine_iff (isVisible_keywords word listed)).mpr
    ⟨line, onLine, split ▸ begins.append rest⟩⟩

end Declarations

/-! ### Detection -/

/-- A line that starts with a keyword makes a diagram of its source. -/
theorem detect_of_beginsKeyword {source : String} {line : List Char}
    (onLine : line ∈ splitLines source.toList) (begins : BeginsKeyword line) :
    detect source = .diagram := by
  obtain ⟨word, listed, begins⟩ := begins
  have known : ∀ word ∈ keywords, word ∈ declarationWords := by decide
  have declares : declarationWords.any (fun word =>
      (afterCaseless foldLetterDotted word line).isSome) = true :=
    List.any_eq_true.mpr ⟨word, known word listed, begins⟩
  have found : (splitLines source.toList).any (fun line => declarationWords.any fun word =>
      (afterCaseless foldLetterDotted word line).isSome) = true :=
    List.any_eq_true.mpr ⟨line, onLine, declares⟩
  rw [detect, looksLikeDiagram, found]
  rfl

theorem detect_of_encloses {source : String} {line : List Char}
    (onLine : line ∈ splitLines source.toList) (marked : encloses "\x7b" "\x7d" line = true) :
    detect source = .diagram := by
  have found : (splitLines source.toList).any (fun line => encloses "[[" "]]" line ||
      encloses "((" "))" line || encloses "\x7b" "\x7d" line) = true :=
    List.any_eq_true.mpr ⟨line, onLine, by simp [marked]⟩
  rw [detect, looksLikeDiagram, found]
  simp

end Flowchart.Source

namespace Flowchart

open Flowchart.Source Flowchart.Text

/-- A source that is read strictly once it is cleaned is taken for a diagram, if cleaning brings
nothing to the front of a line and not all of its declarations are indented. -/
theorem detect_of_load {source : String} {draft : Draft}
    (loaded : Draft.load (clean source) = .ok draft) (keeps : KeepsFronts source.toList) :
    detect source = .diagram ∨ DeclaresIndented source.toList := by
  by_cases flush : ∃ line ∈ splitLines source.toList, BeginsKeyword line
  · obtain ⟨line, onLine, begins⟩ := flush
    exact Or.inl (detect_of_beginsKeyword onLine begins)
  by_cases marked : ∃ line ∈ splitLines source.toList, encloses "\x7b" "\x7d" line = true
  · obtain ⟨line, onLine, closed⟩ := marked
    exact Or.inl (detect_of_encloses onLine closed)
  -- Without curly brackets every directive goes over several lines, so it ends its last one.
  have unmarked : ∀ line ∈ splitLines source.toList, encloses "\x7b" "\x7d" line = false :=
    fun line onLine => Bool.eq_false_iff.mpr fun closed => marked ⟨line, onLine, closed⟩
  obtain ⟨word, listed, heads⟩ := headsLine_of_load loaded
  rw [clean, String.toList_ofList] at heads
  have visible := isVisible_keywords word listed
  obtain ⟨line, onLine, begins⟩ :=
    (headsLine_iff visible).mp (keeps.headsLine unmarked visible heads)
  exact Or.inr ⟨⟨line, onLine, word, listed, begins⟩,
    fun line onLine begins => flush ⟨line, onLine, begins⟩⟩

/-- A source with a fence, a directive over several lines, line-break tags and carriage returns,
which shows no other mark of a diagram than its declaration. -/
def declaredSource : String :=
  "```mermaid\r\n%%\x7binit:\r\n base\r\n\x7d%% \r\nGraph<br/>TD\r\n%% one\r\n" ++
    "A[\"a<br>b\"] ==> B\r\n```\r\n"

/-- The draft of `declaredSource`. -/
def declaredDraft : Draft where
  direction := some "TD"
  vertices := [⟨"A", some "a b", some "square"⟩, ⟨"B", none, none⟩]
  arcs := [{ source := "A", target := "B", stroke := "thick" }]
  blocks := []

theorem detect_of_load_declaredSource :
    Draft.load (clean declaredSource) = .ok declaredDraft ∧ KeepsFronts declaredSource.toList ∧
      detect declaredSource = .diagram := by
  have loaded : Draft.load (clean declaredSource) = .ok declaredDraft := by decide +kernel
  have keeps : KeepsFronts declaredSource.toList := by decide +kernel
  have flush : ¬DeclaresIndented declaredSource.toList := by decide +kernel
  exact ⟨loaded, keeps, (detect_of_load loaded keeps).resolve_right flush⟩

/-- Sources in which a declaration is indented, or stands on the line of the fence, behind a
directive over two lines, behind a line-break tag, or behind a carriage return. -/
def overlookedSources : List String :=
  [" graph TD\n A ==> B", "```graph TD\nA ==> B\n```", "%%\x7binit:\n\x7d%%graph TD",
    "<br>graph TD\nA ==> B", "%% one\rgraph TD\nA ==> B"]

/-- Each condition is needed: all of these sources can be read, and none is taken for a diagram. -/
theorem detect_overlooked :
    overlookedSources.all (fun source =>
      (Draft.load (clean source)).toOption.isSome && detect source == .prose) = true := by
  decide +kernel

end Flowchart
