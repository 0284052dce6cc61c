import Mathlib.Logic.Function.Iterate
import Flowchart.Diagram
import Flowchart.Proofs.Source.Insertion

/-!
Sources that have settled.

Cleaning goes through a text once: of several fences around it the outermost is taken away, and
what is left around a directive or a tag may form another one. So a cleaned source can still hold
something to clean. If it does not, the forgiving reader, which cleans once more, reads the very
text that everything else reads; and cleaning again and again comes to such a text.

Main definition: `Settled`. Main statements: `cleanChars_iterate`, `clean_settled`.
-/

namespace Flowchart.Text

/-- A line-break tag, with the letters in any case and blanks before its end. -/
inductive IsLineBreak : List Char → Prop
  | mk {name blanks slash : List Char} (named : name.map foldLetterDotted = "<br".toList)
    (blank : ∀ c ∈ blanks, isBlank c = true) (closes : slash = [] ∨ slash = ['/']) :
    IsLineBreak (name ++ (blanks ++ (slash ++ ['>'])))

end Flowchart.Text

namespace Flowchart.Source

open Flowchart.Text

/-- A configuration directive: `init` and a colon in braces between doubled percent signs, and
anything after the colon. -/
inductive IsDirective : List Char → Prop
  | mk {before after body : List Char} (blankBefore : ∀ c ∈ before, isBlank c = true)
    (blankAfter : ∀ c ∈ after, isBlank c = true) :
    IsDirective ("%%\x7b".toList ++ (before ++ ("init".toList ++ (after ++
      ([':'] ++ (body ++ "\x7d%%".toList))))))

theorem not_isLineBreak_nil : ¬IsLineBreak [] := by
  intro tag
  generalize empty : ([] : List Char) = text at tag
  cases tag
  simp at empty

theorem not_isDirective_nil : ¬IsDirective [] := by
  intro directive
  generalize empty : ([] : List Char) = text at directive
  cases directive
  cases empty

/-! ### What is read at the front -/

section Reading

variable {literal text : List Char}

theorem dropWhile_isBlank_split (text : List Char) :
    ∃ blanks, text = blanks ++ text.dropWhile isBlank ∧ ∀ c ∈ blanks, isBlank c = true :=
  ⟨text.takeWhile isBlank, List.takeWhile_append_dropWhile.symm,
    fun _ member => List.mem_takeWhile_imp member⟩

/-- Something visible is read behind blanks. -/
theorem afterLiteral_dropWhile_append {blanks : List Char} (blank : ∀ c ∈ blanks, isBlank c = true)
    (visible : ∀ c ∈ literal, isBlank c = false) (nonempty : literal ≠ []) (rest : List Char) :
    afterLiteral literal ((blanks ++ (literal ++ rest)).dropWhile isBlank) = some rest := by
  have first : Stops isBlank literal := fun c starts => visible c (List.mem_of_mem_head? starts)
  rw [dropWhile_append_stops blank (stops_append nonempty first rest), afterLiteral_append]

theorem exists_afterFirst (nonempty : literal ≠ []) :
    (∃ rest, afterFirst literal text = some rest) ↔ literal <:+: text := by
  rw [← Option.ne_none_iff_exists', ne_eq, afterFirst_eq_none_iff nonempty,
    absent_iff_not_isInfix nonempty, not_not]

/-- What is left after a directive follows one. -/
theorem afterDirective_split {left : List Char} (read : afterDirective text = some left) :
    ∃ directive, text = directive ++ left ∧ IsDirective directive := by
  simp only [afterDirective, Option.bind_eq_bind, Option.bind_eq_some_iff] at read
  obtain ⟨opened, opens, named, names, body, colon, ends⟩ := read
  obtain ⟨before, splitBefore, blankBefore⟩ := dropWhile_isBlank_split opened
  obtain ⟨after, splitAfter, blankAfter⟩ := dropWhile_isBlank_split named
  obtain ⟨inner, splitBody⟩ := afterFirst_split ends
  rw [afterLiteral_eq_some.mp names] at splitBefore
  rw [afterLiteral_eq_some.mp colon] at splitAfter
  refine ⟨_, ?_, @IsDirective.mk before after inner blankBefore blankAfter⟩
  rw [afterLiteral_eq_some.mp opens, splitBefore, splitAfter, splitBody]
  simp only [List.append_assoc]

/-- A directive is read at the front exactly if there is one. -/
theorem afterDirective_eq_none :
    afterDirective text = none ↔ ∀ part, part <+: text → ¬IsDirective part := by
  constructor
  · rintro unread _ ⟨rest, rfl⟩ ⟨blankBefore, blankAfter⟩
    rename_i before after body
    have closing : "\x7d%%".toList <:+: body ++ ("\x7d%%".toList ++ rest) :=
      ⟨body, rest, List.append_assoc body _ rest⟩
    obtain ⟨left, ends⟩ := (exists_afterFirst (by decide)).mpr closing
    simp only [afterDirective, Option.bind_eq_bind, List.append_assoc, afterLiteral_append,
      Option.bind_some] at unread
    rw [afterLiteral_dropWhile_append blankBefore (visible_of_all (by decide)) (by decide),
      Option.bind_some,
      afterLiteral_dropWhile_append blankAfter (visible_of_all (by decide)) (by decide),
      Option.bind_some, ends] at unread
    cases unread
  · intro free
    rw [Option.eq_none_iff_forall_not_mem]
    intro left read
    obtain ⟨directive, same, isDirective⟩ := afterDirective_split read
    exact free directive ⟨left, same.symm⟩ isDirective

/-- A line-break tag is read at the front exactly if there is one. -/
theorem afterLineBreak_eq_none :
    afterLineBreak text = none ↔ ∀ part, part <+: text → ¬IsLineBreak part := by
  constructor
  · rintro unread _ ⟨rest, rfl⟩ ⟨named, blank, closes⟩
    rename_i name blanks slash
    have opens : afterCaseless foldLetterDotted "<br".toList
        (name ++ (blanks ++ (slash ++ ['>'])) ++ rest) =
          some (blanks ++ (slash ++ ['>'] ++ rest)) :=
      afterCaseless_eq_some.mpr ⟨name, by simp, named⟩
    have stops : Stops isBlank (slash ++ ['>'] ++ rest) := by
      rcases closes with rfl | rfl <;> exact stops_cons (by decide)
    rw [afterLineBreak_eq, opens, Option.bind_some, dropWhile_append_stops blank stops] at unread
    rcases closes with rfl | rfl <;> cases unread
  · intro free
    rw [Option.eq_none_iff_forall_not_mem]
    intro left read
    rw [Option.mem_def, afterLineBreak_eq, Option.bind_eq_some_iff] at read
    obtain ⟨opened, opens, closes⟩ := read
    obtain ⟨name, splitName, named⟩ := afterCaseless_eq_some.mp opens
    obtain ⟨blanks, splitBlanks, blank⟩ := dropWhile_isBlank_split opened
    rw [afterBreakEnd.eq_def] at closes
    split at closes
    case h_1 rest ends =>
      apply free _ ⟨rest, _⟩ (.mk named blank (Or.inr rfl))
      rw [splitName, splitBlanks, ends]
      simp
    case h_2 rest ends =>
      apply free _ ⟨rest, _⟩ (.mk named blank (Or.inl rfl))
      rw [splitName, splitBlanks, ends]
      simp
    case h_3 => cases closes

end Reading

/-! ### Settled sources -/

/-- A text in which cleaning would find nothing more: no mark of a fence at its ends, and no
directive and no line-break tag in it. -/
structure Settled (text : List Char) : Prop where
  opening : ¬fenceMark <+: text
  closing : ¬fenceMark <:+ text
  directives : ∀ part, part <:+: text → ¬IsDirective part
  breaks : ∀ part, part <:+: text → ¬IsLineBreak part

/-- What a text that is trimmed must not hold if nothing is to be cut out of it. -/
theorem uncut_iff {text : List Char} (first : Stops isBlank text)
    (last : Stops isBlank text.reverse) : Uncut text ↔ Settled text := by
  have front : trimLeft text = text := dropWhile_of_stops first
  have back : (trimRight text).reverse = text.reverse := by
    rw [trimRight, List.reverse_reverse, dropWhile_of_stops last]
  have mark : fenceMark <+: text.reverse ↔ fenceMark <:+ text := by
    rw [← List.reverse_suffix, List.reverse_reverse]
    rfl
  have directives := @absent_iff _ _ not_isDirective_nil (fun _ => afterDirective_eq_none) text
  have breaks := @absent_iff _ _ not_isLineBreak_nil (fun _ => afterLineBreak_eq_none) text
  constructor
  · rintro ⟨opening, closing, noDirective, noBreak⟩
    rw [front, afterLiteral_eq_none] at opening
    rw [back, afterLiteral_eq_none, mark] at closing
    exact ⟨opening, closing, directives.mp noDirective, breaks.mp noBreak⟩
  · rintro ⟨opening, closing, noDirective, noBreak⟩
    refine ⟨?_, ?_, directives.mpr noDirective, breaks.mpr noBreak⟩
    · rwa [front, afterLiteral_eq_none]
    · rwa [back, afterLiteral_eq_none, mark]

section Cleaned

variable (text : List Char)

theorem stops_cleanChars :
    Stops isBlank (cleanChars text) ∧ Stops isBlank (cleanChars text).reverse :=
  ⟨stops_trim _, stops_reverse_trim _⟩

theorem notMem_cleanChars : '\r' ∉ cleanChars text :=
  fun member => notMem_normalizeLineEnds _ ((trim_isInfix _).subset member)

/-- A cleaned text is trimmed and has uniform line ends, so only what can be cut out counts. -/
theorem cleanChars_cleanChars_of_uncut (uncut : Uncut (cleanChars text)) :
    cleanChars (cleanChars text) = cleanChars text := by
  obtain ⟨first, last⟩ := stops_cleanChars text
  rw [uncut.cleanChars_eq, normalizeLineEnds_of_notMem (notMem_cleanChars text),
    trim_of_stops first last]

/-- Cleaning leaves a cleaned text alone exactly if it has settled. -/
theorem cleanChars_cleanChars_eq :
    cleanChars (cleanChars text) = cleanChars text ↔ Settled (cleanChars text) := by
  obtain ⟨first, last⟩ := stops_cleanChars text
  rw [← uncut_iff first last]
  constructor
  · exact fun same => ((length_cleanChars (cleanChars text)).2 (congrArg List.length same)).1
  · exact cleanChars_cleanChars_of_uncut text

/-- Cleaning a cleaned text once more leaves it alone or shortens it. -/
theorem cleanChars_shorter :
    cleanChars (cleanChars text) = cleanChars text ∨
      (cleanChars (cleanChars text)).length < (cleanChars text).length := by
  obtain ⟨shorter, full⟩ := length_cleanChars (cleanChars text)
  rcases Nat.lt_or_eq_of_le shorter with less | same
  · exact Or.inr less
  · exact Or.inl (cleanChars_cleanChars_of_uncut text (full same).1)

/-- A text is settled after as many more rounds of cleaning as it has characters. -/
theorem cleanChars_iterate {rounds : Nat} (enough : (cleanChars text).length ≤ rounds) :
    cleanChars (cleanChars^[rounds] (cleanChars text)) = cleanChars^[rounds] (cleanChars text) := by
  induction rounds generalizing text with
  | zero =>
      have empty : cleanChars text = [] := List.length_eq_zero_iff.mp (Nat.le_zero.mp enough)
      have nothing : cleanChars [] = [] := by decide +kernel
      rw [empty]
      exact nothing
  | succ rounds ih =>
      rcases cleanChars_shorter text with fixed | shorter
      · rw [Function.iterate_fixed fixed, fixed]
      · rw [Function.iterate_succ_apply]
        exact ih (cleanChars text) (by omega)

end Cleaned

end Flowchart.Source

namespace Flowchart

open Flowchart.Source Flowchart.Text

/-- What is found forgivingly in the lines of a text as it stands. -/
def Draft.inLines (text : String) : Draft :=
  let found := Scan.scanLines (trimmedLines text.toList)
  { direction := found.direction
    vertices := found.vertices
    arcs := found.arcs
    blocks := found.blocks }

/-- The forgiving reader reads a text after it has been cleaned. -/
theorem scan_eq_inLines (source : String) : Draft.scan source = Draft.inLines (clean source) := by
  rw [Draft.scan, Draft.inLines, clean, String.toList_ofList]

theorem clean_clean_eq (source : String) :
    clean (clean source) = clean source ↔ Settled (clean source).toList := by
  rw [clean, clean, String.toList_ofList, ← cleanChars_cleanChars_eq, String.ofList_inj]

variable {K : Type} [Scalar K]

/-- Cleaning a source twice is cleaning it once exactly if the cleaned source has settled. In that
case the forgiving reader builds its graph from the cleaned source as it stands, which is the text
that metadata is looked for in. -/
theorem clean_settled (source : String) :
    (clean (clean source) = clean source ↔ Settled (clean source).toList) ∧
      (Settled (clean source).toList →
        Draft.scan (clean source) = Draft.inLines (clean source) ∧
          ∀ (limits : Limits) (colors : List String),
            (Diagram.parseForgiving limits source colors : Except DiagramError (Graph K)) =
              if (clean source).isEmpty then .ok {}
              else Diagram.build limits (clean source) colors
                (Draft.inLines (clean source))) := by
  refine ⟨clean_clean_eq source, fun settled => ?_⟩
  have same : Draft.scan (clean source) = Draft.inLines (clean source) := by
    rw [scan_eq_inLines, (clean_clean_eq source).mpr settled]
  exact ⟨same, fun limits colors => by rw [Diagram.parseForgiving, same]⟩

theorem clean_settled_fenced :
    Settled (clean "```\nA --> B\n```").toList ∧
      Draft.scan (clean "```\nA --> B\n```") = Draft.inLines (clean "```\nA --> B\n```") := by
  obtain ⟨still, alike⟩ := clean_settled (K := Rat) "```\nA --> B\n```"
  have settled := still.mp (by decide +kernel)
  exact ⟨settled, (alike settled).1⟩

/-- Of two fences the outer one is taken away, and what is left around a directive can be one: the
lines that the forgiving reader goes through are then not those of the cleaned source. -/
theorem clean_nested :
    clean (clean "```\n```\nA --> B\n```\n```") ≠ clean "```\n```\nA --> B\n```\n```" ∧
      Draft.scan (clean "graph TD\n%%\x7bin%%\x7binit:\x7d%%it:\x7d%%A --> B") ≠
        Draft.inLines (clean "graph TD\n%%\x7bin%%\x7binit:\x7d%%it:\x7d%%A --> B") := by
  decide +kernel

end Flowchart
