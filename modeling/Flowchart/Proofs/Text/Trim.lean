import Flowchart.Proofs.Text.Front

/-!
Trimming, seen from the ends of a text.

A text is trimmed when its first and its last character are no blanks. Blanks written around such a
text are what trimming takes away.
-/

namespace Flowchart.Text

/-- A nonempty text whose first and last characters are no blanks. -/
structure IsTrimmed (text : List Char) : Prop where
  nonempty : text ≠ []
  first : Stops isBlank text
  last : Stops isBlank text.reverse

theorem stops_append {belongs : Char → Bool} {word : List Char} (nonempty : word ≠ [])
    (stops : Stops belongs word) (rest : List Char) : Stops belongs (word ++ rest) := by
  cases word with
  | nil => exact absurd rfl nonempty
  | cons c word => exact stops

/-- Trimming changes nothing without blanks at the two ends. -/
theorem trim_of_stops {text : List Char} (first : Stops isBlank text)
    (last : Stops isBlank text.reverse) : trim text = text := by
  rw [trim, trimLeft, dropWhile_of_stops first, trimRight, dropWhile_of_stops last,
    List.reverse_reverse]

theorem trimRight_isPrefix (text : List Char) : trimRight text <+: text := by
  have back := (List.dropWhile_suffix isBlank (l := text.reverse)).reverse
  rwa [List.reverse_reverse] at back

/-- A trimmed text neither starts nor ends with a blank. -/
theorem stops_trim (text : List Char) : Stops isBlank (trim text) := by
  intro c first
  have front : (trimLeft text).head? = some c := by
    obtain ⟨rest, split⟩ := trimRight_isPrefix (trimLeft text)
    rw [← split, List.head?_append, ← trim, Option.mem_def.mp first]
    rfl
  exact stops_dropWhile isBlank text c front

theorem stops_reverse_trim (text : List Char) : Stops isBlank (trim text).reverse := by
  rw [trim, trimRight, List.reverse_reverse]
  exact stops_dropWhile _ _

/-- A text that trimming leaves alone starts with no blank, and neither does its reverse. -/
theorem isTrimmed_iff {text : List Char} : IsTrimmed text ↔ text ≠ [] ∧ trim text = text := by
  constructor
  · rintro ⟨nonempty, first, last⟩
    exact ⟨nonempty, trim_of_stops first last⟩
  · rintro ⟨nonempty, same⟩
    have first := stops_trim text
    have last := stops_reverse_trim text
    rw [same] at first last
    exact ⟨nonempty, first, last⟩

instance (text : List Char) : Decidable (IsTrimmed text) :=
  decidable_of_iff (text ≠ [] ∧ trim text = text) isTrimmed_iff.symm

theorem trim_of_isTrimmed {text : List Char} (trimmed : IsTrimmed text) : trim text = text :=
  (isTrimmed_iff.mp trimmed).2

/-- Trimming takes away what is written around a trimmed text. -/
theorem trim_append {left text right : List Char} (leftBlank : ∀ c ∈ left, isBlank c = true)
    (rightBlank : ∀ c ∈ right, isBlank c = true) (trimmed : IsTrimmed text) :
    trim (left ++ text ++ right) = text := by
  have front : trimLeft (left ++ text ++ right) = text ++ right := by
    rw [trimLeft, List.append_assoc]
    exact dropWhile_append_stops leftBlank (stops_append trimmed.nonempty trimmed.first right)
  have back : ∀ c ∈ right.reverse, isBlank c = true := by
    intro c member
    exact rightBlank c (List.mem_reverse.mp member)
  rw [trim, front, trimRight, List.reverse_append, dropWhile_append_stops back trimmed.last,
    List.reverse_reverse]

theorem isBlank_of_gap {gap : List Char} (blank : Gap gap) : ∀ c ∈ gap, isBlank c = true :=
  fun c member => isBlank_of_isInlineBlank (blank c member)

/-- Trimming takes the gaps around a trimmed text away. -/
theorem trim_gaps {left text right : List Char} (leftBlank : Gap left) (rightBlank : Gap right)
    (trimmed : IsTrimmed text) : trim (left ++ text ++ right) = text :=
  trim_append (isBlank_of_gap leftBlank) (isBlank_of_gap rightBlank) trimmed

/-- The blanks at the end of a text are those after its last visible character. -/
theorem trimRight_append {word : List Char} (visible : Stops isBlank word.reverse)
    (rest : List Char) : trimRight (word ++ rest) = word ++ trimRight rest := by
  rw [trimRight, trimRight, List.reverse_append, List.dropWhile_append]
  split
  case isTrue blank => rw [List.isEmpty_iff.mp blank, dropWhile_of_stops visible]; simp
  case isFalse => simp

end Flowchart.Text
