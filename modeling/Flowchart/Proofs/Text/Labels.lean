import Mathlib.Data.List.Infix
import Flowchart.Proofs.Text.Replacing

/-!
Clean labels.

Once the tags are gone, no angle opens that another one closes later: an angle that stays has found
no closing one behind it, and nothing is put in the place of a tag. Blanks come one at a time and
never at the ends. A label of this kind is left alone by every step, so the clean labels are what
cleaning gives and what it fixes.

Main definition: `IsClean`. Main statements: `isClean_cleanLabelChars`, `cleanLabelChars_eq_self`.
-/

namespace Flowchart.Text

/-! ### Blanks -/

/-- Every blank of a text is a space, and no blank follows it. -/
def Spaced (text : List Char) : Prop :=
  ∀ before c after, text = before ++ c :: after → isBlank c = true → c = ' ' ∧ Stops isBlank after

theorem spaced_nil : Spaced [] := by
  intro before c after split
  simp at split

theorem spaced_cons {c : Char} {text : List Char} :
    Spaced (c :: text) ↔ (isBlank c = true → c = ' ' ∧ Stops isBlank text) ∧ Spaced text := by
  constructor
  · intro spaced
    refine ⟨spaced [] c text rfl, ?_⟩
    rintro before d after rfl blank
    exact spaced (c :: before) d after rfl blank
  · rintro ⟨first, others⟩ before d after split blank
    cases before with
    | nil =>
        obtain ⟨rfl, rfl⟩ := List.cons.inj split
        exact first blank
    | cons e before => exact others before d after (List.cons.inj split).2 blank

/-- Parts of spaced texts are spaced. -/
theorem Spaced.of_isInfix {part text : List Char} (inside : part <:+: text)
    (spaced : Spaced text) : Spaced part := by
  obtain ⟨front, back, rfl⟩ := inside
  rintro before c after rfl blank
  obtain ⟨space, stops⟩ := spaced (front ++ before) c (after ++ back) (by simp) blank
  refine ⟨space, ?_⟩
  intro d first
  exact stops d (by simp [Option.mem_def.mp first])

theorem stops_collapseBlanks {text : List Char} (stops : Stops isBlank text) :
    Stops isBlank (collapseBlanks text) := by
  cases text with
  | nil => exact stops_nil _
  | cons c text =>
      have visible : isBlank c = false := stops c rfl
      rw [collapseBlanks.eq_def]
      simp only [visible, Bool.false_eq_true, if_false]
      exact stops_cons visible

/-- Collapsing blanks leaves single spaces. -/
theorem spaced_collapseBlanks (text : List Char) : Spaced (collapseBlanks text) := by
  fun_induction collapseBlanks text with
  | case1 => exact spaced_nil
  | case2 c blank next others nextBlank ih => exact ih
  | case3 c blank next others visible ih =>
      have stops : Stops isBlank (collapseBlanks (next :: others)) :=
        stops_collapseBlanks (stops_cons (by simpa using visible))
      exact spaced_cons.mpr ⟨fun _ => ⟨rfl, stops⟩, ih⟩
  | case4 c blank => exact spaced_cons.mpr ⟨fun _ => ⟨rfl, stops_nil _⟩, spaced_nil⟩
  | case5 c rest visible ih => exact spaced_cons.mpr ⟨fun blank => absurd blank visible, ih⟩

/-- Where all blanks are single spaces, collapsing them changes nothing. -/
theorem collapseBlanks_of_spaced {text : List Char} (spaced : Spaced text) :
    collapseBlanks text = text := by
  induction text with
  | nil => rfl
  | cons c text ih =>
      obtain ⟨first, others⟩ := spaced_cons.mp spaced
      rw [collapseBlanks.eq_def]
      cases blank : isBlank c with
      | false => simp [blank, ih others]
      | true =>
          obtain ⟨rfl, stops⟩ := first blank
          cases text with
          | nil => simp [blank]
          | cons next text => simp [blank, stops next rfl, ih others]

/-- Collapsing blanks keeps every other character. -/
theorem filter_collapseBlanks (text : List Char) :
    (collapseBlanks text).filter (fun c => !isBlank c) = text.filter (fun c => !isBlank c) := by
  have space : isBlank ' ' = true := by decide
  fun_induction collapseBlanks text with
  | case1 => rfl
  | case2 c blank next others nextBlank ih => simpa [blank] using ih
  | case3 c blank next others visible ih => simpa [blank, space] using ih
  | case4 c blank => simp [blank, space]
  | case5 c rest visible ih => simpa [visible] using ih

/-! ### Tags -/

/-- No angle of a text opens one that is closed later. -/
def Untagged (text : List Char) : Prop :=
  ¬['<', '>'].Sublist text

theorem untagged_nil : Untagged [] := by
  intro inside
  cases inside

theorem untagged_cons {c : Char} {text : List Char} :
    Untagged (c :: text) ↔ (c = '<' → '>' ∉ text) ∧ Untagged text := by
  have inside : ['<', '>'].Sublist (c :: text) ↔
      ['<', '>'].Sublist text ∨ (c = '<' ∧ '>' ∈ text) := by
    rw [List.sublist_cons_iff]
    refine or_congr_right ⟨?_, ?_⟩
    · rintro ⟨closing, same, later⟩
      obtain ⟨rfl, rfl⟩ := List.cons.inj same
      exact ⟨rfl, List.singleton_sublist.mp later⟩
    · rintro ⟨rfl, later⟩
      exact ⟨['>'], rfl, List.singleton_sublist.mpr later⟩
  rw [Untagged, inside, not_or, not_and, and_comm, Untagged]

/-- Leaving characters out makes no tag. -/
theorem Untagged.of_sublist {part text : List Char} (inside : part.Sublist text)
    (untagged : Untagged text) : Untagged part :=
  fun angles => untagged (angles.trans inside)

theorem untagged_collapseBlanks {text : List Char} (untagged : Untagged text) :
    Untagged (collapseBlanks text) := by
  intro angles
  have visible := angles.filter fun c => !isBlank c
  rw [filter_collapseBlanks] at visible
  exact untagged (visible.trans List.filter_sublist)

/-- A tag begins at an angle that another one closes later. -/
theorem afterTag_eq_none {c : Char} {text : List Char} :
    afterTag (c :: text) = none ↔ (c = '<' → '>' ∉ text) := by
  by_cases angle : c = '<'
  · subst angle
    rw [afterTag, afterFirst_eq_none_iff (by simp), absent_iff_not_isInfix (by simp),
      List.singleton_infix_iff]
    simp
  · rw [afterTag]
    · simp [angle]
    · rintro rest same
      exact angle (List.cons.inj same).1

/-- An angle that is left has no closing one behind it, for it had none before. -/
theorem untagged_dropTags (text : List Char) : Untagged (dropTags text) := by
  rw [dropTags]
  induction text using consumes_afterTag.induction with
  | nil =>
      rw [replaceAll_nil]
      exact untagged_nil
  | found c text after read ih =>
      rw [consumes_afterTag.replaceAll_of_some read]
      exact ih
  | unread c text unread ih =>
      rw [replaceAll_of_none unread, untagged_cons]
      refine ⟨fun angle closing => ?_, ih⟩
      have before := (consumes_afterTag.replaceAll_sublist text).subset closing
      exact afterTag_eq_none.mp unread angle before

/-- A line break ends with an angle. -/
theorem closing_of_afterLineBreak {c : Char} {text after : List Char}
    (read : afterLineBreak (c :: text) = some after) : '>' ∈ text := by
  rw [Source.afterLineBreak_eq, Option.bind_eq_some_iff] at read
  obtain ⟨opened, opens, closes⟩ := read
  have inside := (List.dropWhile_suffix isBlank).trans (afterCaseless_isSuffix opens)
  apply inside.subset
  rw [Source.afterBreakEnd.eq_def] at closes
  split at closes
  case h_1 left ends => simp [ends]
  case h_2 left ends => simp [ends]
  case h_3 => cases closes

/-- Neither a tag nor a line break begins in a text whose angles do not close. -/
theorem absent_of_untagged {text : List Char} (untagged : Untagged text) :
    Absent afterTag text ∧ Absent afterLineBreak text := by
  induction text with
  | nil => exact ⟨trivial, trivial⟩
  | cons c text ih =>
      obtain ⟨unclosed, others⟩ := untagged_cons.mp untagged
      refine ⟨⟨afterTag_eq_none.mpr unclosed, (ih others).1⟩, ?_, (ih others).2⟩
      by_cases angle : c = '<'
      · cases found : afterLineBreak (c :: text) with
        | none => rfl
        | some after => exact absurd (closing_of_afterLineBreak found) (unclosed angle)
      · exact Plain.afterLineBreak_of_ne (Source.foldLetterDotted_ne_angle angle) text

/-! ### Clean labels -/

/-- A label without markup and with its blanks in order. -/
structure IsClean (label : List Char) : Prop where
  untagged : Untagged label
  spaced : Spaced label
  first : Stops isBlank label
  last : Stops isBlank label.reverse

/-- A label that has been cleaned is trimmed and spaced, and has no tags. -/
theorem isClean_cleanLabelChars (text : List Char) : IsClean (cleanLabelChars text) where
  untagged := by
    have whole := untagged_collapseBlanks (untagged_dropTags (breaksToSpaces text))
    exact whole.of_sublist (Source.trim_isInfix _).sublist
  spaced := (spaced_collapseBlanks _).of_isInfix (Source.trim_isInfix _)
  first := stops_trim _
  last := stops_reverse_trim _

/-- Cleaning leaves exactly the clean labels alone. -/
theorem cleanLabelChars_eq_self {label : List Char} :
    cleanLabelChars label = label ↔ IsClean label := by
  constructor
  · intro same
    exact same ▸ isClean_cleanLabelChars label
  · rintro ⟨untagged, spaced, first, last⟩
    obtain ⟨noTag, noBreak⟩ := absent_of_untagged untagged
    have breaks : breaksToSpaces label = label := replaceAll_of_absent noBreak
    have tags : dropTags label = label := replaceAll_of_absent noTag
    rw [cleanLabelChars, breaks, tags, collapseBlanks_of_spaced spaced, trim_of_stops first last]

/-- What is left of angles inside of angles is no tag. -/
example : cleanLabelChars "<<b>i> \t x<br/>".toList = "i> x".toList := by decide +kernel

end Flowchart.Text
