import Flowchart.Proofs.Source.Insertion
import Flowchart.Text.Markup

/-!
Replacing, one occurrence after the other.

An occurrence takes something from the front of a text and leaves an end of it. A text is thus gone
through from the left: either something occurs, is replaced and passed over, or one character stays.

Main definition: `Consumes`. Main statement: `Consumes.induction`.
-/

namespace Flowchart.Text

/-- An occurrence test that takes at least one character and leaves an end of the text. -/
def Consumes (occurrence : List Char → Option (List Char)) : Prop :=
  ∀ ⦃c : Char⦄ ⦃text after : List Char⦄, occurrence (c :: text) = some after → after <:+ text

section Replacing

variable {occurrence : List Char → Option (List Char)} {replacement : List Char} {c : Char}
  {text after : List Char}

theorem replaceAll_nil (occurrence : List Char → Option (List Char)) (replacement : List Char) :
    replaceAll occurrence replacement [] = [] :=
  replaceAllWith.eq_1 _ _

/-- A character at which nothing occurs is kept. -/
theorem replaceAll_of_none (unread : occurrence (c :: text) = none) :
    replaceAll occurrence replacement (c :: text) =
      c :: replaceAll occurrence replacement text := by
  rw [replaceAll, replaceAllWith, unread]
  rfl

namespace Consumes

/-- An occurrence is replaced, and the search goes on behind it. -/
theorem replaceAll_of_some (consumes : Consumes occurrence)
    (read : occurrence (c :: text) = some after) :
    replaceAll occurrence replacement (c :: text) =
      replacement ++ replaceAll occurrence replacement after := by
  have shorter : after.length < (c :: text).length :=
    Nat.lt_succ_of_le (consumes read).length_le
  exact replaceAllWith_of_some _ read shorter

/-- Induction along a replacement: what occurs is passed over, and what does not is gone through
character by character. -/
theorem induction (consumes : Consumes occurrence) {motive : List Char → Prop}
    (nil : motive [])
    (found : ∀ c text after, occurrence (c :: text) = some after → motive after →
      motive (c :: text))
    (unread : ∀ c text, occurrence (c :: text) = none → motive text → motive (c :: text))
    (text : List Char) : motive text := by
  match text with
  | [] => exact nil
  | c :: text =>
    cases read : occurrence (c :: text) with
    | none => exact unread c text read (induction consumes nil found unread text)
    | some after =>
        have shorter := (consumes read).length_le
        exact found c text after read (induction consumes nil found unread after)
termination_by text.length
decreasing_by
  · exact Nat.lt_succ_self _
  · exact Nat.lt_succ_of_le shorter

/-- Where nothing is put in the place of what occurs, a part of the text is left. -/
theorem replaceAll_sublist (consumes : Consumes occurrence) (text : List Char) :
    (replaceAll occurrence [] text).Sublist text := by
  induction text using consumes.induction with
  | nil => simp [replaceAll_nil]
  | found c text after read ih =>
      rw [consumes.replaceAll_of_some read]
      exact (ih.trans (consumes read).sublist).cons c
  | unread c text unread ih =>
      rw [replaceAll_of_none unread]
      exact ih.cons_cons c

/-- What is left holds characters of the text and of the replacement. -/
theorem mem_replaceAll (consumes : Consumes occurrence)
    (member : c ∈ replaceAll occurrence replacement text) : c ∈ replacement ∨ c ∈ text := by
  induction text using consumes.induction with
  | nil =>
      rw [replaceAll_nil] at member
      cases member
  | found d text after read ih =>
      rw [consumes.replaceAll_of_some read] at member
      rcases List.mem_append.mp member with inside | later
      · exact Or.inl inside
      · exact (ih later).imp_right fun behind =>
          List.mem_cons_of_mem d ((consumes read).subset behind)
  | unread d text unread ih =>
      rw [replaceAll_of_none unread] at member
      rcases List.mem_cons.mp member with rfl | later
      · exact Or.inr List.mem_cons_self
      · exact (ih later).imp_right (List.mem_cons_of_mem d)

end Consumes

end Replacing

/-! ### What cleaning looks for -/

theorem consumes_afterTag : Consumes afterTag := by
  intro c text after read
  rw [afterTag.eq_def] at read
  split at read
  case h_1 rest same =>
    obtain ⟨-, rfl⟩ := List.cons.inj same
    exact afterFirst_isSuffix read
  case h_2 => cases read

theorem consumes_afterLineBreak : Consumes afterLineBreak := by
  intro c text after read
  rw [Source.afterLineBreak_eq, Option.bind_eq_some_iff] at read
  obtain ⟨opened, opens, closes⟩ := read
  have start := (List.dropWhile_suffix isBlank).trans (afterCaseless_isSuffix opens)
  rw [Source.afterBreakEnd.eq_def] at closes
  split at closes
  case h_1 left ends =>
    cases closes
    have tail : after <:+ '/' :: '>' :: after := ⟨['/', '>'], rfl⟩
    exact tail.trans (ends ▸ start)
  case h_2 left ends =>
    cases closes
    exact (List.suffix_cons _ _).trans (ends ▸ start)
  case h_3 => cases closes

/-- A directive takes at least its opening and closing marks. -/
theorem consumes_afterDirective : Consumes Source.afterDirective := by
  intro c text after read
  simp only [Source.afterDirective, Option.bind_eq_bind, Option.bind_eq_some_iff] at read
  obtain ⟨opened, opens, named, names, body, colon, ends⟩ := read
  rw [afterLiteral_eq] at opens
  have first : opened <:+ text := afterCaseless_isSuffix opens
  have second := (afterLiteral_isSuffix names).trans (List.dropWhile_suffix isBlank)
  have third := (afterLiteral_isSuffix colon).trans (List.dropWhile_suffix isBlank)
  exact (afterFirst_isSuffix ends).trans (third.trans (second.trans first))

end Flowchart.Text
