import Flowchart.Proofs.Text.Front

/-!
What recognizers can read.

A property of everything that a recognizer reads is a property of everything that is read by
choosing between such recognizers, by repeating one, or by searching a text for it.
-/

namespace Flowchart.Text

/-- Everything that a recognizer reads has a property. -/
def Yields {α : Type} (item : Recognizer α) (property : α → Prop) : Prop :=
  ∀ ⦃text : List Char⦄ ⦃value : α⦄ ⦃rest : List Char⦄, item text = some (value, rest) →
    property value

variable {α : Type} {item : Recognizer α} {property : α → Prop}

/-- A run that is read is not empty. -/
theorem yields_run1 (belongs : Char → Bool) : Yields (run1 belongs) (· ≠ []) :=
  fun _ _ _ read => (run1_eq_some.mp read).1

/-- What all choices yield, the choice between them yields. -/
theorem yields_firstOf {choices : List (Recognizer α)}
    (each : ∀ choice ∈ choices, Yields choice property) : Yields (firstOf choices) property := by
  intro text value rest read
  obtain ⟨choice, member, chosen⟩ := List.exists_of_findSome?_eq_some read
  exact each choice member chosen

/-- What a reader yields holds of each of the many values that it reads. -/
theorem Yields.of_mem_many (yields : Yields item property) (text : List Char) :
    ∀ value ∈ (many item text).1, property value := by
  fun_induction many item text with
  | case1 text value rest read shorter values left repeated ih =>
      intro other member
      rcases List.mem_cons.mp member with rfl | later
      · exact yields read
      · rw [repeated] at ih
        exact ih other later
  | case2 | case3 => simp

/-- What a reader yields holds of everything that is found with it in a text. -/
theorem Yields.of_mem_findAll (yields : Yields item property) (position : Nat)
    (text : List Char) : ∀ found ∈ findAll item position text, property found.2 := by
  fun_induction findAll item position text with
  | case1 => simp
  | case2 position c rest value left read shorter stop ih =>
      intro found member
      rcases List.mem_cons.mp member with rfl | later
      · exact yields read
      · exact ih found later
  | case3 position c rest value left read longer ih => exact ih
  | case4 position c rest refused ih => exact ih

end Flowchart.Text
