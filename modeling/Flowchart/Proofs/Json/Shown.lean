import Flowchart.Json.Printer

/-!
Values as texts of their own.

Every value but the empty string shows something, so that a value that is given has a text that is
not empty.

Main statement: `Json.toText_ne_empty`.
-/

namespace Flowchart

theorem append_ne_empty_left {front : String} (shown : front ≠ "") (back : String) :
    front ++ back ≠ "" := by
  simp [String.append_eq_empty_iff, shown]

theorem append_ne_empty_right (front : String) {back : String} (shown : back ≠ "") :
    front ++ back ≠ "" := by
  simp [String.append_eq_empty_iff, shown]

/-! ### Numbers -/

namespace Decimal

theorem natDigits_ne_nil (n : Nat) : natDigits n ≠ [] :=
  Nat.toDigits_ne_nil

theorem natText_ne_empty (n : Nat) : natText n ≠ "" :=
  mt String.ofList_eq_empty_iff.mp (natDigits_ne_nil n)

theorem intText_ne_empty (n : Int) : intText n ≠ "" := by
  unfold intText
  split
  · exact append_ne_empty_left (by decide) _
  · exact natText_ne_empty _

theorem positional_ne_nil (digits : List Char) (place : Int) : positional digits place ≠ [] := by
  unfold positional
  split <;> simp

theorem withExponent_ne_nil (digits : List Char) (exponent : Int) :
    withExponent digits exponent ≠ [] := by
  simp [withExponent, exponentText]

theorem floatText_ne_empty {style : Style} (notANumber : style.notANumber ≠ "")
    (infinity : style.infinity ≠ "") (x : Float) : floatText style x ≠ "" := by
  unfold floatText
  split
  · exact notANumber
  · dsimp only
    split
    · exact append_ne_empty_right _ infinity
    · split
      · exact append_ne_empty_right _ (by decide)
      · refine append_ne_empty_right _ (mt String.ofList_eq_empty_iff.mp ?_)
        split
        · exact positional_ne_nil _ _
        · exact withExponent_ne_nil _ _

end Decimal

/-! ### Values -/

/-- No excess is found in a number of no more digits than the limit. -/
theorem Limits.digitExcess?_eq_none {limits : Limits} {count : Nat} {told : Bool} :
    limits.digitExcess? count told = none ↔ exceeds limits.digits count = false := by
  unfold Limits.digitExcess? exceeds
  cases limits.digits <;> simp

namespace Json

theorem bracketed_ne_empty {left : String} (shown : left ≠ "") (right : String)
    (indent : Option Nat) (depth : Nat) (parts : List String) :
    bracketed left right indent depth parts ≠ "" := by
  unfold bracketed
  split
  · exact append_ne_empty_left shown right
  · cases indent with
    | none => exact append_ne_empty_left (append_ne_empty_left shown _) _
    | some width =>
        dsimp only
        iterate 4 refine append_ne_empty_left ?_ _
        exact shown

/-- Every value but a string shows something. -/
theorem display_ne_empty {value : Json} (wordless : ∀ text, value ≠ str text) :
    value.display ≠ "" := by
  rw [display]
  cases value with
  | null => decide
  | bool value => cases value <;> decide
  | int value => exact Decimal.intText_ne_empty value
  | float value => exact Decimal.floatText_ne_empty (by decide) (by decide) value
  | str text => exact absurd rfl (wordless text)
  | arr items =>
      have opened : "[" ≠ "" := by decide
      rw [displayWith]
      exact bracketed_ne_empty opened _ _ _ _
  | obj fields | escaped fields =>
      have opened : "\x7b" ≠ "" := by decide
      rw [displayWith]
      exact bracketed_ne_empty opened _ _ _ _

/-- A value is shown as it is displayed, if it is shown at all. -/
theorem shown_eq_ok_iff {limits : Limits} {quote : String → String} {value : Json}
    {text : String} : value.shown limits quote = .ok text ↔
      value.excess? limits .shown limits.showing = none ∧ value.displayWith quote = text := by
  rw [shown]
  cases value.excess? limits .shown limits.showing <;> simp

/-- A value that is given has a text that is not empty. -/
theorem toText_ne_empty {limits : Limits} {value : Json} {text : String}
    (given : value.isVoid = false) (shown : value.toText limits = .ok text) : text ≠ "" := by
  unfold toText at shown
  split at shown
  case h_1 word =>
    cases shown
    simpa [isVoid] using given
  case h_2 wordless =>
    obtain ⟨-, rfl⟩ := shown_eq_ok_iff.mp shown
    exact display_ne_empty wordless

end Json

end Flowchart
