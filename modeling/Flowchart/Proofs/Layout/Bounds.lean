import Mathlib.Order.Bounds.Basic
import Mathlib.Algebra.Order.Group.Unbundled.Basic
import Mathlib.Algebra.Order.Ring.Unbundled.Rat
import Flowchart.Layout.Swimlane

/-!
Exact bounds. Over the rationals the geometry of the scalars is the usual one, the measures of the
page are plain numbers, and the smallest and the greatest value on a list are those of an item and
bound the values of all items.

Main statements: `isLeast_smallest`, `isGreatest_largest`.
-/

namespace Flowchart

/-! ### Exact numbers -/

namespace Scalar

@[simp] theorem zero_rat : (zero : Rat) = 0 :=
  rfl

@[simp] theorem half_rat (x : Rat) : half x = x / 2 :=
  rfl

@[simp] theorem least_rat (x y : Rat) : least x y = min x y := by
  unfold least
  split
  case isTrue below => exact (min_eq_right (le_of_lt below)).symm
  case isFalse above => exact (min_eq_left (le_of_not_gt above)).symm

@[simp] theorem greatest_rat (x y : Rat) : greatest x y = max x y := by
  unfold greatest
  split
  case isTrue below => exact (max_eq_right (le_of_lt below)).symm
  case isFalse above => exact (max_eq_left (le_of_not_gt above)).symm

end Scalar

namespace Page

@[simp] theorem margin_rat : (margin : Rat) = 60 :=
  rfl

@[simp] theorem groupPadding_rat : (groupPadding : Rat) = 40 :=
  rfl

@[simp] theorem groupTitle_rat : (groupTitle : Rat) = 50 :=
  rfl

@[simp] theorem groupGap_rat : (groupGap : Rat) = 60 :=
  rfl

@[simp] theorem groupLeast_rat : (groupLeast : Size Rat) = ⟨300, 200⟩ :=
  rfl

@[simp] theorem orphanGap_rat : (orphanGap : Rat) = 100 :=
  rfl

end Page

/-! ### Values on a list -/

/-- Picking one of two numbers again and again, each time one that is related to both, ends with a
number of the list that is related to all. -/
theorem foldl_pick (pick : Rat → Rat → Rat) (related : Rat → Rat → Prop)
    (refl : ∀ x, related x x) (trans : ∀ x y z, related x y → related y z → related x z)
    (one : ∀ x y, pick x y = x ∨ pick x y = y)
    (both : ∀ x y, related (pick x y) x ∧ related (pick x y) y) (first : Rat)
    (others : List Rat) :
    others.foldl pick first ∈ first :: others ∧
      ∀ x ∈ first :: others, related (others.foldl pick first) x := by
  induction others generalizing first with
  | nil => simp [refl]
  | cons next others ih =>
      obtain ⟨member, all⟩ := ih (pick first next)
      have picked := all _ List.mem_cons_self
      rw [List.foldl_cons]
      constructor
      · rcases List.mem_cons.mp member with here | later
        · rw [here]
          rcases one first next with same | same <;> simp [same]
        · exact List.mem_cons_of_mem _ (List.mem_cons_of_mem _ later)
      · intro x listed
        rcases List.mem_cons.mp listed with rfl | listed
        · exact trans _ _ _ picked (both x next).1
        · rcases List.mem_cons.mp listed with rfl | later
          · exact trans _ _ _ picked (both first x).2
          · exact all x (List.mem_cons_of_mem _ later)

namespace Scalar

/-- The running minimum of a list that is not empty is a member of it and a lower bound. -/
theorem isLeast_leastOf (first : Rat) (others : List Rat) :
    IsLeast {x | x ∈ first :: others} (leastOf first others) := by
  have one : ∀ x y : Rat, least x y = x ∨ least x y = y := by
    intro x y
    rw [least_rat]
    exact min_choice x y
  exact foldl_pick least (· ≤ ·) le_refl (fun _ _ _ => le_trans) one (fun x y => by simp) first
    others

/-- The running maximum of a list that is not empty is a member of it and an upper bound. -/
theorem isGreatest_greatestOf (first : Rat) (others : List Rat) :
    IsGreatest {x | x ∈ first :: others} (greatestOf first others) := by
  have one : ∀ x y : Rat, greatest x y = x ∨ greatest x y = y := by
    intro x y
    rw [greatest_rat]
    exact max_choice x y
  exact foldl_pick greatest (· ≥ ·) le_refl (fun _ _ _ => ge_trans) one (fun x y => by simp) first
    others

end Scalar

namespace Layout

section Mapped

variable {K : Type} [Scalar K] {α β : Type}

theorem smallest_map (value : β → K) (f : α → β) (items : List α) :
    smallest value (items.map f) = smallest (fun item => value (f item)) items := by
  cases items with
  | nil => rfl
  | cons first items => simp only [List.map_cons, smallest, List.map_map, Function.comp_def]

theorem largest_map (value : β → K) (f : α → β) (items : List α) :
    largest value (items.map f) = largest (fun item => value (f item)) items := by
  cases items with
  | nil => rfl
  | cons first items => simp only [List.map_cons, largest, List.map_map, Function.comp_def]

end Mapped

/-- Where all numbers are shifted, the least one is shifted with them. -/
theorem isLeast_map_add {numbers : List Rat} {least : Rat}
    (isLeast : IsLeast {x | x ∈ numbers} least) (shift : Rat) :
    IsLeast {x | x ∈ numbers.map (· + shift)} (least + shift) := by
  refine ⟨List.mem_map.mpr ⟨_, isLeast.1, rfl⟩, fun x inside => ?_⟩
  obtain ⟨y, member, rfl⟩ := List.mem_map.mp inside
  exact add_le_add_left (isLeast.2 member) shift

/-- Where all numbers are shifted, the greatest one is shifted with them. -/
theorem isGreatest_map_add {numbers : List Rat} {greatest : Rat}
    (isGreatest : IsGreatest {x | x ∈ numbers} greatest) (shift : Rat) :
    IsGreatest {x | x ∈ numbers.map (· + shift)} (greatest + shift) := by
  refine ⟨List.mem_map.mpr ⟨_, isGreatest.1, rfl⟩, fun x inside => ?_⟩
  obtain ⟨y, member, rfl⟩ := List.mem_map.mp inside
  exact add_le_add_left (isGreatest.2 member) shift

variable {α : Type} {items : List α}

/-- The smallest value of some items is the value of one of them and a lower bound for all. -/
theorem isLeast_smallest (value : α → Rat) (inhabited : items ≠ []) :
    IsLeast {x | x ∈ items.map value} (smallest value items) := by
  obtain ⟨first, others, rfl⟩ := List.exists_cons_of_ne_nil inhabited
  exact Scalar.isLeast_leastOf (value first) (others.map value)

/-- The largest value of some items is the value of one of them and an upper bound for all. -/
theorem isGreatest_largest (value : α → Rat) (inhabited : items ≠ []) :
    IsGreatest {x | x ∈ items.map value} (largest value items) := by
  obtain ⟨first, others, rfl⟩ := List.exists_cons_of_ne_nil inhabited
  exact Scalar.isGreatest_greatestOf (value first) (others.map value)

/-- Values that are all shifted have a shifted greatest one. -/
theorem largest_add (value : α → Rat) (shift : Rat) (inhabited : items ≠ []) :
    largest (fun item => value item + shift) items = largest value items + shift := by
  have shifted := isGreatest_map_add (isGreatest_largest value inhabited) shift
  rw [List.map_map] at shifted
  exact (isGreatest_largest _ inhabited).unique shifted

/-- The smallest opposite value is the opposite of the greatest value. -/
theorem smallest_neg (value : α → Rat) (inhabited : items ≠ []) :
    smallest (fun item => -value item) items = -largest value items := by
  obtain ⟨attained, bound⟩ := isGreatest_largest value inhabited
  refine (isLeast_smallest _ inhabited).unique ⟨?_, fun x listed => ?_⟩
  · obtain ⟨item, member, same⟩ := List.mem_map.mp attained
    exact List.mem_map.mpr ⟨item, member, congrArg Neg.neg same⟩
  · obtain ⟨item, member, rfl⟩ := List.mem_map.mp listed
    exact neg_le_neg_iff.mpr (bound (List.mem_map_of_mem member))

/-- No item has less than the smallest value. -/
theorem smallest_le (value : α → Rat) {item : α} (member : item ∈ items) :
    smallest value items ≤ value item :=
  (isLeast_smallest value (List.ne_nil_of_mem member)).2 (List.mem_map_of_mem member)

/-- No item has more than the largest value. -/
theorem le_largest (value : α → Rat) {item : α} (member : item ∈ items) :
    value item ≤ largest value items :=
  (isGreatest_largest value (List.ne_nil_of_mem member)).2 (List.mem_map_of_mem member)

end Layout

end Flowchart
