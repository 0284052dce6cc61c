import Mathlib.Data.List.Pairwise
import Mathlib.Data.List.Perm.Basic

/-!
Lists sorted by a number that each item has.

Main statement: `mergeSort_of_perm`.
-/

namespace Flowchart

variable {α : Type}

/-- After sorting, the keys do not descend. -/
theorem pairwise_mergeSort_key (key : α → Nat) (items : List α) :
    (items.mergeSort fun left right => key left ≤ key right).Pairwise
      fun left right => key left ≤ key right := by
  have sorted := @List.pairwise_mergeSort α (fun left right => decide (key left ≤ key right))
    (fun _ _ _ => by simpa using Nat.le_trans) (fun left right => by
      simpa using Nat.le_total (key left) (key right)) items
  exact sorted.imp of_decide_eq_true

/-- Sorting brings what increases strictly back into its order. -/
theorem mergeSort_of_perm {found items : List α} {key : α → Nat} (same : found.Perm items)
    (increasing : items.Pairwise fun left right => key left < key right) :
    (found.mergeSort fun left right => key left ≤ key right) = items := by
  refine List.Perm.eq_of_pairwise ?_ (pairwise_mergeSort_key key found)
    (increasing.imp Nat.le_of_lt) ((List.mergeSort_perm _ _).trans same)
  intro left right leftMember rightMember atMost atLeast
  have symmetric : Std.Symm fun left right : α => key left ≠ key right := ⟨fun _ _ => Ne.symm⟩
  have differs : items.Pairwise fun left right => key left ≠ key right :=
    increasing.imp Nat.ne_of_lt
  by_contra unequal
  exact differs.forall (same.mem_iff.mp (List.mem_mergeSort.mp leftMember)) rightMember unequal
    (Nat.le_antisymm atMost atLeast)

end Flowchart
