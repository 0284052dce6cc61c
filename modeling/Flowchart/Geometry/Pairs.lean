/-!
Pairs of items of a list.
-/

namespace Flowchart

/-- Every item with every later one. -/
def pairs {α : Type} : List α → List (α × α)
  | [] => []
  | item :: items => items.map (fun later => (item, later)) ++ pairs items

/-- Something holds of all pairs if it holds of every item and every later one. -/
theorem forall_mem_pairs {α : Type} {related : α → α → Prop} {items : List α} :
    (∀ pair ∈ pairs items, related pair.1 pair.2) ↔ items.Pairwise related := by
  induction items with
  | nil => simp [pairs]
  | cons item items ih =>
    rw [pairs, List.forall_mem_append, List.forall_mem_map, List.pairwise_cons, ih]

end Flowchart
