/-!
Connected components: which ids a set of edges ties together. Components come in the order of
their first members, and members keep the order of the ids.
-/

namespace Flowchart.Layout

/-- Whether an edge joins two ids, in either direction. -/
def joins (edges : List (String × String)) (left right : String) : Bool :=
  edges.contains (left, right) || edges.contains (right, left)

/-- The ids that an edge joins with the given one. -/
def neighbors (edges : List (String × String)) (id : String) (ids : List String) : List String :=
  ids.filter fun other => joins edges id other

/-- The ids that no edge joins with the given one. -/
def strangers (edges : List (String × String)) (id : String) (ids : List String) : List String :=
  ids.filter fun other => !joins edges id other

/-- Every id is either a neighbor or a stranger. -/
theorem length_neighbors_add_length_strangers (edges : List (String × String)) (id : String)
    (ids : List String) :
    (neighbors edges id ids).length + (strangers edges id ids).length = ids.length := by
  induction ids with
  | nil => rfl
  | cons other ids ih =>
    simp only [neighbors, strangers] at ih ⊢
    cases h : joins edges id other <;> simp [h] <;> omega

/-- What remains of the ids not seen so far, after everything that can be reached from the pending
ids has been taken out. -/
def unreached (edges : List (String × String)) (pending unseen : List String) : List String :=
  match pending with
  | [] => unseen
  | id :: pending =>
    unreached edges (neighbors edges id unseen ++ pending) (strangers edges id unseen)
termination_by pending.length + unseen.length
decreasing_by
  have split := length_neighbors_add_length_strangers edges id unseen
  simp only [List.length_append, List.length_cons]
  omega

/-- Taking out never adds an id. -/
theorem length_unreached_le (edges : List (String × String)) (pending unseen : List String) :
    (unreached edges pending unseen).length ≤ unseen.length := by
  fun_induction unreached edges pending unseen with
  | case1 unseen => exact Nat.le_refl _
  | case2 unseen id pending ih =>
    exact Nat.le_trans ih (List.length_filter_le _ _)

/-- The connected components of a list of ids. -/
def components (edges : List (String × String)) : List String → List (List String)
  | [] => []
  | root :: others =>
    let left := unreached edges [root] others
    (root :: others.filter fun other => !left.contains other) :: components edges left
termination_by ids => ids.length
decreasing_by
  have bound := length_unreached_le edges [root] others
  simp only [List.length_cons]
  omega

end Flowchart.Layout
