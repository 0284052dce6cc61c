import Mathlib.Tactic.Linarith
import Flowchart.Proofs.Keyed
import Flowchart.Proofs.Layout.Bounds

/-!
Nodes that are placed at a corner.

Whatever the layout of a component returns, every node gets a center, and the whole drawing is moved
so that nothing stands to the left of the corner or above it.

Main statement: `corner_le_placeNodes`.
-/

namespace Flowchart

namespace Layout

/-- Every id is in a component. -/
theorem mem_flatten_components (edges : List (String × String)) {ids : List String} {id : String}
    (member : id ∈ ids) : id ∈ (components edges ids).flatten := by
  fun_induction components edges ids with
  | case1 => cases member
  | case2 root others left ih =>
      rw [List.flatten_cons, List.mem_append]
      rcases List.mem_cons.mp member with rfl | later
      · exact Or.inl List.mem_cons_self
      · by_cases unreached : id ∈ left
        · exact Or.inr (ih unreached)
        · refine Or.inl (List.mem_cons_of_mem root (List.mem_filter.mpr ⟨later, ?_⟩))
          simpa using unreached

variable {K : Type} [Scalar K]

theorem map_id_componentBoxes (layout : ComponentLayout K) (sizes : Keyed (Size K))
    (edges : List (String × String)) (nodeSpacing rankSpacing : K) (ids : List String) :
    (componentBoxes layout sizes edges nodeSpacing rankSpacing ids).map Box.id = ids := by
  refine List.ext_getElem? fun position => ?_
  rw [componentBoxes, List.getElem?_map, List.getElem?_mapIdx, Option.map_map]
  exact Option.map_id'

theorem map_fst_pack (gap cursor : K) (placed : List (List (Box K))) :
    (pack gap cursor placed).map Prod.fst = (placed.map (List.map Box.id)).flatten := by
  induction placed generalizing cursor with
  | nil => rfl
  | cons boxes placed ih =>
      rw [pack, List.map_append, ih, List.map_cons, List.flatten_cons, List.map_map]
      rfl

theorem keys_flush (marginX marginY : K) (sizes : Keyed (Size K))
    (centers : List (String × Point K)) :
    Keyed.keys (flush marginX marginY sizes centers) = centers.map Prod.fst := by
  rw [Keyed.keys, flush, List.map_map]
  rfl

/-- The centers come component by component. -/
theorem keys_place (layout : ComponentLayout K) (options : PlacementOptions K)
    (sizes : Keyed (Size K)) (edges : List (String × String)) :
    Keyed.keys (place layout options sizes edges) =
      (components (properEdges sizes.keys edges) sizes.keys).flatten := by
  have oriented : Prod.fst ∘ (fun entry : String × Point K =>
      (entry.1, orient options.direction entry.2)) = Prod.fst := rfl
  rw [place, keys_flush, List.map_map, oriented, map_fst_pack, List.map_map]
  simp [Function.comp_def, map_id_componentBoxes]

/-- Every box has a center. -/
theorem mem_keys_place (layout : ComponentLayout K) (options : PlacementOptions K)
    {sizes : Keyed (Size K)} (edges : List (String × String)) {id : String}
    (member : id ∈ sizes.keys) : id ∈ Keyed.keys (place layout options sizes edges) := by
  rw [keys_place]
  exact mem_flatten_components (properEdges sizes.keys edges) member

/-- Nothing stands to the left of the margin or above it. -/
theorem le_of_mem_flush {marginX marginY : Rat} {sizes : Keyed (Size Rat)}
    {centers : List (String × Point Rat)} {id : String} {center : Point Rat}
    (member : (id, center) ∈ flush marginX marginY sizes centers) :
    marginX ≤ center.x - ((Keyed.find? id sizes).getD default).width / 2 ∧
      marginY ≤ center.y - ((Keyed.find? id sizes).getD default).height / 2 := by
  obtain ⟨entry, listed, same⟩ := List.mem_map.mp member
  cases same
  let box : Box Rat := ⟨entry.1, entry.2, (Keyed.find? entry.1 sizes).getD default⟩
  let boxes : List (Box Rat) := centers.map fun entry =>
    ⟨entry.1, entry.2, (Keyed.find? entry.1 sizes).getD default⟩
  have inside : box ∈ boxes := List.mem_map_of_mem listed
  have left : smallest Box.left boxes ≤ entry.2.x - box.size.width / 2 :=
    smallest_le Box.left inside
  have top : smallest Box.top boxes ≤ entry.2.y - box.size.height / 2 :=
    smallest_le Box.top inside
  constructor
  · change marginX ≤ entry.2.x + (marginX - smallest Box.left boxes) - box.size.width / 2
    linarith
  · change marginY ≤ entry.2.y + (marginY - smallest Box.top boxes) - box.size.height / 2
    linarith

end Layout

namespace Swimlane

open Layout (ComponentLayout)

/-- Placed nodes stand to the right of the corner and below it. -/
theorem corner_le_placeNodes (layout : ComponentLayout Rat) (options : LayoutOptions Rat)
    (edges : List Edge) {corner : Point Rat} {members : List (Node Rat)} {node : Node Rat}
    (placed : node ∈ placeNodes layout options edges corner members) :
    corner.x ≤ node.x ∧ corner.y ≤ node.y := by
  obtain ⟨old, listed, same⟩ := List.mem_map.mp placed
  have known :
      old.id ∈ (Keyed.ofPairs (members.map fun node => (node.id, node.footprint))).keys := by
    rw [Keyed.mem_keys_ofPairs, List.map_map]
    exact List.mem_map_of_mem listed
  generalize Keyed.ofPairs (members.map fun node => (node.id, node.footprint)) = sizes at known same
  obtain ⟨center, found, isCenter⟩ := Keyed.exists_mem_of_mem_keys
    (Layout.mem_keys_place layout
      ⟨options.direction, options.nodeSpacing, options.rankSpacing, corner.x, corner.y⟩
      (internalEdges edges members) known)
  obtain ⟨size, isSize, _⟩ := Keyed.exists_mem_of_mem_keys known
  have bounds := Layout.le_of_mem_flush isCenter
  simp only [found, isSize, Option.getD_some] at same bounds
  rw [← same]
  exact bounds

end Swimlane

end Flowchart
