import Flowchart.Proofs.Layout.Abreast
import Flowchart.Proofs.Layout.Forgetful

/-!
Drawings flush with their margins.

Whatever the layout of a component returns, every box has one center, and in the end the whole
drawing is moved so that its leftmost box stands at the left margin and its topmost box at the upper
one. So a graph without groups starts at the margins of the page.

Main definitions: `atMargins`, `Flush`. Main statement: `place_flush`.
-/

namespace Flowchart

namespace Layout

/-! ### Moved boxes -/

section Boxes

variable {K : Type} [Scalar K]

/-- A box moved by some amounts. -/
def Box.moved (dx dy : K) (box : Box K) : Box K :=
  { box with center := ⟨box.center.x + dx, box.center.y + dy⟩ }

/-- Boxes moved together so that the leftmost and the topmost one stand at the margins. -/
def atMargins (marginX marginY : K) (boxes : List (Box K)) : List (Box K) :=
  boxes.map (Box.moved (marginX - smallest Box.left boxes) (marginY - smallest Box.top boxes))

/-- Centers are moved to the margins by one shift for all. -/
theorem flush_eq_map (marginX marginY : K) (sizes : Keyed (Size K)) (centers : Keyed (Point K)) :
    flush marginX marginY sizes centers = centers.map fun entry =>
      (entry.1,
        ⟨entry.2.x + (marginX - smallest Box.left (drawing sizes centers)),
          entry.2.y + (marginY - smallest Box.top (drawing sizes centers))⟩) :=
  rfl

/-- Moving centers to the margins moves the boxes around them there. -/
theorem drawing_flush (marginX marginY : K) (sizes : Keyed (Size K)) (centers : Keyed (Point K)) :
    drawing sizes (flush marginX marginY sizes centers) =
      atMargins marginX marginY (drawing sizes centers) := by
  rw [flush_eq_map, atMargins, drawing, List.map_map, drawing, List.map_map]
  rfl

theorem map_id_drawing (sizes : Keyed (Size K)) (centers : Keyed (Point K)) :
    (drawing sizes centers).map Box.id = centers.keys := by
  rw [drawing, List.map_map]
  rfl

/-- Each box has one center. -/
theorem perm_keys_place (layout : ComponentLayout K) (options : PlacementOptions K)
    (edges : List (String × String)) {sizes : Keyed (Size K)} (distinct : sizes.keys.Nodup) :
    (Keyed.keys (place layout options sizes edges)).Perm sizes.keys := by
  rw [keys_place]
  exact perm_flatten_components _ distinct

end Boxes

/-! ### Exact margins -/

section Margins

variable {boxes : List (Box Rat)}

theorem Box.left_moved (dx dy : Rat) (box : Box Rat) : (box.moved dx dy).left = box.left + dx := by
  change box.center.x + dx - box.size.width / 2 = box.center.x - box.size.width / 2 + dx
  ring

theorem Box.top_moved (dx dy : Rat) (box : Box Rat) : (box.moved dx dy).top = box.top + dy := by
  change box.center.y + dy - box.size.height / 2 = box.center.y - box.size.height / 2 + dy
  ring

/-- Boxes whose values all grow by what their smallest value lacks to a margin start at it. -/
theorem isLeast_of_moves {value : Box Rat → Rat} {move : Box Rat → Box Rat} {margin : Rat}
    (moves : ∀ box, value (move box) = value box + (margin - smallest value boxes))
    (inhabited : boxes ≠ []) : IsLeast {x | x ∈ (boxes.map move).map value} margin := by
  have least := isLeast_map_add (isLeast_smallest value inhabited) (margin - smallest value boxes)
  rw [add_sub_cancel, List.map_map] at least
  rw [List.map_map]
  exact List.map_congr_left (fun box _ => moves box) ▸ least

/-- Boxes at their margins start there. -/
theorem isLeast_atMargins (marginX marginY : Rat) (inhabited : boxes ≠ []) :
    IsLeast {x | x ∈ (atMargins marginX marginY boxes).map Box.left} marginX ∧
      IsLeast {y | y ∈ (atMargins marginX marginY boxes).map Box.top} marginY := by
  constructor
  · exact isLeast_of_moves (fun box => box.left_moved _ _) inhabited
  · exact isLeast_of_moves (fun box => box.top_moved _ _) inhabited

/-- A drawing that has each box once and starts at its margins. -/
structure Flush (marginX marginY : Rat) (sizes : Keyed (Size Rat)) (boxes : List (Box Rat)) :
    Prop where
  /-- Each id has one box, and there are no others. -/
  complete : (boxes.map Box.id).Perm sizes.keys
  /-- Boxes have their sizes. -/
  sized : ∀ box ∈ boxes, (box.id, box.size) ∈ sizes
  /-- The leftmost box stands at the left margin. -/
  left : IsLeast {x | x ∈ boxes.map Box.left} marginX
  /-- The topmost box stands at the upper margin. -/
  top : IsLeast {y | y ∈ boxes.map Box.top} marginY

/-- A placement of some sizes has its least coordinates at the margins. -/
theorem flush_drawing (layout : ComponentLayout Rat) (options : PlacementOptions Rat)
    (edges : List (String × String)) {sizes : Keyed (Size Rat)} (inhabited : sizes ≠ [])
    (distinct : sizes.keys.Nodup) :
    Flush options.marginX options.marginY sizes
      (drawing sizes (place layout options sizes edges)) := by
  have complete : ((drawing sizes (place layout options sizes edges)).map Box.id).Perm
      sizes.keys := by
    rw [map_id_drawing]
    exact perm_keys_place layout options edges distinct
  have sized : ∀ box ∈ drawing sizes (place layout options sizes edges),
      (box.id, box.size) ∈ sizes := by
    intro box member
    apply size_of_mem_drawing member
    exact complete.mem_iff.mp (List.mem_map_of_mem member)
  have drawn : drawing sizes (place layout options sizes edges) ≠ [] := by
    intro empty
    rw [empty] at complete
    exact inhabited (List.map_eq_nil_iff.mp (List.nil_perm.mp complete))
  rw [place_eq_flush, drawing_flush] at complete sized drawn ⊢
  obtain ⟨left, top⟩ :=
    isLeast_atMargins options.marginX options.marginY (List.map_eq_nil_iff.not.mp drawn)
  exact ⟨complete, sized, left, top⟩

end Margins

end Layout

/-! ### Placed nodes -/

namespace Swimlane

open Layout (ComponentLayout drawing place)

section Nodes

variable {K : Type} [Scalar K] (layout : ComponentLayout K) (options : LayoutOptions K)
  (edges : List Edge) (corner : Point K) (members : List (Node K))

/-- The spaces of nodes under their ids. -/
def sizesOf (members : List (Node K)) : Keyed (Size K) :=
  Keyed.ofPairs (members.map fun node => (node.id, node.footprint))

/-- The centers of nodes, placed by the edges between them. -/
def centersOf : Keyed (Point K) :=
  place layout
    ⟨options.direction, options.nodeSpacing, options.rankSpacing, corner.x, corner.y⟩
    (sizesOf members) (internalEdges edges members)

/-- A node at its place among the placed ones. -/
def placedAt (node : Node K) : Node K :=
  match Keyed.find? node.id (centersOf layout options edges corner members) with
  | none => node
  | some center =>
    let size := (Keyed.find? node.id (sizesOf members)).getD node.footprint
    node.movedTo (center.x - Scalar.half size.width) (center.y - Scalar.half size.height)

/-- Every member goes to its own place. -/
theorem placeNodes_eq_map : placeNodes layout options edges corner members =
    members.map (placedAt layout options edges corner members) :=
  rfl

/-- Every member has a size, and nothing else has. -/
theorem mem_keys_sizesOf {id : String} :
    id ∈ (sizesOf members).keys ↔ id ∈ members.map Node.id := by
  rw [sizesOf, Keyed.mem_keys_ofPairs, List.map_map]
  rfl

/-- A box of the drawing of nodes is that of a node at its place. -/
theorem exists_placed {box : Layout.Box K}
    (drawn : box ∈ drawing (sizesOf members) (centersOf layout options edges corner members)) :
    ∃ node ∈ placeNodes layout options edges corner members,
      node.x = box.left ∧ node.y = box.top := by
  obtain ⟨⟨id, center⟩, listed, rfl⟩ := List.mem_map.mp drawn
  have distinct : (sizesOf members).keys.Nodup := Keyed.nodup_keys_ofPairs _
  have perm : (centersOf layout options edges corner members).keys.Perm (sizesOf members).keys :=
    Layout.perm_keys_place layout _ _ distinct
  have known : id ∈ (sizesOf members).keys :=
    perm.mem_iff.mp (List.mem_map.mpr ⟨_, listed, rfl⟩)
  have found : Keyed.find? id (centersOf layout options edges corner members) = some center :=
    Keyed.find?_of_mem (perm.nodup_iff.mpr distinct) listed
  obtain ⟨size, isSize, -⟩ := Keyed.exists_mem_of_mem_keys known
  obtain ⟨node, member, rfl⟩ := List.mem_map.mp ((mem_keys_sizesOf members).mp known)
  have inside : placedAt layout options edges corner members node ∈
      placeNodes layout options edges corner members := by
    rw [placeNodes_eq_map]
    exact List.mem_map_of_mem member
  refine ⟨_, inside, ?_⟩
  simp only [placedAt, found, isSize]
  exact ⟨rfl, rfl⟩

end Nodes

/-- Placed nodes start at the corner. -/
theorem isLeast_placeNodes (layout : ComponentLayout Rat) (options : LayoutOptions Rat)
    (edges : List Edge) (corner : Point Rat) {members : List (Node Rat)}
    (inhabited : members ≠ []) :
    IsLeast {x | x ∈ (placeNodes layout options edges corner members).map Node.x} corner.x ∧
      IsLeast {y | y ∈ (placeNodes layout options edges corner members).map Node.y} corner.y := by
  have someSize : sizesOf members ≠ [] := by
    obtain ⟨node, member⟩ := List.exists_mem_of_ne_nil members inhabited
    intro empty
    have known := (mem_keys_sizesOf members).mpr (List.mem_map_of_mem member)
    rw [empty] at known
    cases known
  have flush := Layout.flush_drawing layout
    ⟨options.direction, options.nodeSpacing, options.rankSpacing, corner.x, corner.y⟩
    (internalEdges edges members) someSize (Keyed.nodup_keys_ofPairs _)
  constructor
  · obtain ⟨leftmost, drawn, atLeft⟩ := List.mem_map.mp flush.left.1
    obtain ⟨node, placed, atX, -⟩ := exists_placed layout options edges corner members drawn
    refine ⟨List.mem_map.mpr ⟨node, placed, atX.trans atLeft⟩, ?_⟩
    exact List.forall_mem_map.mpr fun node placed => (corner_le_placeNodes _ _ _ placed).1
  · obtain ⟨topmost, drawn, atTop⟩ := List.mem_map.mp flush.top.1
    obtain ⟨node, placed, -, atY⟩ := exists_placed layout options edges corner members drawn
    refine ⟨List.mem_map.mpr ⟨node, placed, atY.trans atTop⟩, ?_⟩
    exact List.forall_mem_map.mpr fun node placed => (corner_le_placeNodes _ _ _ placed).2

end Swimlane

namespace Layout

/-- Whatever the layout of a component returns, a drawing of some boxes has each of them once and is
flush with its margins, under every name of a direction. So a graph without groups, if its overlaps
are left alone, starts at the margins of the page. -/
theorem place_flush (layout : ComponentLayout Rat) :
    (∀ (name : String) (nodeSpacing rankSpacing marginX marginY : Rat) (sizes : Keyed (Size Rat))
        (edges : List (String × String)), sizes ≠ [] → sizes.keys.Nodup →
      Flush marginX marginY sizes (drawing sizes
        (place layout ⟨.ofName name, nodeSpacing, rankSpacing, marginX, marginY⟩ sizes edges))) ∧
    ∀ (options : LayoutOptions Rat) (graph : Graph Rat), graph.nodes ≠ [] → graph.groups = [] →
      options.resolveOverlaps = false →
        IsLeast {x | x ∈ (graph.layout layout options).nodes.map Node.x} 60 ∧
          IsLeast {y | y ∈ (graph.layout layout options).nodes.map Node.y} 60 := by
  constructor
  · intro name nodeSpacing rankSpacing marginX marginY sizes edges inhabited distinct
    exact flush_drawing layout ⟨.ofName name, nodeSpacing, rankSpacing, marginX, marginY⟩ edges
      inhabited distinct
  · intro options graph inhabited ungrouped untouched
    have nodes : (graph.layout layout options).nodes = graph.placedFlat layout options := by
      rw [Graph.layout_nodes_flat layout options ungrouped, untouched]
      rfl
    rw [nodes]
    exact Swimlane.isLeast_placeNodes layout options graph.edges ⟨60, 60⟩ inhabited

/-- A graph without groups, in which two nodes have one id and edges go in a circle. -/
def looseGraph : Graph Rat where
  nodes := [
    { id := "a", kind := .plain, label := "A", x := -300, y := 7 },
    { id := "b", kind := .decision, label := "B", parent := some "a", x := 0, y := 0 },
    { id := "a", kind := .decision, label := "A again", x := 900, y := 0 }]
  edges := [
    { id := "e0", source := "a", target := "b" }, { id := "e1", source := "b", target := "a" },
    { id := "e2", source := "b", target := "b" }, { id := "e3", source := "b", target := "c" }]

theorem place_flush_islands :
    islandSizes ≠ [] ∧ islandSizes.keys.Nodup ∧
      Flush 10 (-5) islandSizes (drawing islandSizes
        (place layered ⟨.ofName "RL", 40, 60, 10, -5⟩ islandSizes islandEdges)) ∧
      looseGraph.nodes ≠ [] ∧ looseGraph.groups = [] ∧
      ({ LayoutOptions.standard with resolveOverlaps := false } :
        LayoutOptions Rat).resolveOverlaps = false ∧
      IsLeast {x | x ∈ (looseGraph.layout layered
        { LayoutOptions.standard with resolveOverlaps := false }).nodes.map Node.x} 60 ∧
      IsLeast {y | y ∈ (looseGraph.layout layered
        { LayoutOptions.standard with resolveOverlaps := false }).nodes.map Node.y} 60 := by
  have inhabited : islandSizes ≠ [] := List.cons_ne_nil _ _
  have distinct : islandSizes.keys.Nodup := by decide
  have someNode : looseGraph.nodes ≠ [] := List.cons_ne_nil _ _
  have ungrouped : looseGraph.groups = [] := rfl
  obtain ⟨flush, starts⟩ := place_flush layered
  obtain ⟨leftmost, topmost⟩ :=
    starts { LayoutOptions.standard with resolveOverlaps := false } looseGraph someNode ungrouped
      rfl
  exact ⟨inhabited, distinct, flush "RL" 40 60 10 (-5) islandSizes islandEdges inhabited distinct,
    someNode, ungrouped, rfl, leftmost, topmost⟩

end Layout

end Flowchart
