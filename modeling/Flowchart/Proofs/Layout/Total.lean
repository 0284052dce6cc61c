import Flowchart.Proofs.Layout.Connected
import Flowchart.Proofs.Layout.Flush

/-!
Layout without defaults.

Where the layout looks up a size, a position or a center, or takes the least of some values, it has
a default for the case that there is none. The variants here have no result in that case. As soon as
the layout of a component gives every box a center, they have one for every graph, and it is that of
the layout: no default is ever used.

Main definitions: `ComponentLayout.Complete`, `Graph.layout?`. Main statement:
`Graph.layout?_eq_some`.
-/

namespace Flowchart

namespace Layout

variable {K : Type} [Scalar K]

/-- A component layout that gives every box a center. -/
def ComponentLayout.Complete (layout : ComponentLayout K) : Prop :=
  ∀ component nodeSpacing rankSpacing,
    component.sizes.length ≤ (layout component nodeSpacing rankSpacing).length

/-! ### Lookups in a placement -/

/-- The smallest value of a function on a list, if there is any. -/
def smallest? {α : Type} (value : α → K) (items : List α) : Option K :=
  if items.isEmpty then none else some (smallest value items)

/-- The greatest value of a function on a list, if there is any. -/
def largest? {α : Type} (value : α → K) (items : List α) : Option K :=
  if items.isEmpty then none else some (largest value items)

/-- The connected components of ids, if each end of an edge is one of them. -/
def components? (edges : List (String × String)) (ids : List String) :
    Option (List (List String)) :=
  if edges.all fun edge => ids.contains edge.1 && ids.contains edge.2 then
    some (components edges ids)
  else none

/-- The boxes of ids, if each of them has a size and there is a center at its position. -/
def boxesAt? (centers : List (Point K)) (sizes : Keyed (Size K)) (ids : List String) :
    Option (List (Box K)) :=
  ids.zipIdx.mapM fun entry => do
    some ⟨entry.1, ← centers[entry.2]?, ← Keyed.find? entry.1 sizes⟩

/-- The boxes of a component, if its ids have sizes, its edges stay inside, and its layout leaves
out no box. -/
def componentBoxes? (layout : ComponentLayout K) (sizes : Keyed (Size K))
    (edges : List (String × String)) (nodeSpacing rankSpacing : K) (ids : List String) :
    Option (List (Box K)) := do
  let inside := edges.filter fun edge => ids.contains edge.1
  let measures ← ids.mapM fun id => Keyed.find? id sizes
  let positions ← inside.mapM fun edge => do
    some (← ids.idxOf? edge.1, ← ids.idxOf? edge.2)
  boxesAt? (layout ⟨measures, positions⟩ nodeSpacing rankSpacing) sizes ids

/-- Components side by side, if none is empty. -/
def pack? (gap : K) : K → List (List (Box K)) → Option (List (String × Point K))
  | _, [] => some []
  | cursor, boxes :: rest => do
    let left ← smallest? Box.left boxes
    let right ← largest? Box.right boxes
    let top ← smallest? Box.top boxes
    let others ← pack? gap (cursor + (right - left + gap)) rest
    some (boxes.map (fun box => (box.id, ⟨box.center.x - left + cursor, box.center.y - top⟩)) ++
      others)

/-- A drawing moved to its margins, if all its boxes have sizes and there is at least one. -/
def flush? (marginX marginY : K) (sizes : Keyed (Size K)) (centers : List (String × Point K)) :
    Option (Keyed (Point K)) := do
  let boxes ← centers.mapM fun entry =>
    (Keyed.find? entry.1 sizes).map (Box.mk entry.1 entry.2)
  let left ← smallest? Box.left boxes
  let top ← smallest? Box.top boxes
  some (centers.map fun entry =>
    (entry.1, ⟨entry.2.x + (marginX - left), entry.2.y + (marginY - top)⟩))

/-- The boxes of all components in a drawing that grows downwards, if every component has them. -/
def uprightBoxes? (layout : ComponentLayout K) (options : PlacementOptions K)
    (sizes : Keyed (Size K)) (edges : List (String × String)) : Option (List (List (Box K))) := do
  let found ← components? (properEdges sizes.keys edges) sizes.keys
  found.mapM (componentBoxes? layout
    (sizes.map fun entry => (entry.1, upright options.direction entry.2))
    (properEdges sizes.keys edges) options.nodeSpacing options.rankSpacing)

/-- The centers of all boxes, if nothing is missing on the way. Without boxes there is nothing to
look for. -/
def place? (layout : ComponentLayout K) (options : PlacementOptions K) (sizes : Keyed (Size K))
    (edges : List (String × String)) : Option (Keyed (Point K)) :=
  if sizes.isEmpty then some []
  else do
    let placed ← uprightBoxes? layout options sizes edges
    let packed ← pack? options.nodeSpacing Scalar.zero placed
    flush? options.marginX options.marginY sizes
      (packed.map fun entry => (entry.1, orient options.direction entry.2))

/-! ### Nothing is missing in a placement -/

section Values

variable {α : Type} {items : List α}

theorem smallest?_eq_some (value : α → K) (inhabited : items ≠ []) :
    smallest? value items = some (smallest value items) := by
  rw [smallest?, if_neg (mt List.isEmpty_iff.mp inhabited)]

theorem largest?_eq_some (value : α → K) (inhabited : items ≠ []) :
    largest? value items = some (largest value items) := by
  rw [largest?, if_neg (mt List.isEmpty_iff.mp inhabited)]

end Values

/-- The search for components never meets an id that it does not know. -/
theorem components?_eq_some (ids : List String) (edges : List (String × String)) :
    components? (properEdges ids edges) ids = some (components (properEdges ids edges) ids) := by
  refine if_pos (List.all_eq_true.mpr fun edge proper => ?_)
  obtain ⟨-, -, source, target⟩ := mem_properEdges.mp proper
  simp [source, target]

/-- An edge that starts in a component stays there. -/
theorem target_mem_component {ids : List String} {edges : List (String × String)}
    (distinct : ids.Nodup) {component : List String}
    (listed : component ∈ components (properEdges ids edges) ids) {edge : String × String}
    (proper : edge ∈ properEdges ids edges) (source : edge.1 ∈ component) :
    edge.2 ∈ component := by
  obtain ⟨root, rest, rfl, members⟩ := exists_root distinct listed
  obtain ⟨-, -, known, known'⟩ := mem_properEdges.mp proper
  exact (members edge.2).mpr (((members edge.1).mp source).tail ⟨known, known', Or.inl proper⟩)

theorem idxOf?_eq_some {ids : List String} {id : String} (member : id ∈ ids) :
    ids.idxOf? id = some (ids.idxOf id) := by
  obtain ⟨position, found⟩ := Option.isSome_iff_exists.mp (List.isSome_idxOf?.mpr member)
  rw [List.idxOf_eq_getD_idxOf?, found, Option.getD_some]

/-- Boxes are found where there are enough centers and a size for every id. -/
theorem boxesAt?_eq_some {centers : List (Point K)} {sizes : Keyed (Size K)} {ids : List String}
    (within : ids.length ≤ centers.length) (sized : ids ⊆ sizes.keys) :
    boxesAt? centers sizes ids = some (ids.mapIdx fun position id =>
      ⟨id, centers.getD position ⟨Scalar.zero, Scalar.zero⟩,
        (Keyed.find? id sizes).getD default⟩) := by
  rw [boxesAt?, List.mapIdx_eq_zipIdx_map]
  refine mapM_eq_pure fun entry listed => ?_
  obtain ⟨bound, isEntry⟩ := List.mem_zipIdx' listed
  have member : entry.1 ∈ ids := isEntry ▸ List.getElem_mem bound
  have center : centers[entry.2]? =
      some (centers.getD entry.2 ⟨Scalar.zero, Scalar.zero⟩) := by
    rw [List.getD_eq_getElem?_getD, List.getElem?_eq_getElem (bound.trans_le within),
      Option.getD_some]
  rw [center, Keyed.find?_eq_some_getD (sized member) default]
  rfl

/-- A component finds all its sizes, positions and centers if its ids have sizes and its edges stay
inside. -/
theorem componentBoxes?_eq_some {layout : ComponentLayout K} (complete : layout.Complete)
    {sizes : Keyed (Size K)} {edges : List (String × String)} {ids : List String}
    (sized : ids ⊆ sizes.keys) (closed : ∀ edge ∈ edges, edge.1 ∈ ids → edge.2 ∈ ids)
    (nodeSpacing rankSpacing : K) :
    componentBoxes? layout sizes edges nodeSpacing rankSpacing ids =
      some (componentBoxes layout sizes edges nodeSpacing rankSpacing ids) := by
  have sizeOf : ∀ id ∈ ids,
      Keyed.find? id sizes = some ((Keyed.find? id sizes).getD default) :=
    fun id member => Keyed.find?_eq_some_getD (sized member) default
  have positionsOf : ∀ edge ∈ edges.filter fun edge => ids.contains edge.1,
      (do some (← ids.idxOf? edge.1, ← ids.idxOf? edge.2)) =
        some (ids.idxOf edge.1, ids.idxOf edge.2) := by
    intro edge inside
    obtain ⟨listed, starts⟩ := List.mem_filter.mp inside
    have source : edge.1 ∈ ids := List.contains_iff_mem.mp starts
    rw [idxOf?_eq_some source, idxOf?_eq_some (closed edge listed source)]
    rfl
  rw [componentBoxes?, mapM_eq_pure sizeOf, mapM_eq_pure positionsOf]
  refine boxesAt?_eq_some ?_ sized
  simpa only [List.length_map] using complete ⟨ids.map _, _⟩ nodeSpacing rankSpacing

/-- Components that are not empty can be packed. -/
theorem pack?_eq_some (gap cursor : K) {placed : List (List (Box K))}
    (inhabited : ∀ boxes ∈ placed, boxes ≠ []) :
    pack? gap cursor placed = some (pack gap cursor placed) := by
  induction placed generalizing cursor with
  | nil => rfl
  | cons boxes placed ih =>
      obtain ⟨first, later⟩ := List.forall_mem_cons.mp inhabited
      rw [pack?, smallest?_eq_some _ first, largest?_eq_some _ first, smallest?_eq_some _ first]
      simp only [Option.bind_eq_bind, Option.bind_some, ih _ later]
      rfl

/-- Centers with sizes can be moved to the margins if there are some. -/
theorem flush?_eq_some (marginX marginY : K) {sizes : Keyed (Size K)}
    {centers : List (String × Point K)} (inhabited : centers ≠ [])
    (sized : centers.map Prod.fst ⊆ sizes.keys) :
    flush? marginX marginY sizes centers = some (flush marginX marginY sizes centers) := by
  have boxOf : ∀ entry ∈ centers,
      (Keyed.find? entry.1 sizes).map (Box.mk entry.1 entry.2) =
        some ⟨entry.1, entry.2, (Keyed.find? entry.1 sizes).getD default⟩ := by
    intro entry listed
    rw [Keyed.find?_eq_some_getD (sized (List.mem_map_of_mem listed)) default]
    rfl
  have drawn : drawing sizes centers ≠ [] := mt List.map_eq_nil_iff.mp inhabited
  rw [flush?, mapM_eq_pure boxOf, ← drawing]
  simp only [Option.pure_def, Option.bind_eq_bind, Option.bind_some, smallest?_eq_some _ drawn]
  exact congrArg some (flush_eq_map marginX marginY sizes centers).symm

/-- A complete layout gives boxes for all ids that have a size. -/
theorem uprightBoxes?_eq_some {layout : ComponentLayout K} (complete : layout.Complete)
    (options : PlacementOptions K) {sizes : Keyed (Size K)} (distinct : sizes.keys.Nodup)
    (edges : List (String × String)) :
    uprightBoxes? layout options sizes edges = some (uprightBoxes layout options sizes edges) := by
  have sameKeys : Keyed.keys (sizes.map fun entry =>
      (entry.1, upright options.direction entry.2)) = sizes.keys := by
    rw [Keyed.keys, List.map_map]
    rfl
  rw [uprightBoxes?, components?_eq_some]
  refine mapM_eq_pure fun component listed => componentBoxes?_eq_some complete ?_ ?_ _ _
  · rw [sameKeys]
    exact (sublist_of_mem_components listed).subset
  · exact fun edge proper source => target_mem_component distinct listed proper source

/-- A placement of boxes with different ids finds everything that it looks for. -/
theorem place?_eq_some {layout : ComponentLayout K} (complete : layout.Complete)
    (options : PlacementOptions K) {sizes : Keyed (Size K)} (distinct : sizes.keys.Nodup)
    (edges : List (String × String)) :
    place? layout options sizes edges = some (place layout options sizes edges) := by
  rw [place?]
  split
  case isTrue empty =>
    have keys := perm_keys_place layout options edges distinct
    rw [List.isEmpty_iff.mp empty] at keys ⊢
    rw [List.map_eq_nil_iff.mp keys.eq_nil]
  case isFalse inhabited =>
    let centers := (pack options.nodeSpacing Scalar.zero
      (uprightBoxes layout options sizes edges)).map
        fun entry => (entry.1, orient options.direction entry.2)
    have keys : (centers.map Prod.fst).Perm sizes.keys := by
      have sameKeys : centers.map Prod.fst = (pack options.nodeSpacing Scalar.zero
          (uprightBoxes layout options sizes edges)).map Prod.fst := List.map_map
      rw [sameKeys, map_fst_pack, map_id_uprightBoxes]
      exact perm_flatten_components _ distinct
    have present : centers ≠ [] := by
      intro none
      rw [none] at keys
      exact inhabited (List.isEmpty_iff.mpr (List.map_eq_nil_iff.mp keys.nil_eq.symm))
    rw [uprightBoxes?_eq_some complete options distinct edges, Option.bind_eq_bind,
      Option.bind_some, pack?_eq_some _ _ fun _ => ne_nil_of_mem_uprightBoxes distinct,
      Option.bind_eq_bind, Option.bind_some, place_eq_flush]
    exact flush?_eq_some _ _ present keys.subset

/-- Only a component layout that leaves out a box stops a placement. -/
example : (place? (K := Rat) (fun _ _ _ => []) ⟨.down, 40, 60, 0, 0⟩ [("a", ⟨180, 60⟩)] []).isNone =
    true := by
  decide +kernel

end Layout

/-! ### Lookups in the lanes -/

namespace Swimlane

open Layout (ComponentLayout largest? largest?_eq_some place? place?_eq_some smallest?
  smallest?_eq_some)

variable {K : Type} [Scalar K]

/-- Nodes at their places, if every node with a center has a size. A node without a center keeps its
position. -/
def placeNodes? (layout : ComponentLayout K) (options : LayoutOptions K) (edges : List Edge)
    (corner : Point K) (members : List (Node K)) : Option (List (Node K)) := do
  let centers ← place? layout
    ⟨options.direction, options.nodeSpacing, options.rankSpacing, corner.x, corner.y⟩
    (sizesOf members) (internalEdges edges members)
  members.mapM fun node =>
    match Keyed.find? node.id centers with
    | none => some node
    | some center =>
      (Keyed.find? node.id (sizesOf members)).map fun size =>
        node.movedTo (center.x - Scalar.half size.width) (center.y - Scalar.half size.height)

/-- The lane of a group, if its members can be placed and one of them is at each side. -/
def lane? (layout : ComponentLayout K) (options : LayoutOptions K) (edges : List Edge)
    (members : List (Node K)) : Option (Lane K) :=
  let least : Size K := Page.groupLeast
  if members.isEmpty then some ⟨least, []⟩
  else do
    let placed ← placeNodes? layout options edges ⟨Scalar.zero, Scalar.zero⟩ members
    let left ← smallest? Node.x placed
    let top ← smallest? Node.y placed
    let right ← largest? (fun node => node.x + node.footprint.width) placed
    let bottom ← largest? (fun node => node.y + node.footprint.height) placed
    let margins : K := Page.groupPadding * Scalar.ofNat 2
    some {
      size :=
        ⟨Scalar.greatest (right - left + margins) least.width,
          Scalar.greatest (bottom - top + margins + Page.groupTitle) least.height⟩
      members := placed.map fun node =>
        node.movedTo (node.x - left + Page.groupPadding)
          (node.y - top + Page.groupPadding + Page.groupTitle) }

/-- The members of all groups, under the ids of the groups. -/
def membersByGroup (groups nodes : List (Node K)) : Keyed (List (Node K)) :=
  Keyed.ofPairs (groups.map fun group => (group.id, membersOf nodes group))

end Swimlane

namespace Graph

open Layout (ComponentLayout)
open Swimlane (lane? membersByGroup placeNodes?)

variable {K : Type} [Scalar K]

/-- The nodes of a graph with groups, if all groups have members and all nodes can be placed. -/
def layoutLanes? (layout : ComponentLayout K) (options : LayoutOptions K) (graph : Graph K) :
    Option (List (Node K)) := do
  let lanes ← graph.groups.mapM fun group => do
    let members ← Keyed.find? group.id (membersByGroup graph.groups graph.nodes)
    some (group, ← lane? layout options graph.edges members)
  let widest := Scalar.greatestOf Scalar.zero (lanes.map fun lane => lane.2.size.width)
  let orphanX :=
    Page.margin + Scalar.greatest widest Page.groupLeast.width + Page.orphanGap
  let outside ← placeNodes? layout options graph.edges ⟨orphanX, Page.margin⟩
    (Swimlane.orphans graph.groups graph.nodes)
  some (Swimlane.stack Page.margin lanes ++ outside)

/-- A graph with all its nodes positioned, if nothing is missing on the way. -/
def layout? (layout : ComponentLayout K) (options : LayoutOptions K) (graph : Graph K) :
    Option (Graph K) :=
  if graph.nodes.isEmpty then some graph
  else if graph.groups.isEmpty then do
    let placed ← placeNodes? layout options graph.edges ⟨Page.margin, Page.margin⟩ graph.nodes
    some { graph with
      nodes := if options.resolveOverlaps then (Overlap.resolve .standard placed).value
        else placed }
  else do
    some { graph with nodes := ← layoutLanes? layout options graph }

end Graph

/-! ### Nothing is missing in a layout -/

section Layouts

open Layout (ComponentLayout)

variable {K : Type} [Scalar K] {layout : ComponentLayout K}

namespace Swimlane

open Layout (largest?_eq_some place?_eq_some smallest?_eq_some)

/-- Members are placed without a failing step, also where there are none. -/
theorem placeNodes?_eq_some (complete : layout.Complete) (options : LayoutOptions K)
    (edges : List Edge) (corner : Point K) (members : List (Node K)) :
    placeNodes? layout options edges corner members =
      some (placeNodes layout options edges corner members) := by
  have distinct : (sizesOf members).keys.Nodup := Keyed.nodup_keys_ofPairs _
  rw [placeNodes?, place?_eq_some complete _ distinct, Option.bind_eq_bind, Option.bind_some,
    placeNodes_eq_map]
  refine mapM_eq_pure fun node listed => ?_
  have sized : node.id ∈ (sizesOf members).keys :=
    (mem_keys_sizesOf members).mpr (List.mem_map_of_mem listed)
  rw [placedAt, ← centersOf]
  cases Keyed.find? node.id (centersOf layout options edges corner members) with
  | none => rfl
  | some center =>
      dsimp only
      rw [Keyed.find?_eq_some_getD sized node.footprint]
      rfl

/-- A lane is filled without a failing step. -/
theorem lane?_eq_some (complete : layout.Complete) (options : LayoutOptions K)
    (edges : List Edge) (members : List (Node K)) :
    lane? layout options edges members = some (lane layout options edges members) := by
  rw [lane?, lane]
  split
  case isTrue => rfl
  case isFalse inhabited =>
    have present : placeNodes layout options edges ⟨Scalar.zero, Scalar.zero⟩ members ≠ [] :=
      mt List.map_eq_nil_iff.mp (mt List.isEmpty_iff.mpr inhabited)
    simp only [placeNodes?_eq_some complete, smallest?_eq_some _ present,
      largest?_eq_some _ present, Option.bind_eq_bind, Option.bind_some]

omit [Scalar K] in
/-- Every group has its members under its id, also if another group has the same id. -/
theorem find?_membersByGroup {groups : List (Node K)} {group : Node K} (listed : group ∈ groups)
    (nodes : List (Node K)) :
    Keyed.find? group.id (membersByGroup groups nodes) = some (membersOf nodes group) := by
  refine Keyed.find?_ofPairs_map (fun first _ second _ same => ?_) listed
  rw [membersOf, membersOf, same]

end Swimlane

namespace Graph

/-- All lanes of a graph are laid out without a failing step. -/
theorem layoutLanes?_eq_some (complete : layout.Complete) (options : LayoutOptions K)
    (graph : Graph K) :
    graph.layoutLanes? layout options = some (graph.layoutLanes layout options) := by
  have laneOf : ∀ group ∈ graph.groups,
      (do
        let members ←
          Keyed.find? group.id (Swimlane.membersByGroup graph.groups graph.nodes)
        some (group, ← Swimlane.lane? layout options graph.edges members)) =
      some (group,
        Swimlane.lane layout options graph.edges (Swimlane.membersOf graph.nodes group)) := by
    intro group listed
    rw [Swimlane.find?_membersByGroup listed]
    simp only [Swimlane.lane?_eq_some complete, Option.bind_eq_bind, Option.bind_some]
  rw [layoutLanes?, mapM_eq_pure laneOf]
  simp only [Swimlane.placeNodes?_eq_some complete, Option.pure_def, Option.bind_eq_bind,
    Option.bind_some]
  rfl

/-- With a complete component layout, the layout of any graph finds everything that it looks
for. -/
theorem layout?_eq_some (complete : layout.Complete) (options : LayoutOptions K)
    (graph : Graph K) : graph.layout? layout options = some (graph.layout layout options) := by
  rw [layout?, Graph.layout]
  split
  case isTrue => rfl
  case isFalse =>
    split
    case isTrue => rw [Swimlane.placeNodes?_eq_some complete]; rfl
    case isFalse => rw [layoutLanes?_eq_some complete]; rfl

end Graph

/-- The drawing in ranks has a center for every box. -/
theorem Layout.complete_layered : (Layout.layered : ComponentLayout K).Complete := by
  intro component nodeSpacing rankSpacing
  rw [Layout.layered, List.length_map, List.length_range]

end Layouts

end Flowchart
