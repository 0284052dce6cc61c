import Mathlib.Tactic.Linarith
import Mathlib.Tactic.Ring
import Flowchart.Layout.Layered.Drawing
import Flowchart.Proofs.Layout.Connected
import Flowchart.Proofs.Layout.Placed

/-!
Components side by side.

Across the flow each component takes up an interval of its own, and the intervals follow each other
at the spacing between nodes, in the order of the first members. Turning the drawing and moving it
to its margins shifts all intervals by the same amount.

Main definitions: `InRow`, `Abreast`. Main statement: `place_abreast`.
-/

namespace Flowchart

namespace Layout

/-! ### Intervals in a row -/

section Intervals

variable {α β : Type} {start stop : α → Rat} {gap cursor : Rat}

/-- Groups of intervals that follow each other: a group starts at the cursor, and the next one
starts a gap after its end. -/
inductive InRow (start stop : α → Rat) (gap : Rat) : Rat → List (List α) → Prop where
  | nil (cursor : Rat) : InRow start stop gap cursor []
  | cons {cursor last : Rat} {group : List α} {groups : List (List α)}
      (first : IsLeast {x | x ∈ group.map start} cursor)
      (end_ : IsGreatest {x | x ∈ group.map stop} last)
      (later : InRow start stop gap (last + gap) groups) :
      InRow start stop gap cursor (group :: groups)

namespace InRow

variable {groups : List (List α)}

theorem cursor_le (inRow : InRow start stop gap cursor groups) (spaced : 0 ≤ gap)
    (ordered : ∀ group ∈ groups, ∀ item ∈ group, start item ≤ stop item) :
    ∀ group ∈ groups, ∀ item ∈ group, cursor ≤ start item := by
  induction inRow with
  | nil => simp
  | @cons cursor last group groups first end_ later ih =>
      obtain ⟨ordered_group, ordered⟩ := List.forall_mem_cons.mp ordered
      refine List.forall_mem_cons.mpr ⟨fun item member => ?_, fun other listed item member => ?_⟩
      · exact first.2 (List.mem_map_of_mem member)
      · obtain ⟨leftmost, member', atCursor⟩ := List.mem_map.mp first.1
        have inside : stop leftmost ≤ last := end_.2 (List.mem_map_of_mem member')
        have extent := ordered_group leftmost member'
        have behind := ih ordered other listed item member
        linarith

/-- An interval ends a gap before those of later groups start. -/
theorem pairwise (inRow : InRow start stop gap cursor groups) (spaced : 0 ≤ gap)
    (ordered : ∀ group ∈ groups, ∀ item ∈ group, start item ≤ stop item) :
    groups.Pairwise fun group later =>
      ∀ item ∈ group, ∀ other ∈ later, stop item + gap ≤ start other := by
  induction inRow with
  | nil => exact .nil
  | @cons cursor last group groups first end_ later ih =>
      obtain ⟨-, ordered⟩ := List.forall_mem_cons.mp ordered
      refine .cons (fun behind listed item member other member' => ?_) (ih ordered)
      have inside : stop item ≤ last := end_.2 (List.mem_map_of_mem member)
      have beyond := later.cursor_le spaced ordered behind listed other member'
      linarith

/-- Between a group and the next one there is just the gap. -/
theorem adjacent {before after : List (List α)} {group next : List α}
    (inRow : InRow start stop gap cursor (before ++ group :: next :: after)) :
    ∃ last, IsGreatest {x | x ∈ group.map stop} last ∧
      IsLeast {x | x ∈ next.map start} (last + gap) := by
  induction before generalizing cursor with
  | nil =>
      cases inRow with
      | cons _ end_ later =>
          cases later with
          | cons first _ _ => exact ⟨_, end_, first⟩
  | cons other before ih =>
      cases inRow with
      | cons _ _ later => exact ih later

/-- Intervals that are all shifted by the same amount stay in a row. -/
theorem map {start' stop' : β → Rat} {f : α → β} (shift : Rat)
    (inRow : InRow start stop gap cursor groups)
    (starts : ∀ group ∈ groups, ∀ item ∈ group, start' (f item) = start item + shift)
    (stops : ∀ group ∈ groups, ∀ item ∈ group, stop' (f item) = stop item + shift) :
    InRow start' stop' gap (cursor + shift) (groups.map (List.map f)) := by
  induction inRow with
  | nil => exact .nil _
  | @cons cursor last group groups first end_ later ih =>
      obtain ⟨starts_group, starts⟩ := List.forall_mem_cons.mp starts
      obtain ⟨stops_group, stops⟩ := List.forall_mem_cons.mp stops
      have sameStarts : (group.map f).map start' = (group.map start).map (· + shift) := by
        rw [List.map_map, List.map_map]
        exact List.map_congr_left starts_group
      have sameStops : (group.map f).map stop' = (group.map stop).map (· + shift) := by
        rw [List.map_map, List.map_map]
        exact List.map_congr_left stops_group
      have shifted := ih starts stops
      rw [add_right_comm] at shifted
      refine .cons ?_ ?_ shifted
      · rw [sameStarts]
        exact isLeast_map_add first shift
      · rw [sameStops]
        exact isGreatest_map_add end_ shift

end InRow

end Intervals

/-! ### Boxes of a drawing -/

section Boxes

variable {K : Type} [Scalar K]

/-- The lower edge of a box. -/
def Box.bottom (box : Box K) : K :=
  box.center.y + Scalar.half box.size.height

/-- Where a box starts across the flow. -/
def Box.start (direction : Direction) (box : Box K) : K :=
  if direction.isHorizontal then box.top else box.left

/-- Where a box ends across the flow. -/
def Box.stop (direction : Direction) (box : Box K) : K :=
  if direction.isHorizontal then box.bottom else box.right

/-- The boxes of the given sizes at their centers. -/
def drawing (sizes : Keyed (Size K)) (centers : Keyed (Point K)) : List (Box K) :=
  centers.map fun entry => ⟨entry.1, entry.2, (Keyed.find? entry.1 sizes).getD default⟩

/-- A size as it is in a drawing that grows downwards. -/
def upright (direction : Direction) (size : Size K) : Size K :=
  if direction.isHorizontal then turned size else size

/-- The boxes of components side by side, as `pack` puts them. -/
def packedBoxes (gap : K) : K → List (List (Box K)) → List (List (Box K))
  | _, [] => []
  | cursor, boxes :: rest =>
    let left := smallest Box.left boxes
    let right := largest Box.right boxes
    let top := smallest Box.top boxes
    boxes.map (fun box =>
        { box with center := ⟨box.center.x - left + cursor, box.center.y - top⟩ }) ::
      packedBoxes gap (cursor + (right - left + gap)) rest

/-- A box of a drawing that grows downwards, turned into the direction and moved, with its size in
that direction. -/
def settle (direction : Direction) (dx dy : K) (size : Size K) (box : Box K) : Box K :=
  let center := orient direction box.center
  ⟨box.id, ⟨center.x + dx, center.y + dy⟩, size⟩

theorem pack_eq (gap cursor : K) (placed : List (List (Box K))) :
    pack gap cursor placed =
      (packedBoxes gap cursor placed).flatten.map fun box => (box.id, box.center) := by
  induction placed generalizing cursor with
  | nil => rfl
  | cons boxes placed ih =>
      rw [pack, ih, packedBoxes, List.flatten_cons, List.map_append, List.map_map]
      rfl

theorem map_id_packedBoxes (gap cursor : K) (placed : List (List (Box K))) :
    (packedBoxes gap cursor placed).map (List.map Box.id) = placed.map (List.map Box.id) := by
  induction placed generalizing cursor with
  | nil => rfl
  | cons boxes placed ih =>
      rw [packedBoxes, List.map_cons, ih, List.map_cons, List.map_map]
      rfl

/-- Packing moves boxes and does nothing else. -/
theorem exists_of_mem_packedBoxes {gap cursor : K} {placed : List (List (Box K))}
    {group : List (Box K)} {box : Box K} (listed : group ∈ packedBoxes gap cursor placed)
    (member : box ∈ group) :
    ∃ boxes ∈ placed, ∃ old ∈ boxes, old.id = box.id ∧ old.size = box.size := by
  induction placed generalizing cursor with
  | nil => cases listed
  | cons boxes placed ih =>
      rcases List.mem_cons.mp listed with rfl | later
      · obtain ⟨old, inside, rfl⟩ := List.mem_map.mp member
        exact ⟨boxes, List.mem_cons_self, old, inside, rfl, rfl⟩
      · obtain ⟨boxes', inside, rest⟩ := ih later
        exact ⟨boxes', List.mem_cons_of_mem boxes inside, rest⟩

/-- The boxes of the components where their layout puts them, in a drawing that grows downwards. -/
def uprightBoxes (layout : ComponentLayout K) (options : PlacementOptions K)
    (sizes : Keyed (Size K)) (edges : List (String × String)) : List (List (Box K)) :=
  let proper := properEdges sizes.keys edges
  (components proper sizes.keys).map
    (componentBoxes layout (sizes.map fun entry => (entry.1, upright options.direction entry.2))
      proper options.nodeSpacing options.rankSpacing)

theorem find?_upright (direction : Direction) (id : String) (sizes : Keyed (Size K)) :
    (Keyed.find? id (sizes.map fun entry => (entry.1, upright direction entry.2))).getD default =
      upright direction ((Keyed.find? id sizes).getD default) := by
  rw [Keyed.find?_map fun _ => upright direction]
  cases Keyed.find? id sizes with
  | some size => rfl
  | none => cases direction <;> rfl

theorem size_of_mem_uprightBoxes {layout : ComponentLayout K} {options : PlacementOptions K}
    {sizes : Keyed (Size K)} {edges : List (String × String)} {boxes : List (Box K)} {box : Box K}
    (listed : boxes ∈ uprightBoxes layout options sizes edges) (member : box ∈ boxes) :
    box.size = upright options.direction ((Keyed.find? box.id sizes).getD default) := by
  obtain ⟨component, -, rfl⟩ := List.mem_map.mp listed
  obtain ⟨position, inside, rfl⟩ := List.mem_mapIdx.mp member
  exact find?_upright options.direction _ sizes

theorem map_id_uprightBoxes (layout : ComponentLayout K) (options : PlacementOptions K)
    (sizes : Keyed (Size K)) (edges : List (String × String)) :
    (uprightBoxes layout options sizes edges).map (List.map Box.id) =
      components (properEdges sizes.keys edges) sizes.keys := by
  rw [uprightBoxes, List.map_map]
  simp [Function.comp_def, map_id_componentBoxes]

/-- Each component has a box at least. -/
theorem ne_nil_of_mem_uprightBoxes {layout : ComponentLayout K} {options : PlacementOptions K}
    {sizes : Keyed (Size K)} {edges : List (String × String)} (distinct : sizes.keys.Nodup)
    {boxes : List (Box K)} (listed : boxes ∈ uprightBoxes layout options sizes edges) :
    boxes ≠ [] := by
  intro empty
  have member : boxes.map Box.id ∈ components (properEdges sizes.keys edges) sizes.keys := by
    rw [← map_id_uprightBoxes layout options sizes edges]
    exact List.mem_map_of_mem listed
  obtain ⟨root, rest, isCons, -⟩ := exists_root distinct member
  rw [empty] at isCons
  cases isCons

/-- Moving to the margins moves all centers by the same amounts. -/
theorem exists_flush (marginX marginY : K) (sizes : Keyed (Size K))
    (centers : List (String × Point K)) :
    ∃ dx dy, flush marginX marginY sizes centers =
      centers.map fun entry => (entry.1, ⟨entry.2.x + dx, entry.2.y + dy⟩) :=
  ⟨_, _, rfl⟩

/-- The packed boxes are turned and moved to their margins. -/
theorem place_eq_flush (layout : ComponentLayout K) (options : PlacementOptions K)
    (sizes : Keyed (Size K)) (edges : List (String × String)) :
    place layout options sizes edges = flush options.marginX options.marginY sizes
      ((pack options.nodeSpacing Scalar.zero (uprightBoxes layout options sizes edges)).map
        fun entry => (entry.1, orient options.direction entry.2)) := by
  have sameSizes : (if options.direction.isHorizontal = true
      then sizes.map fun entry => (entry.1, turned entry.2) else sizes) =
        sizes.map fun entry => (entry.1, upright options.direction entry.2) := by
    unfold upright
    split
    case isTrue => rfl
    case isFalse => exact (List.map_id _).symm
  rw [place, sameSizes]
  rfl

/-- A drawing holds the packed boxes, turned and moved. -/
theorem drawing_place (layout : ComponentLayout K) (options : PlacementOptions K)
    (sizes : Keyed (Size K)) (edges : List (String × String)) :
    ∃ dx dy, drawing sizes (place layout options sizes edges) =
      ((packedBoxes options.nodeSpacing Scalar.zero
        (uprightBoxes layout options sizes edges)).map (List.map fun box =>
          settle options.direction dx dy
            ((Keyed.find? box.id sizes).getD default) box)).flatten := by
  rw [place_eq_flush]
  obtain ⟨dx, dy, moved⟩ := exists_flush options.marginX options.marginY sizes _
  refine ⟨dx, dy, ?_⟩
  rw [moved, drawing, pack_eq, ← List.map_flatten, List.map_map, List.map_map, List.map_map]
  rfl

end Boxes

/-! ### Components in a row -/

/-- Across the flow, turning and moving shifts where a box starts and where it ends. -/
theorem start_settle {direction : Direction} {size : Size Rat} {box : Box Rat}
    (sized : box.size = upright direction size) (dx dy : Rat) :
    (settle direction dx dy size box).start direction =
      box.left + if direction.isHorizontal then dy else dx := by
  cases direction with
  | down | up =>
      have width : box.size.width = size.width := congrArg Size.width sized
      change box.center.x + dx - size.width / 2 = box.center.x - box.size.width / 2 + dx
      linarith
  | right | left =>
      have width : box.size.width = size.height := congrArg Size.width sized
      change box.center.x + dy - size.height / 2 = box.center.x - box.size.width / 2 + dy
      linarith

theorem stop_settle {direction : Direction} {size : Size Rat} {box : Box Rat}
    (sized : box.size = upright direction size) (dx dy : Rat) :
    (settle direction dx dy size box).stop direction =
      box.right + if direction.isHorizontal then dy else dx := by
  cases direction with
  | down | up =>
      have width : box.size.width = size.width := congrArg Size.width sized
      change box.center.x + dx + size.width / 2 = box.center.x + box.size.width / 2 + dx
      linarith
  | right | left =>
      have width : box.size.width = size.height := congrArg Size.width sized
      change box.center.x + dy + size.height / 2 = box.center.x + box.size.width / 2 + dy
      linarith

/-- Packed boxes are in a row, whatever extents they have. -/
theorem inRow_packedBoxes (gap cursor : Rat) {placed : List (List (Box Rat))}
    (inhabited : ∀ boxes ∈ placed, boxes ≠ []) :
    InRow Box.left Box.right gap cursor (packedBoxes gap cursor placed) := by
  induction placed generalizing cursor with
  | nil => exact .nil cursor
  | cons boxes placed ih =>
      obtain ⟨nonempty, inhabited⟩ := List.forall_mem_cons.mp inhabited
      let left := smallest Box.left boxes
      let right := largest Box.right boxes
      have lefts : ∀ box ∈ boxes, box.left + (cursor - left) =
          box.center.x - left + cursor - box.size.width / 2 := by
        intro box _
        change box.center.x - box.size.width / 2 + (cursor - left) = _
        ring
      have rights : ∀ box ∈ boxes, box.right + (cursor - left) =
          box.center.x - left + cursor + box.size.width / 2 := by
        intro box _
        change box.center.x + box.size.width / 2 + (cursor - left) = _
        ring
      have later : InRow Box.left Box.right gap (right + (cursor - left) + gap)
          (packedBoxes gap (cursor + (right - left + gap)) placed) := by
        have next : right + (cursor - left) + gap = cursor + (right - left + gap) := by ring
        rw [next]
        exact ih _ inhabited
      refine .cons ?_ ?_ later
      · have first := isLeast_map_add (isLeast_smallest Box.left nonempty) (cursor - left)
        rw [List.map_map, add_sub_cancel] at first
        rw [List.map_map]
        exact List.map_congr_left lefts ▸ first
      · have end_ := isGreatest_map_add (isGreatest_largest Box.right nonempty) (cursor - left)
        rw [List.map_map] at end_
        rw [List.map_map]
        exact List.map_congr_left rights ▸ end_

/-- The boxes of a drawing stand in a row of components. -/
theorem exists_row (layout : ComponentLayout Rat) (options : PlacementOptions Rat)
    {sizes : Keyed (Size Rat)} (edges : List (String × String)) (distinct : sizes.keys.Nodup) :
    ∃ cursor row, drawing sizes (place layout options sizes edges) = row.flatten ∧
      row.map (List.map Box.id) = components (properEdges sizes.keys edges) sizes.keys ∧
      InRow (Box.start options.direction) (Box.stop options.direction) options.nodeSpacing cursor
        row := by
  obtain ⟨dx, dy, drawn⟩ := drawing_place layout options sizes edges
  let upright_boxes := uprightBoxes layout options sizes edges
  let packed := packedBoxes options.nodeSpacing Scalar.zero upright_boxes
  have inhabited : ∀ boxes ∈ upright_boxes, boxes ≠ [] :=
    fun _ => ne_nil_of_mem_uprightBoxes distinct
  have sized : ∀ group ∈ packed, ∀ box ∈ group,
      box.size = upright options.direction ((Keyed.find? box.id sizes).getD default) := by
    intro group listed box member
    obtain ⟨boxes, placed, old, inside, sameId, sameSize⟩ :=
      exists_of_mem_packedBoxes listed member
    rw [← sameId, ← sameSize]
    exact size_of_mem_uprightBoxes placed inside
  have inRow : InRow Box.left Box.right options.nodeSpacing Scalar.zero packed :=
    inRow_packedBoxes options.nodeSpacing Scalar.zero inhabited
  let shift := if options.direction.isHorizontal then dy else dx
  refine ⟨_, _, drawn, ?_, inRow.map shift (fun group listed box member => ?_)
    fun group listed box member => ?_⟩
  · rw [← map_id_uprightBoxes layout options sizes edges, List.map_map,
      ← map_id_packedBoxes options.nodeSpacing Scalar.zero (uprightBoxes _ _ _ _)]
    apply List.map_congr_left
    intro group _
    exact List.map_map
  · exact start_settle (sized group listed box member) dx dy
  · exact stop_settle (sized group listed box member) dx dy

/-- A drawing in which the components of the ids stand side by side, a gap apart, in the order of
their first members. -/
structure Abreast (direction : Direction) (gap : Rat) (sizes : Keyed (Size Rat))
    (edges : List (String × String)) (boxes : List (Box Rat)) : Prop where
  /-- Each id has one box. -/
  complete : (boxes.map Box.id).Perm sizes.keys
  /-- Boxes have their sizes. -/
  sized : ∀ box ∈ boxes, (box.id, box.size) ∈ sizes
  /-- Each id belongs to the component of a first member. -/
  led : ∀ id ∈ sizes.keys, ∃ first, Leads sizes.keys edges first ∧
    Connected sizes.keys edges first id
  /-- A box ends a gap before the boxes of later components start. -/
  apart : ∀ {first second}, Leads sizes.keys edges first → Leads sizes.keys edges second →
    Precedes sizes.keys first second → ∀ box ∈ boxes, ∀ other ∈ boxes,
      Connected sizes.keys edges first box.id → Connected sizes.keys edges second other.id →
        box.stop direction + gap ≤ other.start direction
  /-- From the end of a component to the start of the next one it is just the gap. -/
  adjacent : ∀ {first second}, Leads sizes.keys edges first → Leads sizes.keys edges second →
    Precedes sizes.keys first second →
    (∀ middle, Leads sizes.keys edges middle → Precedes sizes.keys first middle →
      ¬ Precedes sizes.keys middle second) →
    ∃ last,
      IsGreatest {x | ∃ box ∈ boxes, Connected sizes.keys edges first box.id ∧
        box.stop direction = x} last ∧
      IsLeast {x | ∃ box ∈ boxes, Connected sizes.keys edges second box.id ∧
        box.start direction = x} (last + gap)

section Rows

variable {ids : List String} {edges : List (String × String)} {row : List (List (Box Rat))}
  {start stop : Box Rat → Rat} {gap cursor : Rat} {first second : String}

/-- Among the boxes of a row of components, those of a component are the connected ones. -/
theorem mem_group_iff (distinct : ids.Nodup)
    (same : row.map (List.map Box.id) = components edges ids) {group : List (Box Rat)}
    {rest : List String} {box : Box Rat} (listed : group ∈ row)
    (leading : group.map Box.id = first :: rest) (member : box ∈ row.flatten) :
    box ∈ group ↔ Connected ids edges first box.id := by
  have component : first :: rest ∈ components edges ids := by
    rw [← same, ← leading]
    exact List.mem_map_of_mem listed
  obtain ⟨_, _, ⟨⟩, members⟩ := exists_root distinct component
  constructor
  · intro inside
    apply (members box.id).mp
    rw [← leading]
    exact List.mem_map_of_mem inside
  · intro connected
    have ids_distinct : (row.flatten.map Box.id).Nodup := by
      rw [List.map_flatten, same]
      exact (perm_flatten_components edges distinct).nodup_iff.mpr distinct
    have inside := (members box.id).mpr connected
    rw [← leading] at inside
    obtain ⟨twin, member', sameId⟩ := List.mem_map.mp inside
    have inRow := List.mem_flatten.mpr ⟨group, listed, member'⟩
    exact List.inj_on_of_nodup_map ids_distinct inRow member sameId ▸ member'

theorem setOf_mem_map {group : List (Box Rat)} {chosen : Box Rat → Prop} (value : Box Rat → Rat)
    (listed : group ∈ row) (members : ∀ box ∈ row.flatten, box ∈ group ↔ chosen box) :
    {x | x ∈ group.map value} = {x | ∃ box ∈ row.flatten, chosen box ∧ value box = x} := by
  ext x
  constructor
  · intro mapped
    obtain ⟨box, inside, same⟩ := List.mem_map.mp mapped
    have member := List.mem_flatten.mpr ⟨group, listed, inside⟩
    exact ⟨box, member, (members box member).mp inside, same⟩
  · rintro ⟨box, member, chosen, same⟩
    exact List.mem_map.mpr ⟨box, (members box member).mpr chosen, same⟩

/-- In a row of components, those of first ids stand in the order of the ids. -/
theorem exists_groups (distinct : ids.Nodup)
    (same : row.map (List.map Box.id) = components edges ids)
    (leads : Leads ids edges first) (leads' : Leads ids edges second)
    (before : Precedes ids first second) :
    ∃ front group between later back, row = front ++ group :: (between ++ later :: back) ∧
      (∀ box ∈ row.flatten, box ∈ group ↔ Connected ids edges first box.id) ∧
      (∀ box ∈ row.flatten, box ∈ later ↔ Connected ids edges second box.id) ∧
      (between ≠ [] → ∃ middle, Leads ids edges middle ∧ Precedes ids first middle ∧
        Precedes ids middle second) := by
  obtain ⟨_, rest, _, rest', _, split, inBetween⟩ := components_split distinct leads leads' before
  rw [← same] at split
  obtain ⟨front, tail, isRow, -, split⟩ := List.map_eq_append_iff.mp split
  obtain ⟨group, tail', isTail, leading, split⟩ := List.map_eq_cons_iff.mp split
  obtain ⟨between, end_, isTail', isBetween, split⟩ := List.map_eq_append_iff.mp split
  obtain ⟨later, back, isEnd, leading', -⟩ := List.map_eq_cons_iff.mp split
  subst isEnd isTail' isTail
  refine ⟨front, group, between, later, back, isRow, fun box member => ?_, fun box member => ?_,
    fun inhabited => ?_⟩
  · exact mem_group_iff distinct same (by simp [isRow]) leading member
  · exact mem_group_iff distinct same (by simp [isRow]) leading' member
  · obtain ⟨some_group, inside⟩ := List.exists_mem_of_ne_nil between inhabited
    apply inBetween (some_group.map Box.id)
    rw [← isBetween]
    exact List.mem_map_of_mem inside

/-- A box in a row of components ends a gap before the boxes of later components start. -/
theorem apart_of_inRow (distinct : ids.Nodup)
    (same : row.map (List.map Box.id) = components edges ids)
    (inRow : InRow start stop gap cursor row) (spaced : 0 ≤ gap)
    (ordered : ∀ group ∈ row, ∀ box ∈ group, start box ≤ stop box)
    (leads : Leads ids edges first) (leads' : Leads ids edges second)
    (before : Precedes ids first second) {box other : Box Rat} (member : box ∈ row.flatten)
    (member' : other ∈ row.flatten) (connected : Connected ids edges first box.id)
    (connected' : Connected ids edges second other.id) : stop box + gap ≤ start other := by
  obtain ⟨front, group, between, later, back, split, ofFirst, ofSecond, -⟩ :=
    exists_groups distinct same leads leads' before
  have pairwise := inRow.pairwise spaced ordered
  rw [split, List.pairwise_append, List.pairwise_cons] at pairwise
  have next : later ∈ between ++ later :: back :=
    List.mem_append_right between List.mem_cons_self
  apply pairwise.2.1.1 later next
  · exact (ofFirst box member).mpr connected
  · exact (ofSecond other member').mpr connected'

/-- Between a component in a row and the next one there is just the gap. -/
theorem adjacent_of_inRow (distinct : ids.Nodup)
    (same : row.map (List.map Box.id) = components edges ids)
    (inRow : InRow start stop gap cursor row)
    (leads : Leads ids edges first) (leads' : Leads ids edges second)
    (before : Precedes ids first second)
    (next : ∀ middle, Leads ids edges middle → Precedes ids first middle →
      ¬ Precedes ids middle second) :
    ∃ last,
      IsGreatest {x | ∃ box ∈ row.flatten, Connected ids edges first box.id ∧ stop box = x}
        last ∧
      IsLeast {x | ∃ box ∈ row.flatten, Connected ids edges second box.id ∧ start box = x}
        (last + gap) := by
  obtain ⟨front, group, between, later, back, split, ofFirst, ofSecond, inBetween⟩ :=
    exists_groups distinct same leads leads' before
  have none : between = [] := by
    by_contra inhabited
    obtain ⟨middle, leads'', behind, ahead⟩ := inBetween inhabited
    exact next middle leads'' behind ahead
  have listed : group ∈ row := by simp [split]
  have listed' : later ∈ row := by simp [split]
  rw [split, none] at inRow
  obtain ⟨last, isGreatest, isLeast⟩ := inRow.adjacent
  rw [setOf_mem_map stop listed ofFirst] at isGreatest
  rw [setOf_mem_map start listed' ofSecond] at isLeast
  exact ⟨last, isGreatest, isLeast⟩

end Rows

theorem size_of_mem_drawing {sizes : Keyed (Size Rat)} {centers : Keyed (Point Rat)}
    {box : Box Rat} (member : box ∈ drawing sizes centers) (known : box.id ∈ sizes.keys) :
    (box.id, box.size) ∈ sizes := by
  obtain ⟨entry, -, rfl⟩ := List.mem_map.mp member
  obtain ⟨size, found, listed⟩ := Keyed.exists_mem_of_mem_keys known
  dsimp only at found
  rw [found]
  exact listed

theorem start_le_stop {direction : Direction} {box : Box Rat} (width : 0 ≤ box.size.width)
    (height : 0 ≤ box.size.height) : box.start direction ≤ box.stop direction := by
  cases direction with
  | down | up =>
      change box.center.x - box.size.width / 2 ≤ box.center.x + box.size.width / 2
      linarith
  | right | left =>
      change box.center.y - box.size.height / 2 ≤ box.center.y + box.size.height / 2
      linarith

/-- Components never overlap: whatever a layout does with each of them, across the flow they stand
side by side. -/
theorem place_abreast (layout : ComponentLayout Rat) (options : PlacementOptions Rat)
    (edges : List (String × String)) {sizes : Keyed (Size Rat)} (distinct : sizes.keys.Nodup)
    (nonnegative : ∀ entry ∈ sizes, 0 ≤ entry.2.width ∧ 0 ≤ entry.2.height)
    (spaced : 0 ≤ options.nodeSpacing) :
    Abreast options.direction options.nodeSpacing sizes edges
      (drawing sizes (place layout options sizes edges)) := by
  obtain ⟨cursor, row, drawn, same, inRow⟩ := exists_row layout options edges distinct
  have complete : ((drawing sizes (place layout options sizes edges)).map Box.id).Perm
      sizes.keys := by
    rw [drawn, List.map_flatten, same]
    exact perm_flatten_components _ distinct
  have sized : ∀ box ∈ drawing sizes (place layout options sizes edges),
      (box.id, box.size) ∈ sizes := by
    intro box member
    exact size_of_mem_drawing member (complete.mem_iff.mp (List.mem_map_of_mem member))
  rw [drawn] at complete sized ⊢
  have ordered : ∀ group ∈ row, ∀ box ∈ group,
      box.start options.direction ≤ box.stop options.direction := by
    intro group listed box member
    obtain ⟨width, height⟩ := nonnegative _ (sized box (List.mem_flatten.mpr ⟨_, listed, member⟩))
    exact start_le_stop width height
  refine ⟨complete, sized, fun id known => ?_, ?_, ?_⟩
  · obtain ⟨_, first, -, leads, connected⟩ := exists_leads distinct known
    exact ⟨first, leads, connected⟩
  · intro first second leads leads' before box member other member' connected connected'
    rw [← leads_properEdges] at leads leads'
    rw [← connected_properEdges] at connected connected'
    exact apart_of_inRow distinct same inRow spaced ordered leads leads' before member member'
      connected connected'
  · intro first second leads leads' before next
    rw [← leads_properEdges] at leads leads'
    obtain ⟨last, isGreatest, isLeast⟩ := adjacent_of_inRow distinct same inRow leads leads' before
      fun middle leads'' => next middle (leads_properEdges.mp leads'')
    simp only [connected_properEdges] at isGreatest isLeast
    exact ⟨last, isGreatest, isLeast⟩

/-- Boxes of three components, whose members alternate. -/
def islandSizes : Keyed (Size Rat) :=
  [("a", ⟨100, 40⟩), ("b", ⟨30, 250⟩), ("c", ⟨60, 60⟩), ("d", ⟨0, 80⟩), ("e", ⟨160, 20⟩)]

/-- Edges among the boxes, with some that tie nothing together. -/
def islandEdges : List (String × String) :=
  [("a", "d"), ("b", "b"), ("e", "c"), ("c", "missing"), ("d", "a")]

theorem place_abreast_islands :
    islandSizes.keys.Nodup ∧
      (∀ entry ∈ islandSizes, 0 ≤ entry.2.width ∧ 0 ≤ entry.2.height) ∧ (0 : Rat) ≤ 40 ∧
      Abreast .left 40 islandSizes islandEdges
        (drawing islandSizes (place layered ⟨.left, 40, 60, 10, 10⟩ islandSizes islandEdges)) := by
  have distinct : islandSizes.keys.Nodup := by decide
  have nonnegative : ∀ entry ∈ islandSizes, 0 ≤ entry.2.width ∧ 0 ≤ entry.2.height := by
    simp [islandSizes]
  have spaced : (0 : Rat) ≤ 40 := by decide
  exact ⟨distinct, nonnegative, spaced,
    place_abreast layered ⟨.left, 40, 60, 10, 10⟩ islandEdges distinct nonnegative spaced⟩

end Layout

end Flowchart
