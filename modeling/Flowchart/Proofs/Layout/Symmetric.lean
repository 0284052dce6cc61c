import Flowchart.Proofs.Layout.Flush

/-!
The four directions of one drawing.

A drawing that grows to the right is the one of the turned boxes that grows downwards, with the axes
exchanged. A drawing that grows up or to the left is the one that grows the other way, reflected
inside its own bounds.

Main definitions: `exchanged`, `upsideDown`, `sideInverted`, `Box.Framed`. Main statement:
`place_symmetric`.
-/

namespace Flowchart

/-- A direction when the axes of the page are exchanged. -/
def Direction.exchanged : Direction → Direction
  | down => right
  | up => left
  | right => down
  | left => up

namespace Layout

/-! ### Exchanged axes -/

section Exchanges

variable {K : Type}

/-- Sizes with width and height exchanged. -/
def turnedSizes (sizes : Keyed (Size K)) : Keyed (Size K) :=
  sizes.map fun entry => (entry.1, turned entry.2)

/-- Centers with x and y exchanged. -/
def exchanged (centers : Keyed (Point K)) : Keyed (Point K) :=
  centers.map fun entry => (entry.1, ⟨entry.2.y, entry.2.x⟩)

/-- A box with the axes of the page exchanged. -/
def Box.exchanged (box : Box K) : Box K :=
  ⟨box.id, ⟨box.center.y, box.center.x⟩, turned box.size⟩

theorem keys_turnedSizes (sizes : Keyed (Size K)) : (turnedSizes sizes).keys = sizes.keys := by
  rw [turnedSizes, Keyed.keys, List.map_map]
  rfl

variable [Scalar K]

/-- Exchanging the coordinates of centers and sizes exchanges those of the boxes. -/
theorem drawing_exchanged (sizes : Keyed (Size K)) (centers : Keyed (Point K)) :
    drawing sizes (exchanged centers) =
      (drawing (turnedSizes sizes) centers).map Box.exchanged := by
  have size : ∀ id, (Keyed.find? id sizes).getD default =
      turned ((Keyed.find? id (turnedSizes sizes)).getD default) := by
    intro id
    exact congrArg turned (find?_upright .right id sizes).symm
  rw [drawing, exchanged, List.map_map, drawing, List.map_map]
  apply List.map_congr_left
  intro entry _
  simp only [Function.comp_apply, Box.exchanged, size entry.1]

/-- Exchanging the axes exchanges the edges of boxes. -/
theorem bounds_exchanged (boxes : List (Box K)) :
    smallest Box.left (boxes.map Box.exchanged) = smallest Box.top boxes ∧
      smallest Box.top (boxes.map Box.exchanged) = smallest Box.left boxes ∧
      largest Box.right (boxes.map Box.exchanged) = largest Box.bottom boxes ∧
      largest Box.bottom (boxes.map Box.exchanged) = largest Box.right boxes := by
  rw [smallest_map, smallest_map, largest_map, largest_map]
  exact ⟨rfl, rfl, rfl, rfl⟩

/-- Moving to the margins goes with exchanging coordinates, if the margins are exchanged, too. -/
theorem flush_exchanged (marginX marginY : K) (sizes : Keyed (Size K))
    (centers : Keyed (Point K)) :
    flush marginX marginY sizes (exchanged centers) =
      exchanged (flush marginY marginX (turnedSizes sizes) centers) := by
  obtain ⟨left, top, -, -⟩ := bounds_exchanged (drawing (turnedSizes sizes) centers)
  rw [flush_eq_map, flush_eq_map, drawing_exchanged, left, top, exchanged, List.map_map, exchanged,
    List.map_map]
  rfl

/-- With axes exchanged, boxes come out as with turned sizes and exchanged margins. -/
theorem uprightBoxes_exchanged (layout : ComponentLayout K) (direction : Direction)
    (nodeSpacing rankSpacing marginX marginY : K) (sizes : Keyed (Size K))
    (edges : List (String × String)) :
    uprightBoxes layout ⟨direction.exchanged, nodeSpacing, rankSpacing, marginX, marginY⟩ sizes
        edges =
      uprightBoxes layout ⟨direction, nodeSpacing, rankSpacing, marginY, marginX⟩
        (turnedSizes sizes) edges := by
  have sameSizes : sizes.map (fun entry => (entry.1, upright direction.exchanged entry.2)) =
      (turnedSizes sizes).map fun entry => (entry.1, upright direction entry.2) := by
    rw [turnedSizes, List.map_map]
    apply List.map_congr_left
    intro entry _
    cases direction <;> rfl
  simp only [uprightBoxes, sameSizes, keys_turnedSizes]

/-- With the axes exchanged, a drawing is that of the turned boxes with its axes exchanged. -/
theorem place_exchanged (layout : ComponentLayout K) (direction : Direction)
    (nodeSpacing rankSpacing marginX marginY : K) (sizes : Keyed (Size K))
    (edges : List (String × String)) :
    place layout ⟨direction.exchanged, nodeSpacing, rankSpacing, marginX, marginY⟩ sizes edges =
      exchanged (place layout ⟨direction, nodeSpacing, rankSpacing, marginY, marginX⟩
        (turnedSizes sizes) edges) := by
  have oriented : ∀ centers : List (String × Point K),
      centers.map (fun entry => (entry.1, orient direction.exchanged entry.2)) =
        exchanged (centers.map fun entry => (entry.1, orient direction entry.2)) := by
    intro centers
    rw [exchanged, List.map_map]
    apply List.map_congr_left
    intro entry _
    cases direction <;> rfl
  rw [place_eq_flush, place_eq_flush, uprightBoxes_exchanged, oriented, flush_exchanged]

end Exchanges

/-! ### Reflections -/

section Reflections

variable {K : Type} [Scalar K]

/-- Boxes reflected from top to bottom, inside their own bounds. -/
def upsideDown (boxes : List (Box K)) : List (Box K) :=
  boxes.map fun box =>
    { box with
      center := ⟨box.center.x,
        smallest Box.top boxes + largest Box.bottom boxes - box.center.y⟩ }

/-- Boxes reflected from left to right, inside their own bounds. -/
def sideInverted (boxes : List (Box K)) : List (Box K) :=
  boxes.map fun box =>
    { box with
      center := ⟨smallest Box.left boxes + largest Box.right boxes - box.center.x,
        box.center.y⟩ }

/-- A box reflected at the upper edge of the page. -/
def Box.flipped (box : Box K) : Box K :=
  { box with center := ⟨box.center.x, -box.center.y⟩ }

/-- Turning centers upside down flips the boxes. -/
theorem drawing_orient_up (sizes : Keyed (Size K)) (centers : Keyed (Point K)) :
    drawing sizes (centers.map fun entry => (entry.1, orient .up entry.2)) =
      (drawing sizes centers).map Box.flipped := by
  rw [drawing, List.map_map, drawing, List.map_map]
  rfl

/-- Inverting from side to side is turning upside down with coordinates exchanged. -/
theorem sideInverted_exchanged (boxes : List (Box K)) :
    sideInverted (boxes.map Box.exchanged) = (upsideDown boxes).map Box.exchanged := by
  obtain ⟨left, -, right, -⟩ := bounds_exchanged boxes
  rw [sideInverted, left, right, List.map_map, upsideDown, List.map_map]
  rfl

end Reflections

/-! ### Exact reflections -/

/-- A box lies inside the bounds of some boxes. -/
structure Box.Framed (boxes : List (Box Rat)) (box : Box Rat) : Prop where
  left : smallest Box.left boxes ≤ box.left
  top : smallest Box.top boxes ≤ box.top
  right : box.right ≤ largest Box.right boxes
  bottom : box.bottom ≤ largest Box.bottom boxes

section Exact

variable {boxes : List (Box Rat)}

/-- A box that is framed by others is framed by them with coordinates exchanged. -/
theorem Box.Framed.exchanged {box : Box Rat} (framed : box.Framed boxes) :
    box.exchanged.Framed (boxes.map Box.exchanged) := by
  obtain ⟨left, top, right, bottom⟩ := bounds_exchanged boxes
  constructor
  · exact le_of_eq_of_le left framed.top
  · exact le_of_eq_of_le top framed.left
  · exact le_of_le_of_eq framed.bottom right.symm
  · exact le_of_le_of_eq framed.right bottom.symm

/-- A reflection keeps boxes inside the bounds. -/
theorem framed_of_mem_upsideDown {box : Box Rat} (member : box ∈ upsideDown boxes) :
    box.Framed boxes := by
  obtain ⟨old, listed, rfl⟩ := List.mem_map.mp member
  constructor
  case left => exact (smallest_le Box.left listed : _ ≤ old.left)
  case right => exact (le_largest Box.right listed : old.right ≤ _)
  case top =>
    have below : old.center.y + old.size.height / 2 ≤ largest Box.bottom boxes :=
      le_largest Box.bottom listed
    change _ ≤ smallest Box.top boxes + largest Box.bottom boxes - old.center.y -
      old.size.height / 2
    linarith
  case bottom =>
    have above : smallest Box.top boxes ≤ old.center.y - old.size.height / 2 :=
      smallest_le Box.top listed
    change smallest Box.top boxes + largest Box.bottom boxes - old.center.y +
      old.size.height / 2 ≤ _
    linarith

theorem Box.bottom_moved (dx dy : Rat) (box : Box Rat) :
    (box.moved dx dy).bottom = box.bottom + dy := by
  change box.center.y + dy + box.size.height / 2 = box.center.y + box.size.height / 2 + dy
  ring

theorem Box.top_flipped (box : Box Rat) : box.flipped.top = -box.bottom := by
  change -box.center.y - box.size.height / 2 = -(box.center.y + box.size.height / 2)
  ring

/-- What reflected boxes start at. -/
theorem bounds_flipped (inhabited : boxes ≠ []) :
    smallest Box.left (boxes.map Box.flipped) = smallest Box.left boxes ∧
      smallest Box.top (boxes.map Box.flipped) = -largest Box.bottom boxes := by
  rw [smallest_map, smallest_map]
  constructor
  · rfl
  · simp only [Box.top_flipped]
    exact smallest_neg Box.bottom inhabited

/-- The upper and the lower bound of boxes at their margins. -/
theorem bounds_atMargins (marginX marginY : Rat) (inhabited : boxes ≠ []) :
    smallest Box.top (atMargins marginX marginY boxes) = marginY ∧
      largest Box.bottom (atMargins marginX marginY boxes) =
        largest Box.bottom boxes + (marginY - smallest Box.top boxes) := by
  constructor
  · have moved : atMargins marginX marginY boxes ≠ [] := List.map_eq_nil_iff.not.mpr inhabited
    exact (isLeast_smallest Box.top moved).unique (isLeast_atMargins marginX marginY inhabited).2
  · rw [atMargins, largest_map]
    simp only [Box.bottom_moved]
    exact largest_add Box.bottom _ inhabited

/-- To reflect boxes and move them to their margins is to reflect them where they stand at their
margins. -/
theorem atMargins_flipped (marginX marginY : Rat) (boxes : List (Box Rat)) :
    atMargins marginX marginY (boxes.map Box.flipped) =
      upsideDown (atMargins marginX marginY boxes) := by
  by_cases inhabited : boxes = []
  · rw [inhabited]
    rfl
  obtain ⟨left, top⟩ := bounds_flipped inhabited
  obtain ⟨upper, lower⟩ := bounds_atMargins marginX marginY inhabited
  rw [upsideDown, upper, lower, atMargins, left, top, atMargins, List.map_map, List.map_map]
  apply List.map_congr_left
  intro box _
  have reflected : -box.center.y + (marginY - -largest Box.bottom boxes) =
      marginY + (largest Box.bottom boxes + (marginY - smallest Box.top boxes)) -
        (box.center.y + (marginY - smallest Box.top boxes)) := by
    ring
  simp only [Function.comp_apply, Box.moved, Box.flipped, reflected]

/-- A drawing that grows up is the one that grows down, reflected. -/
theorem drawing_up (layout : ComponentLayout Rat)
    (nodeSpacing rankSpacing marginX marginY : Rat) (sizes : Keyed (Size Rat))
    (edges : List (String × String)) :
    drawing sizes (place layout ⟨.up, nodeSpacing, rankSpacing, marginX, marginY⟩ sizes edges) =
      upsideDown (drawing sizes
        (place layout ⟨.down, nodeSpacing, rankSpacing, marginX, marginY⟩ sizes edges)) := by
  have still : ∀ centers : List (String × Point Rat),
      centers.map (fun entry => (entry.1, orient .down entry.2)) = centers :=
    fun centers => List.map_id centers
  rw [place_eq_flush, drawing_flush, drawing_orient_up, atMargins_flipped, place_eq_flush,
    drawing_flush, still]
  rfl

/-- The four directions are one drawing: to grow to the right is to grow down with the axes
exchanged, and to grow up or to the left is to grow down or to the right, reflected inside the
bounds, which all boxes keep. -/
theorem place_symmetric (layout : ComponentLayout Rat)
    (nodeSpacing rankSpacing marginX marginY : Rat) (sizes : Keyed (Size Rat))
    (edges : List (String × String)) :
    let placed := fun direction =>
      place layout ⟨direction, nodeSpacing, rankSpacing, marginX, marginY⟩ sizes edges
    placed .right = exchanged
        (place layout ⟨.down, nodeSpacing, rankSpacing, marginY, marginX⟩ (turnedSizes sizes)
          edges) ∧
      drawing sizes (placed .up) = upsideDown (drawing sizes (placed .down)) ∧
      (∀ box ∈ drawing sizes (placed .up), box.Framed (drawing sizes (placed .down))) ∧
      drawing sizes (placed .left) = sideInverted (drawing sizes (placed .right)) ∧
      ∀ box ∈ drawing sizes (placed .left), box.Framed (drawing sizes (placed .right)) := by
  intro placed
  have right := place_exchanged layout .down nodeSpacing rankSpacing marginX marginY sizes edges
  have left := place_exchanged layout .up nodeSpacing rankSpacing marginX marginY sizes edges
  have up := drawing_up layout nodeSpacing rankSpacing marginX marginY sizes edges
  have upTurned :=
    drawing_up layout nodeSpacing rankSpacing marginY marginX (turnedSizes sizes) edges
  have leftDrawing : drawing sizes (placed .left) =
      (upsideDown (drawing (turnedSizes sizes) (place layout
        ⟨.down, nodeSpacing, rankSpacing, marginY, marginX⟩ (turnedSizes sizes) edges))).map
          Box.exchanged := by
    rw [← upTurned, ← drawing_exchanged]
    exact congrArg (drawing sizes) left
  have rightDrawing : drawing sizes (placed .right) =
      (drawing (turnedSizes sizes) (place layout
        ⟨.down, nodeSpacing, rankSpacing, marginY, marginX⟩ (turnedSizes sizes) edges)).map
          Box.exchanged := by
    rw [← drawing_exchanged]
    exact congrArg (drawing sizes) right
  refine ⟨right, up, ?_, ?_, ?_⟩
  · intro box member
    exact framed_of_mem_upsideDown (up ▸ member)
  · rw [leftDrawing, rightDrawing, sideInverted_exchanged]
  · intro box member
    rw [leftDrawing] at member
    obtain ⟨old, listed, rfl⟩ := List.mem_map.mp member
    rw [rightDrawing]
    exact (framed_of_mem_upsideDown listed).exchanged

end Exact

end Layout

end Flowchart
