import Mathlib.Algebra.BigOperators.Group.List.Basic
import Flowchart.Proofs.Layout.Pushed

/-!
Where nodes go when overlaps are removed.

Every push moves two nodes by opposite amounts, so that all passes together leave the sums of the
coordinates as they were. After the passes all nodes are moved by one vector, which is zero if the
nodes are in the page already.

Main definitions: `pushedApart`, `Steady`. Main statement: `resolve_steady`.
-/

namespace Flowchart

namespace Overlap

/-! ### Sums of coordinates -/

namespace Axis

/-- The sum of the starts of spaces along an axis. -/
def total (axis : Axis) (spaces : List (Tile Rat)) : Rat :=
  (spaces.map axis.start).sum

variable (axis : Axis)

theorem total_cons (space : Tile Rat) (spaces : List (Tile Rat)) :
    axis.total (space :: spaces) = axis.start space + axis.total spaces :=
  rfl

variable (settings : Settings Rat)

/-- Pushing the first tile from the others moves them by opposite amounts. -/
theorem total_pushHead (a : Tile Rat) (rest : List (Tile Rat)) :
    axis.start (pushHead settings a rest).head + axis.total (pushHead settings a rest).rest =
      axis.start a + axis.total rest := by
  fun_induction pushHead settings a rest with
  | case1 a => rfl
  | case2 a b rest clear pushed ih =>
      rw [total_cons, total_cons]
      linarith
  | case3 a b rest a' b' pushing pushed ih =>
      have balanced := (pushedAlong_of_pushPair pushing).balanced axis
      rw [total_cons, total_cons]
      linarith

/-- A pass keeps the sum of the coordinates. -/
theorem total_pushAll (spaces : List (Tile Rat)) :
    axis.total (pushAll settings spaces).1 = axis.total spaces := by
  fun_induction pushAll settings spaces with
  | case1 => rfl
  | case2 a rest pushed others moved next ih =>
      have first := axis.total_pushHead settings a rest
      rw [next] at ih
      rw [total_cons, total_cons, ih]
      exact first

/-- Passes leave the sum of the starts as it was. -/
theorem total_pushUntilStill (passes : Nat) (spaces : List (Tile Rat)) :
    axis.total (pushUntilStill settings passes spaces).value = axis.total spaces := by
  apply pushUntilStill_preserves fun others => axis.total others = axis.total spaces
  · exact fun others same => (axis.total_pushAll settings others).trans same
  · rfl

end Axis

/-! ### The move into the page -/

section Pages

variable {margin : Rat} {spaces : List (Tile Rat)}

/-- A shift of all tiles adds the same to every coordinate. -/
theorem map_start_shifted (shift : Axis → Rat) (spaces : List (Tile Rat)) (axis : Axis) :
    (spaces.map (Tile.shifted (shift .x) (shift .y))).map axis.start =
      (spaces.map axis.start).map (· + shift axis) := by
  rw [List.map_map, List.map_map]
  cases axis with
  | x => rfl
  | y => rfl

/-- Where some spaces start along each axis, and what becomes of them. -/
theorem exists_least (margin : Rat) (inhabited : spaces ≠ []) :
    ∃ least : Axis → Rat,
      (∀ axis : Axis, IsLeast {start | start ∈ spaces.map axis.start} (least axis)) ∧
        ((∃ axis : Axis, least axis < margin) → intoPage margin spaces =
          spaces.map (Tile.shifted (margin - least .x) (margin - least .y))) ∧
        ((∀ axis : Axis, margin ≤ least axis) → intoPage margin spaces = spaces) := by
  obtain ⟨minX, minY, leastX, leastY, moved⟩ := intoPage_eq margin inhabited
  refine ⟨Axis.ofParts minX minY, fun axis => ?_, ?_, fun inside => ?_⟩
  · cases axis with
    | x => exact leastX
    | y => exact leastY
  · rintro ⟨axis, before⟩
    have outside : minX < margin ∨ minY < margin := by
      cases axis with
      | x => exact Or.inl before
      | y => exact Or.inr before
    rw [moved, if_pos outside]
    rfl
  · rw [moved]
    apply if_neg
    exact not_or.mpr ⟨not_lt_of_ge (inside .x), not_lt_of_ge (inside .y)⟩

/-- Spaces are moved by one vector. They stay where they are if none stands before the margin on
either axis; otherwise they start at the margin on both. -/
theorem exists_shift (margin : Rat) (spaces : List (Tile Rat)) :
    ∃ shift : Axis → Rat,
      intoPage margin spaces = spaces.map (Tile.shifted (shift .x) (shift .y)) ∧
        ((∀ axis : Axis, ∀ start ∈ spaces.map axis.start, margin ≤ start) →
          ∀ axis, shift axis = 0) ∧
        ((∃ axis : Axis, ∃ start ∈ spaces.map axis.start, start < margin) →
          ∀ axis : Axis, IsLeast {start | start ∈ (intoPage margin spaces).map axis.start}
            margin) := by
  by_cases inhabited : spaces = []
  · subst inhabited
    refine ⟨fun _ => 0, rfl, fun _ _ => rfl, ?_⟩
    rintro ⟨axis, start, listed, -⟩
    cases listed
  obtain ⟨least, isLeast, outside, inside⟩ := exists_least margin inhabited
  by_cases before : ∃ axis : Axis, least axis < margin
  · have moved := outside before
    refine ⟨fun axis => margin - least axis, moved, fun within => ?_, fun _ axis => ?_⟩
    · obtain ⟨axis, first⟩ := before
      exact absurd (within axis _ (isLeast axis).1) (not_le_of_gt first)
    · have flush := Layout.isLeast_map_add (isLeast axis) (margin - least axis)
      rw [add_sub_cancel] at flush
      rw [moved]
      exact map_start_shifted (fun axis => margin - least axis) spaces axis ▸ flush
  · have still : intoPage margin spaces = spaces := by
      apply inside
      exact fun axis => not_lt.mp fun first => before ⟨axis, first⟩
    refine ⟨fun _ => 0, ?_, fun _ _ => rfl, ?_⟩
    · rw [still, Tile.shifted_zero, List.map_id]
    · rintro ⟨axis, start, listed, early⟩
      exact absurd ⟨axis, lt_of_le_of_lt ((isLeast axis).2 listed) early⟩ before

end Pages

end Overlap

/-! ### Nodes -/

section Nodes

variable {K : Type}

/-- A node and itself, at another place perhaps unless it is a group. -/
def Node.Repositioned (node other : Node K) : Prop :=
  if node.isGroup then other = node else other = node.movedTo other.x other.y

theorem Node.Repositioned.refl (node : Node K) : node.Repositioned node := by
  unfold Repositioned
  split
  case isTrue => rfl
  case isFalse => rfl

end Nodes

namespace Overlap

/-- Where a node stands along an axis. -/
def Axis.position {K : Type} : Axis → Node K → K
  | .x, node => node.x
  | .y, node => node.y

/-- Where the nodes that are no groups stand along an axis, in their order. -/
def Axis.positions {K : Type} (axis : Axis) (nodes : List (Node K)) : List K :=
  (nodes.filter fun node => !node.isGroup).map axis.position

section Nodes

variable {K : Type} [Scalar K]

/-- The nodes after all passes, before they are moved into the page. -/
def pushedApart (settings : Settings K) (nodes : List (Node K)) : List (Node K) :=
  restore nodes (pushUntilStill settings settings.maxPasses (tiles nodes)).value

/-- The tiles of the nodes that have been pushed apart are the tiles after all passes. -/
theorem tiles_pushedApart (settings : Settings K) (nodes : List (Node K)) :
    tiles (pushedApart settings nodes) =
      (pushUntilStill settings settings.maxPasses (tiles nodes)).value := by
  apply tiles_restore
  apply sizes_pushUntilStill

theorem map_start_tiles (axis : Axis) (nodes : List (Node K)) :
    (tiles nodes).map axis.start = axis.positions nodes := by
  rw [tiles, List.map_map]
  cases axis with
  | x => rfl
  | y => rfl

omit [Scalar K] in
/-- Nodes that are given other spaces are the same nodes in the same order. -/
theorem forall₂_restore (nodes : List (Node K)) (spaces : List (Tile K)) :
    List.Forall₂ Node.Repositioned nodes (restore nodes spaces) := by
  fun_induction restore nodes spaces with
  | case1 spaces => exact .nil
  | case2 node nodes spaces isGroup ih => exact .cons (.refl node) ih
  | case3 node nodes isPlain => exact List.forall₂_same.mpr fun node _ => .refl node
  | case4 node nodes isPlain space spaces ih =>
      have moved : node.Repositioned (node.movedTo space.corner.x space.corner.y) := by
        unfold Node.Repositioned
        rw [if_neg isPlain]
        rfl
      exact .cons moved ih

end Nodes

/-- A removal of overlaps: the nodes before it, those pushed apart, and the result, in which all of
them are moved by one vector, given by its part along each axis. -/
structure Steady (margin : Rat) (shift : Axis → Rat) (nodes pushed result : List (Node Rat)) :
    Prop where
  /-- The nodes and their order stay the same, and groups stay where they are. -/
  same : List.Forall₂ Node.Repositioned nodes result
  /-- The nodes that were pushed apart are moved by the vector. -/
  rigid : ∀ axis : Axis, axis.positions result = (axis.positions pushed).map (· + shift axis)
  /-- The sum of the coordinates grows by the vector once for each node, so all that the passes do
  is balanced. -/
  balanced : ∀ axis : Axis, (axis.positions result).sum =
    (axis.positions nodes).sum + (axis.positions nodes).length * shift axis
  /-- If the pushed nodes are in the page, the vector is zero. -/
  still : (∀ axis : Axis, ∀ position ∈ axis.positions pushed, margin ≤ position) →
    ∀ axis, shift axis = 0
  /-- If one of them is not, the result starts at the margin on both axes. -/
  flush : (∃ axis : Axis, ∃ position ∈ axis.positions pushed, position < margin) →
    ∀ axis : Axis, IsLeast {position | position ∈ axis.positions result} margin

theorem sum_map_add (numbers : List Rat) (shift : Rat) :
    (numbers.map (· + shift)).sum = numbers.sum + numbers.length * shift := by
  rw [List.sum_map_add, List.map_id', List.map_const', List.sum_replicate, nsmul_eq_mul]

/-- Removing overlaps moves nodes by balanced pushes and one vector, and changes nothing else. -/
theorem resolve_steady (settings : Settings Rat) (nodes : List (Node Rat)) :
    ∃ shift : Axis → Rat, Steady settings.pageMargin shift nodes (pushedApart settings nodes)
      (resolve settings nodes).value := by
  obtain ⟨shift, moved, still, flush⟩ := exists_shift settings.pageMargin
    (tiles (pushedApart settings nodes))
  have result : tiles (resolve settings nodes).value =
      intoPage settings.pageMargin (tiles (pushedApart settings nodes)) := by
    rw [tiles_resolve, tiles_pushedApart]
  have rigid : ∀ axis : Axis, axis.positions (resolve settings nodes).value =
      (axis.positions (pushedApart settings nodes)).map (· + shift axis) := by
    intro axis
    rw [← map_start_tiles, result, moved, map_start_shifted, map_start_tiles]
  have balanced : ∀ axis : Axis,
      (axis.positions (pushedApart settings nodes)).sum = (axis.positions nodes).sum := by
    intro axis
    rw [← map_start_tiles, tiles_pushedApart, ← map_start_tiles]
    apply axis.total_pushUntilStill
  have length : ∀ axis : Axis,
      (axis.positions (pushedApart settings nodes)).length = (axis.positions nodes).length := by
    intro axis
    have sizes := sizes_pushUntilStill settings settings.maxPasses (tiles nodes)
    rw [← map_start_tiles, ← map_start_tiles, tiles_pushedApart, List.length_map, List.length_map]
    simpa using congrArg List.length sizes
  refine ⟨shift, forall₂_restore nodes _, rigid, fun axis => ?_, ?_, ?_⟩
  · rw [rigid, sum_map_add, balanced, length]
  · simpa only [map_start_tiles] using still
  · simpa only [← result, map_start_tiles] using flush

/-- Before the move into the page, one of the nodes of `piledNodes` stands above it. The move takes
both nodes down, and also to the left margin, behind which they stood. -/
example :
    (pushedApart .standard piledNodes).map (fun node => (node.x, node.y)) =
      [(0, 0), (100, 156), (100, 44)] := by
  decide +kernel

end Overlap

end Flowchart
