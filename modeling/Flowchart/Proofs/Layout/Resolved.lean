import Flowchart.Layout.Overlap
import Flowchart.Proofs.Layout.Bounds
import Mathlib.Tactic.Linarith
import Mathlib.Tactic.Ring

/-!
Removed overlaps.

A pass that pushes nothing has looked at every pair, so its nodes are clear of each other. The move
into the page takes all nodes along by the same amount and keeps them clear, and a second removal
finds nothing to do.

Main definitions: `Settled`, `Tile.shifted`. Main statement: `resolve_settled`.
-/

namespace Flowchart.Overlap

/-! ### Passes -/

section Passes

variable {K : Type} [Scalar K] {settings : Settings K}

/-- No two spaces overlap so that they would be pushed apart. -/
def Settled (settings : Settings K) (tiles : List (Tile K)) : Prop :=
  tiles.Pairwise fun a b => pushPair settings a b = none

/-- A pair is left alone exactly if it does not overlap along one of the axes. -/
theorem pushPair_eq_none_iff {a b : Tile K} :
    pushPair settings a b = none ↔
      extentX settings.padding a b ≤ Scalar.zero ∨ extentY settings.padding a b ≤ Scalar.zero := by
  unfold pushPair
  dsimp only
  split
  case isTrue apart => exact iff_of_true rfl apart
  case isFalse close =>
    refine iff_of_false ?_ close
    split <;> exact Option.some_ne_none _

theorem size_of_pushPair {a b a' b' : Tile K} (pushed : pushPair settings a b = some (a', b')) :
    a'.size = a.size ∧ b'.size = b.size := by
  unfold pushPair at pushed
  dsimp only at pushed
  split at pushed
  case isTrue => cases pushed
  case isFalse =>
    split at pushed
    case isTrue => cases pushed; exact ⟨rfl, rfl⟩
    case isFalse => cases pushed; exact ⟨rfl, rfl⟩

theorem sizes_pushHead (settings : Settings K) (a : Tile K) (rest : List (Tile K)) :
    (pushHead settings a rest).head.size = a.size ∧
      (pushHead settings a rest).rest.map Tile.size = rest.map Tile.size := by
  fun_induction pushHead settings a rest with
  | case1 a => exact ⟨rfl, rfl⟩
  | case2 a b rest clear pushed ih => exact ⟨ih.1, congrArg (b.size :: ·) ih.2⟩
  | case3 a b rest a' b' pushing pushed ih =>
      obtain ⟨sizeA, sizeB⟩ := size_of_pushPair pushing
      exact ⟨ih.1.trans sizeA, by rw [List.map_cons, List.map_cons, sizeB, ih.2]⟩

/-- A pass keeps sizes and their order. -/
theorem sizes_pushAll (settings : Settings K) (tiles : List (Tile K)) :
    (pushAll settings tiles).1.map Tile.size = tiles.map Tile.size := by
  fun_induction pushAll settings tiles with
  | case1 => rfl
  | case2 a rest pushed others moved next ih =>
      obtain ⟨sizeA, sizes⟩ := sizes_pushHead settings a rest
      rw [next] at ih
      rw [List.map_cons, List.map_cons, ih, sizes, sizeA]

/-- Where no pair overlaps, nothing moves. -/
theorem pushHead_of_clear {a : Tile K} {rest : List (Tile K)}
    (clear : ∀ b ∈ rest, pushPair settings a b = none) :
    pushHead settings a rest = ⟨a, rest, false⟩ := by
  induction rest with
  | nil => rfl
  | cons b rest ih =>
      obtain ⟨apart, others⟩ := List.forall_mem_cons.mp clear
      simp only [pushHead, apart, ih others]

/-- Where nothing has moved, no pair overlapped. -/
theorem clear_of_pushHead {a : Tile K} {rest : List (Tile K)}
    (still : (pushHead settings a rest).moved = false) :
    ∀ b ∈ rest, pushPair settings a b = none := by
  fun_induction pushHead settings a rest with
  | case1 a => simp
  | case2 a b rest clear pushed ih => exact List.forall_mem_cons.mpr ⟨clear, ih still⟩
  | case3 a b rest a' b' pushing pushed ih => cases still

/-- A pass over spaces that are clear of each other changes nothing. -/
theorem pushAll_of_settled {tiles : List (Tile K)} (settled : Settled settings tiles) :
    pushAll settings tiles = (tiles, false) := by
  induction tiles with
  | nil => rw [pushAll]
  | cons a rest ih =>
      obtain ⟨clear, others⟩ := List.pairwise_cons.mp settled
      simp only [pushAll, pushHead_of_clear clear, ih others, Bool.or_false]

/-- A pass that pushes nothing has found all spaces clear of each other. -/
theorem settled_of_pushAll {tiles : List (Tile K)} (still : (pushAll settings tiles).2 = false) :
    Settled settings tiles := by
  induction tiles with
  | nil => exact .nil
  | cons a rest ih =>
      rw [pushAll] at still
      obtain ⟨first, later⟩ := Bool.or_eq_false_iff.mp still
      have clear := clear_of_pushHead first
      rw [pushHead_of_clear clear] at later
      exact .cons clear (ih later)

/-- What every pass preserves is preserved by all passes together. -/
theorem pushUntilStill_preserves (holds : List (Tile K) → Prop)
    (pass : ∀ tiles, holds tiles → holds (pushAll settings tiles).1) (passes : Nat)
    {tiles : List (Tile K)} (start : holds tiles) :
    holds (pushUntilStill settings passes tiles).value := by
  induction passes generalizing tiles with
  | zero => exact start
  | succ passes ih =>
      have next := pass tiles start
      unfold pushUntilStill
      split
      case h_1 still pass => rw [pass] at next; exact next
      case h_2 moved pass => rw [pass] at next; exact ih next

/-- All passes together keep sizes and their order. -/
theorem sizes_pushUntilStill (settings : Settings K) (passes : Nat) (tiles : List (Tile K)) :
    (pushUntilStill settings passes tiles).value.map Tile.size = tiles.map Tile.size := by
  apply pushUntilStill_preserves fun spaces => spaces.map Tile.size = tiles.map Tile.size
  · exact fun spaces same => (sizes_pushAll settings spaces).trans same
  · rfl

/-- If the last pass moved nothing, no pair overlaps. -/
theorem settled_of_converged {passes : Nat} {tiles : List (Tile K)}
    (converged : (pushUntilStill settings passes tiles).converged = true) :
    Settled settings (pushUntilStill settings passes tiles).value := by
  induction passes generalizing tiles with
  | zero => cases converged
  | succ passes ih =>
      unfold pushUntilStill at converged ⊢
      split
      case h_1 still pass =>
        have settled : Settled settings tiles := settled_of_pushAll (by rw [pass])
        rw [pushAll_of_settled settled] at pass
        cases pass
        exact settled
      case h_2 moved pass =>
        rw [pass] at converged
        exact ih converged

/-- If the last pass moved something, all passes have been used. -/
theorem passes_of_not_converged {passes : Nat} {tiles : List (Tile K)}
    (unfinished : (pushUntilStill settings passes tiles).converged = false) :
    (pushUntilStill settings passes tiles).passes = passes := by
  induction passes generalizing tiles with
  | zero => rfl
  | succ passes ih =>
      unfold pushUntilStill at unfinished ⊢
      split
      case h_1 still pass =>
        rw [pass] at unfinished
        cases unfinished
      case h_2 moved pass =>
        rw [pass] at unfinished
        exact congrArg (· + 1) (ih unfinished)

/-- Over spaces that are clear of each other one pass is enough. -/
theorem pushUntilStill_of_settled {passes : Nat} (some : 1 ≤ passes) {tiles : List (Tile K)}
    (settled : Settled settings tiles) :
    pushUntilStill settings passes tiles = ⟨tiles, 1, true⟩ := by
  obtain ⟨others, rfl⟩ := Nat.exists_eq_add_of_le' some
  simp only [pushUntilStill, pushAll_of_settled settled]

end Passes

/-! ### Nodes and their spaces -/

section Nodes

variable {K : Type} [Scalar K]

theorem tiles_cons_group {node : Node K} (isGroup : node.isGroup = true) (nodes : List (Node K)) :
    tiles (node :: nodes) = tiles nodes := by
  simp [tiles, isGroup]

theorem tiles_cons_plain {node : Node K} (plain : node.isGroup = false) (nodes : List (Node K)) :
    tiles (node :: nodes) = tileOf node :: tiles nodes := by
  simp [tiles, plain]

/-- The spaces of restored nodes are those that were given to them. -/
theorem tiles_restore {nodes : List (Node K)} {spaces : List (Tile K)}
    (sizes : spaces.map Tile.size = (tiles nodes).map Tile.size) :
    tiles (restore nodes spaces) = spaces := by
  fun_induction restore nodes spaces with
  | case1 spaces => exact (List.map_eq_nil_iff.mp sizes).symm
  | case2 node nodes spaces isGroup ih =>
      rw [tiles_cons_group isGroup] at sizes ⊢
      exact ih sizes
  | case3 node nodes isPlain =>
      have plain : node.isGroup = false := by simpa using isPlain
      rw [tiles_cons_plain plain] at sizes
      cases sizes
  | case4 node nodes isPlain space spaces ih =>
      have plain : node.isGroup = false := by simpa using isPlain
      have alsoPlain : (node.movedTo space.corner.x space.corner.y).isGroup = false := plain
      rw [tiles_cons_plain plain, List.map_cons, List.map_cons, List.cons.injEq] at sizes
      rw [tiles_cons_plain alsoPlain, ih sizes.2]
      have size : (node.movedTo space.corner.x space.corner.y).footprint = space.size :=
        sizes.1.symm
      rw [tileOf, size]
      rfl

/-- Nodes that are given their own spaces are the same nodes. -/
theorem restore_tiles (nodes : List (Node K)) : restore nodes (tiles nodes) = nodes := by
  induction nodes with
  | nil => rfl
  | cons node nodes ih =>
      cases isGroup : node.isGroup with
      | true =>
          rw [tiles_cons_group isGroup]
          simp only [restore, isGroup, if_true, ih]
      | false =>
          rw [tiles_cons_plain isGroup]
          simp only [restore, isGroup, Bool.false_eq_true, if_false, ih]
          rfl

/-- Every plain node has a tile. -/
theorem mem_tiles {nodes : List (Node K)} {node : Node K} (listed : node ∈ nodes)
    (plain : node.isGroup = false) : tileOf node ∈ tiles nodes :=
  List.mem_map_of_mem (List.mem_filter.mpr ⟨listed, by simp [plain]⟩)

end Nodes

/-! ### The page -/

/-- A space moved by some amounts. -/
def Tile.shifted (dx dy : Rat) (tile : Tile Rat) : Tile Rat :=
  { tile with corner := ⟨tile.corner.x + dx, tile.corner.y + dy⟩ }

theorem Tile.shifted_zero : Tile.shifted 0 0 = id := by
  funext tile
  simp [shifted]

/-- An overlap does not change when both are shifted. -/
theorem extent_add (padding start length start' length' amount : Rat) :
    extent padding (start + amount) length (start' + amount) length' =
      extent padding start length start' length' := by
  have stop : ∀ start length : Rat,
      start + amount + length + padding = start + length + padding + amount := by
    intro start length
    ring
  simp only [extent, Scalar.least_rat, Scalar.greatest_rat, stop]
  rw [min_add_add_right, max_add_add_right, add_sub_add_right_eq_sub]

theorem settled_map_shifted {settings : Settings Rat} {tiles : List (Tile Rat)} (dx dy : Rat)
    (settled : Settled settings tiles) : Settled settings (tiles.map (Tile.shifted dx dy)) := by
  refine List.pairwise_map.mpr (settled.imp fun {a b} clear => ?_)
  rw [pushPair_eq_none_iff] at clear ⊢
  simpa only [extentX, extentY, Tile.shifted, extent_add] using clear

/-- Spaces are moved so that the least coordinates are those of the margins, if one of them was
less, and stay where they are otherwise. -/
theorem intoPage_eq (margin : Rat) {tiles : List (Tile Rat)} (inhabited : tiles ≠ []) :
    ∃ minX minY, IsLeast {x | x ∈ tiles.map fun tile => tile.corner.x} minX ∧
      IsLeast {y | y ∈ tiles.map fun tile => tile.corner.y} minY ∧
      intoPage margin tiles =
        if minX < margin ∨ minY < margin then
          tiles.map (Tile.shifted (margin - minX) (margin - minY))
        else tiles := by
  obtain ⟨first, others, rfl⟩ := List.exists_cons_of_ne_nil inhabited
  exact ⟨_, _, Scalar.isLeast_leastOf _ _, Scalar.isLeast_leastOf _ _, rfl⟩

/-- All spaces are moved into the page by the same amounts. -/
theorem exists_intoPage_eq_map (margin : Rat) (tiles : List (Tile Rat)) :
    ∃ dx dy, intoPage margin tiles = tiles.map (Tile.shifted dx dy) := by
  by_cases inhabited : tiles = []
  · exact ⟨0, 0, by rw [inhabited]; rfl⟩
  obtain ⟨minX, minY, -, -, moved⟩ := intoPage_eq margin inhabited
  split at moved
  case isTrue => exact ⟨_, _, moved⟩
  case isFalse => exact ⟨0, 0, by rw [moved, Tile.shifted_zero, List.map_id]⟩

theorem sizes_intoPage (margin : Rat) (tiles : List (Tile Rat)) :
    (intoPage margin tiles).map Tile.size = tiles.map Tile.size := by
  obtain ⟨dx, dy, moved⟩ := exists_intoPage_eq_map margin tiles
  rw [moved, List.map_map]
  rfl

/-- In the page nothing stands before the margins. -/
theorem margin_le_of_mem_intoPage {margin : Rat} {tiles : List (Tile Rat)} {tile : Tile Rat}
    (listed : tile ∈ intoPage margin tiles) :
    margin ≤ tile.corner.x ∧ margin ≤ tile.corner.y := by
  have inhabited : tiles ≠ [] := by
    rintro rfl
    cases listed
  obtain ⟨minX, minY, leastX, leastY, moved⟩ := intoPage_eq margin inhabited
  have minX_le : ∀ tile ∈ tiles, minX ≤ tile.corner.x :=
    fun tile listed => leastX.2 (List.mem_map.mpr ⟨tile, listed, rfl⟩)
  have minY_le : ∀ tile ∈ tiles, minY ≤ tile.corner.y :=
    fun tile listed => leastY.2 (List.mem_map.mpr ⟨tile, listed, rfl⟩)
  rw [moved] at listed
  split at listed
  case isTrue =>
    obtain ⟨old, wasListed, rfl⟩ := List.mem_map.mp listed
    have atX := minX_le old wasListed
    have atY := minY_le old wasListed
    constructor
    · change margin ≤ old.corner.x + (margin - minX)
      linarith
    · change margin ≤ old.corner.y + (margin - minY)
      linarith
  case isFalse inside =>
    obtain ⟨insideX, insideY⟩ := not_or.mp inside
    exact ⟨(not_lt.mp insideX).trans (minX_le tile listed),
      (not_lt.mp insideY).trans (minY_le tile listed)⟩

/-- What stands behind the margins stays where it is. -/
theorem intoPage_of_margin_le {margin : Rat} {tiles : List (Tile Rat)}
    (inside : ∀ tile ∈ tiles, margin ≤ tile.corner.x ∧ margin ≤ tile.corner.y) :
    intoPage margin tiles = tiles := by
  by_cases inhabited : tiles = []
  · rw [inhabited]
    rfl
  obtain ⟨minX, minY, leastX, leastY, moved⟩ := intoPage_eq margin inhabited
  obtain ⟨leftmost, isTile, atX⟩ := List.mem_map.mp leastX.1
  obtain ⟨topmost, isTile', atY⟩ := List.mem_map.mp leastY.1
  rw [moved, if_neg]
  rintro (before | above)
  · exact absurd (inside leftmost isTile).1 (not_le_of_gt (atX ▸ before))
  · exact absurd (inside topmost isTile').2 (not_le_of_gt (atY ▸ above))

/-! ### Resolutions -/

/-- Where no pair of tiles overlaps, no overlaps of nodes are counted. -/
theorem count_eq_zero_of_settled {settings : Settings Rat} {nodes : List (Node Rat)}
    (settled : Settled settings (tiles nodes)) : count settings.padding nodes = 0 := by
  have clear : (tiles nodes).Pairwise fun a b => ¬ collide settings.padding a b = true := by
    refine settled.imp fun {a b} still => ?_
    have apart := pushPair_eq_none_iff.mp still
    simpa only [collide, Bool.and_eq_true, decide_eq_true_eq, not_and_or, not_lt] using apart
  exact List.countP_eq_zero.mpr (forall_mem_pairs.mpr clear)

/-- The spaces of the nodes after a resolution. -/
theorem tiles_resolve (settings : Settings Rat) (nodes : List (Node Rat)) :
    tiles (resolve settings nodes).value =
      intoPage settings.pageMargin
        (pushUntilStill settings settings.maxPasses (tiles nodes)).value := by
  refine tiles_restore ?_
  rw [sizes_intoPage, sizes_pushUntilStill]

/-- After a resolution no node stands before the margins of the page. If it has come to an end, no
two nodes overlap, and resolving again takes one pass and changes nothing; otherwise all passes were
used. -/
theorem resolve_settled (settings : Settings Rat) (some : 1 ≤ settings.maxPasses)
    (nodes : List (Node Rat)) :
    (∀ node ∈ (resolve settings nodes).value, node.isGroup = false →
        settings.pageMargin ≤ node.x ∧ settings.pageMargin ≤ node.y) ∧
      ((resolve settings nodes).converged = true →
        count settings.padding (resolve settings nodes).value = 0 ∧
          resolve settings (resolve settings nodes).value =
            ⟨(resolve settings nodes).value, 1, true⟩) ∧
      ((resolve settings nodes).converged = false →
        (resolve settings nodes).passes = settings.maxPasses) := by
  have spaces := tiles_resolve settings nodes
  have behind : ∀ tile ∈ tiles (resolve settings nodes).value,
      settings.pageMargin ≤ tile.corner.x ∧ settings.pageMargin ≤ tile.corner.y := by
    rw [spaces]
    exact fun tile => margin_le_of_mem_intoPage
  refine ⟨fun node listed plain => behind _ (mem_tiles listed plain), fun converged => ?_,
    passes_of_not_converged⟩
  have settled : Settled settings (tiles (resolve settings nodes).value) := by
    obtain ⟨dx, dy, moved⟩ := exists_intoPage_eq_map settings.pageMargin
      (pushUntilStill settings settings.maxPasses (tiles nodes)).value
    rw [spaces, moved]
    exact settled_map_shifted dx dy (settled_of_converged converged)
  refine ⟨count_eq_zero_of_settled settled, ?_⟩
  generalize (resolve settings nodes).value = resolved at behind settled
  rw [resolve, pushUntilStill_of_settled some settled, intoPage_of_margin_le behind, restore_tiles]

/-- Two nodes at one place, over a group. -/
def piledNodes : List (Node Rat) := [
  { id := "g", kind := .group, label := "G", x := 0, y := 0 },
  { id := "a", kind := .plain, label := "A", x := 100, y := 100 },
  { id := "b", kind := .decision, label := "B", x := 100, y := 100 }]

/-- Two passes push the nodes apart and a third one finds them clear. One pass alone does not come
to an end. -/
theorem resolve_settled_piledNodes :
    1 ≤ (Settings.standard : Settings Rat).maxPasses ∧
      (resolve .standard piledNodes).converged = true ∧
      (resolve .standard piledNodes).value.map (fun node => (node.x, node.y)) =
        [(0, 0), (60, 172), (60, 60)] ∧
      count 20 (resolve .standard piledNodes).value = 0 ∧
      resolve .standard (resolve .standard piledNodes).value =
        ⟨(resolve .standard piledNodes).value, 1, true⟩ ∧
      1 ≤ ({ Settings.standard with maxPasses := 1 } : Settings Rat).maxPasses ∧
      (resolve { Settings.standard with maxPasses := 1 } piledNodes).converged = false ∧
      (resolve { Settings.standard with maxPasses := 1 } piledNodes).passes = 1 := by
  have converged : (resolve .standard piledNodes).converged = true := by decide +kernel
  have unfinished :
      (resolve { Settings.standard with maxPasses := 1 } piledNodes).converged = false := by
    decide +kernel
  obtain ⟨-, settles, -⟩ := resolve_settled .standard (by decide) piledNodes
  obtain ⟨-, -, stops⟩ :=
    resolve_settled { Settings.standard with maxPasses := 1 } (by decide) piledNodes
  obtain ⟨clear, again⟩ := settles converged
  exact ⟨by decide, converged, by decide +kernel, clear, again, by decide, unfinished,
    stops unfinished⟩

end Flowchart.Overlap
