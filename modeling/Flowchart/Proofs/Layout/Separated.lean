import Mathlib.Algebra.Order.Group.MinMax
import Flowchart.Proofs.Layout.Pushed

/-!
Two spaces alone.

A push takes two spaces as far apart as they overlap. That is enough unless, along the axis, the
earlier space also ends after the later one. If no space is more than twice as long as the other,
such a push leaves the two overlapping at one end only and less than before, so that the next one is
along the same axis and parts them. The spaces of nodes are of such lengths.

Main definitions: `Axis.Exposed`, `SeparatedAfter`. Main statement: `resolve_pair`.
-/

namespace Flowchart.Overlap

/-! ### Intervals -/

section Intervals

variable {padding margin x y length length' : Rat}

/-- How far the interval that starts earlier, with its padding, reaches behind the start of the
other one. -/
def reach (padding x length y length' : Rat) : Rat :=
  if x < y then x + length + padding - y else y + length' + padding - x

/-- The length of the interval that starts later. -/
def laterLength (x length y length' : Rat) : Rat :=
  if x < y then length' else length

theorem extent_eq_min :
    extent padding x length y length' =
      min (reach padding x length y length') (laterLength x length y length' + padding) := by
  rw [extent, Scalar.least_rat, Scalar.greatest_rat]
  rcases lt_or_ge x y with before | behind
  · have later : y + length' + padding - y = length' + padding := by ring
    rw [reach, if_pos before, laterLength, if_pos before, max_eq_right (le_of_lt before),
      ← min_sub_sub_right, later]
  · have later : x + length + padding - x = length + padding := by ring
    have notBefore := not_lt_of_ge behind
    rw [reach, if_neg notBefore, laterLength, if_neg notBefore, max_eq_left behind,
      ← min_sub_sub_right, later, min_comm]

/-- Intervals that are moved apart keep their order, and the earlier one reaches less far by both
moves. -/
theorem reach_spread (padding x length y length' : Rat) {push : Rat} (forward : 0 < push) :
    reach padding (spread push x y).1 length (spread push x y).2 length' =
        reach padding x length y length' - 2 * push ∧
      laterLength (spread push x y).1 length (spread push x y).2 length' =
        laterLength x length y length' := by
  unfold spread
  rcases lt_or_ge x y with before | behind
  · have still : x - push < y + push := by linarith
    rw [if_pos before, reach, if_pos still, reach, if_pos before, laterLength, if_pos still,
      laterLength, if_pos before]
    constructor
    · ring
    · rfl
  · have still : ¬ x + push < y - push := by linarith
    have notBefore := not_lt_of_ge behind
    rw [if_neg notBefore, reach, if_neg still, reach, if_neg notBefore, laterLength, if_neg still,
      laterLength, if_neg notBefore]
    constructor
    · ring
    · rfl

/-- The earlier interval reaches no further behind the start of the other one than it is long. -/
theorem reach_le {factor : Rat} (similar : length ≤ factor * length')
    (similar' : length' ≤ factor * length) :
    reach padding x length y length' ≤ factor * laterLength x length y length' + padding := by
  rcases lt_or_ge x y with before | behind
  · rw [reach, if_pos before, laterLength, if_pos before]
    linarith
  · have notBefore := not_lt_of_ge behind
    rw [reach, if_neg notBefore, laterLength, if_neg notBefore]
    linarith

/-- Intervals that overlap at one end only are parted by a push. -/
theorem extent_spread_le_zero
    (exposed : reach padding x length y length' ≤ laterLength x length y length' + padding)
    (close : 0 < extent padding x length y length') (forward : 0 ≤ margin) :
    let push := extent padding x length y length' / 2 + margin
    extent padding (spread push x y).1 length (spread push x y).2 length' ≤ 0 := by
  intro push
  have isReach : extent padding x length y length' = reach padding x length y length' := by
    rw [extent_eq_min]
    exact min_eq_left exposed
  have isPush : push = extent padding x length y length' / 2 + margin := rfl
  have positive : 0 < push := by linarith
  obtain ⟨reached, -⟩ := reach_spread padding x length y length' positive
  rw [extent_eq_min, reached]
  apply min_le_of_left_le
  linarith

/-- After a push, intervals of similar lengths overlap at one end at most, and no further than
before. -/
theorem exposed_spread (similar : length ≤ 2 * length') (similar' : length' ≤ 2 * length)
    (padded : 0 ≤ padding) (close : 0 < extent padding x length y length')
    (forward : 0 ≤ margin) :
    let push := extent padding x length y length' / 2 + margin
    reach padding (spread push x y).1 length (spread push x y).2 length' ≤
        laterLength (spread push x y).1 length (spread push x y).2 length' + padding ∧
      extent padding (spread push x y).1 length (spread push x y).2 length' ≤
        extent padding x length y length' := by
  intro push
  have isPush : push = extent padding x length y length' / 2 + margin := rfl
  have positive : 0 < push := by linarith
  have bound : reach padding x length y length' ≤
      2 * laterLength x length y length' + padding := reach_le similar similar'
  obtain ⟨reached, later⟩ := reach_spread padding x length y length' positive
  rw [extent_eq_min] at close isPush
  rw [extent_eq_min, extent_eq_min, reached, later]
  generalize reach padding x length y length' = before at *
  generalize laterLength x length y length' = behind at *
  have some := (lt_min_iff.mp close).2
  rcases le_total before (behind + padding) with exposed | swallowed
  · rw [min_eq_left exposed] at isPush close ⊢
    constructor
    · linarith
    · apply min_le_of_left_le
      linarith
  · rw [min_eq_right swallowed] at isPush close ⊢
    constructor
    · linarith
    · exact min_le_right _ _

end Intervals

/-! ### Two spaces -/

/-- Along the axis two spaces overlap at one end only: the earlier one ends no later than the other
one, padding included. -/
def Axis.Exposed (axis : Axis) (padding : Rat) (a b : Tile Rat) : Prop :=
  reach padding (axis.start a) (axis.length a) (axis.start b) (axis.length b) ≤
    laterLength (axis.start a) (axis.length a) (axis.start b) (axis.length b) + padding

/-- Spaces of which none is more than twice as long as the other, on either axis. -/
def Similar (a b : Tile Rat) : Prop :=
  ∀ axis : Axis, axis.length a ≤ 2 * axis.length b ∧ axis.length b ≤ 2 * axis.length a

section Pushes

variable {settings : Settings Rat} {axis : Axis} {a b a' b' : Tile Rat}

theorem Axis.exposed_of_size_eq (axis : Axis) (padding : Rat) (same : a.size = b.size) :
    axis.Exposed padding a b := by
  have length := Axis.length_congr same axis
  have bound : reach padding (axis.start a) (axis.length a) (axis.start b) (axis.length b) ≤
      1 * laterLength (axis.start a) (axis.length a) (axis.start b) (axis.length b) + padding := by
    apply reach_le
    · linarith
    · linarith
  rwa [one_mul] at bound

/-- The overlap after a push, in terms of the spaces before it. -/
theorem PushedAlong.overlap_eq (pushed : PushedAlong settings axis a b a' b') :
    axis.overlap settings.padding a' b' =
      extent settings.padding
        (spread (axis.overlap settings.padding a b / 2 + settings.pushMargin) (axis.start a)
          (axis.start b)).1 (axis.length a)
        (spread (axis.overlap settings.padding a b / 2 + settings.pushMargin) (axis.start a)
          (axis.start b)).2 (axis.length b) := by
  obtain ⟨startA, startB⟩ := pushed.start_eq
  obtain ⟨sizeA, sizeB⟩ := pushed.sizes
  rw [Axis.overlap, startA, startB, Axis.length_congr sizeA, Axis.length_congr sizeB]
  rfl

/-- Spaces that overlap at one end only are parted by a push. -/
theorem PushedAlong.parted (pushed : PushedAlong settings axis a b a' b')
    (exposed : axis.Exposed settings.padding a b) (forward : 0 ≤ settings.pushMargin) :
    pushPair settings a' b' = none := by
  have close : 0 < axis.overlap settings.padding a b := not_le.mp (pushed.close axis)
  have parted : axis.overlap settings.padding a' b' ≤ 0 := by
    rw [pushed.overlap_eq]
    exact extent_spread_le_zero exposed close forward
  rw [pushPair_eq_none_iff]
  cases axis with
  | x => exact Or.inl parted
  | y => exact Or.inr parted

/-- Spaces that overlap less than before on the axis to push them along, and as far as before on the
other one, are to be pushed along the same axis. -/
theorem Axis.cheaper_of_le {padding : Rat} (along : cheaper padding a b = axis)
    (less : axis.overlap padding a' b' ≤ axis.overlap padding a b)
    (same : axis.other.overlap padding a' b' = axis.other.overlap padding a b) :
    cheaper padding a' b' = axis := by
  cases axis with
  | x =>
      have wasLess : x.overlap padding a b < y.overlap padding a b := by
        by_contra notLess
        rw [cheaper, if_neg notLess] at along
        cases along
      apply if_pos
      exact lt_of_le_of_lt less (lt_of_lt_of_eq wasLess same.symm)
  | y =>
      have wasNotLess : ¬ x.overlap padding a b < y.overlap padding a b := by
        intro isLess
        rw [cheaper, if_pos isLess] at along
        cases along
      apply if_neg
      exact not_lt_of_ge (le_trans less (le_of_le_of_eq (not_lt.mp wasNotLess) same.symm))

/-- After a push, similar spaces overlap at one end at most, and no further than before. -/
theorem PushedAlong.exposed (pushed : PushedAlong settings axis a b a' b')
    (similar : Similar a b) (padded : 0 ≤ settings.padding) (forward : 0 ≤ settings.pushMargin) :
    axis.Exposed settings.padding a' b' ∧
      axis.overlap settings.padding a' b' ≤ axis.overlap settings.padding a b := by
  have close : 0 < axis.overlap settings.padding a b := not_le.mp (pushed.close axis)
  obtain ⟨shorter, longer⟩ := similar axis
  obtain ⟨exposed, less⟩ := exposed_spread shorter longer padded close forward
  obtain ⟨startA, startB⟩ := pushed.start_eq
  obtain ⟨sizeA, sizeB⟩ := pushed.sizes
  constructor
  · rw [Axis.Exposed, startA, startB, Axis.length_congr sizeA, Axis.length_congr sizeB]
    exact exposed
  · rw [pushed.overlap_eq]
    exact less

end Pushes

/-! ### Pushes until two spaces are apart -/

/-- Two spaces are apart after a number of pushes. -/
inductive SeparatedAfter (settings : Settings Rat) : Nat → Tile Rat → Tile Rat → Prop where
  | apart {a b : Tile Rat} (clear : pushPair settings a b = none) : SeparatedAfter settings 0 a b
  | push {pushes : Nat} {a b a' b' : Tile Rat} (pushing : pushPair settings a b = some (a', b'))
      (later : SeparatedAfter settings pushes a' b') : SeparatedAfter settings (pushes + 1) a b

section Separations

variable {settings : Settings Rat} {a b : Tile Rat}

/-- Spaces of one size are apart after one push at most. -/
theorem separatedAfter_of_size_eq (same : a.size = b.size) (forward : 0 ≤ settings.pushMargin) :
    ∃ pushes ≤ 1, SeparatedAfter settings pushes a b := by
  cases pushing : pushPair settings a b with
  | none => exact ⟨0, by decide, .apart pushing⟩
  | some result =>
      have pushed := pushedAlong_of_pushPair pushing
      have exposed :=
        Axis.exposed_of_size_eq (Axis.cheaper settings.padding a b) settings.padding same
      exact ⟨1, by decide, .push pushing (.apart (pushed.parted exposed forward))⟩

/-- Similar spaces are apart after two pushes at most. -/
theorem separatedAfter_of_similar (similar : Similar a b) (padded : 0 ≤ settings.padding)
    (forward : 0 ≤ settings.pushMargin) : ∃ pushes ≤ 2, SeparatedAfter settings pushes a b := by
  cases pushing : pushPair settings a b with
  | none => exact ⟨0, by decide, .apart pushing⟩
  | some result =>
      obtain ⟨a', b'⟩ := result
      have pushed := pushedAlong_of_pushPair pushing
      obtain ⟨exposed, less⟩ := pushed.exposed similar padded forward
      cases again : pushPair settings a' b' with
      | none => exact ⟨1, by decide, .push pushing (.apart again)⟩
      | some result =>
          -- the second push is along the axis of the first one, where the spaces are exposed now
          have along := Axis.cheaper_of_le rfl less (pushed.overlap_other settings.padding)
          have pushed' := pushedAlong_of_pushPair again
          rw [along] at pushed'
          have parted := pushed'.parted exposed forward
          exact ⟨2, by decide, .push pushing (.push again (.apart parted))⟩

theorem pushAll_pair (settings : Settings Rat) (a b : Tile Rat) :
    pushAll settings [a, b] = match pushPair settings a b with
      | none => ([a, b], false)
      | some (a', b') => ([a', b'], true) := by
  cases pushing : pushPair settings a b with
  | none => simp [pushAll, pushHead, pushing]
  | some pushed => simp [pushAll, pushHead, pushing]

/-- Each push takes a pass, and one more pass finds the spaces apart. -/
theorem SeparatedAfter.pushUntilStill {pushes passes : Nat}
    (separated : SeparatedAfter settings pushes a b) (enough : pushes < passes) :
    (pushUntilStill settings passes [a, b]).converged = true ∧
      (pushUntilStill settings passes [a, b]).passes = pushes + 1 := by
  induction separated generalizing passes with
  | apart clear =>
      cases passes with
      | zero => cases enough
      | succ passes => simp [Overlap.pushUntilStill, pushAll_pair, clear]
  | push pushing later ih =>
      cases passes with
      | zero => cases enough
      | succ passes =>
          obtain ⟨converged, used⟩ := ih (Nat.lt_of_succ_lt_succ enough)
          simp [Overlap.pushUntilStill, pushAll_pair, pushing, converged, used]

end Separations

/-! ### Nodes -/

theorem footprint_cases (node : Node Rat) :
    node.footprint = ⟨180, 60⟩ ∨ node.footprint = ⟨140, 90⟩ := by
  unfold Node.footprint NodeKind.footprint
  split
  case h_1 => exact Or.inr rfl
  case h_2 => exact Or.inl rfl

/-- The spaces of nodes are similar. -/
theorem similar_tileOf (node other : Node Rat) : Similar (tileOf node) (tileOf other) := by
  intro axis
  have sizeOf : ∀ node : Node Rat, (tileOf node).size = node.footprint := fun _ => rfl
  cases axis <;> simp only [Axis.length, sizeOf] <;>
    rcases footprint_cases node with same | same <;>
      rcases footprint_cases other with same' | same' <;> rw [same, same'] <;> norm_num

/-- Two nodes alone, whatever groups stand around them, are pushed apart within three passes, and
within two if they take the same space. -/
theorem resolve_pair (settings : Settings Rat) (enough : 3 ≤ settings.maxPasses)
    (padded : 0 ≤ settings.padding) (forward : 0 ≤ settings.pushMargin) {nodes : List (Node Rat)}
    {a b : Node Rat} (two : nodes.filter (fun node => !node.isGroup) = [a, b]) :
    (resolve settings nodes).converged = true ∧ (resolve settings nodes).passes ≤ 3 ∧
      (a.footprint = b.footprint → (resolve settings nodes).passes ≤ 2) := by
  have spaces : tiles nodes = [tileOf a, tileOf b] := by
    rw [tiles, two]
    rfl
  have converges : ∀ {pushes : Nat}, pushes ≤ 2 →
      SeparatedAfter settings pushes (tileOf a) (tileOf b) →
        (resolve settings nodes).converged = true ∧
          (resolve settings nodes).passes = pushes + 1 := by
    intro pushes few separated
    rw [resolve, spaces]
    exact separated.pushUntilStill (by omega)
  obtain ⟨pushes, few, separated⟩ :=
    separatedAfter_of_similar (similar_tileOf a b) padded forward
  obtain ⟨converged, passes⟩ := converges few separated
  refine ⟨converged, by omega, fun same => ?_⟩
  have sameSize : (tileOf a).size = (tileOf b).size := same
  obtain ⟨pushes', fewer, separated'⟩ := separatedAfter_of_size_eq sameSize forward
  obtain ⟨-, passes'⟩ := converges (by omega) separated'
  omega

/-- Two nodes of one size on both sides of a group. -/
def twinNodes : List (Node Rat) := [
  { id := "a", kind := .plain, label := "A", x := 10, y := 25 },
  { id := "g", kind := .group, label := "G", x := 0, y := 0 },
  { id := "b", kind := .database, label := "B", x := 30, y := 0 }]

/-- The nodes of `piledNodes`, of two sizes, take all three passes. -/
theorem resolve_pair_piledNodes :
    3 ≤ (Settings.standard : Settings Rat).maxPasses ∧
      0 ≤ (Settings.standard : Settings Rat).padding ∧
      0 ≤ (Settings.standard : Settings Rat).pushMargin ∧
      piledNodes.filter (fun node => !node.isGroup) = [piledNodes[1], piledNodes[2]] ∧
      (resolve .standard piledNodes).converged = true ∧
      (resolve .standard piledNodes).passes ≤ 3 ∧ ¬ (resolve .standard piledNodes).passes ≤ 2 ∧
      twinNodes.filter (fun node => !node.isGroup) = [twinNodes[0], twinNodes[2]] ∧
      twinNodes[0].footprint = twinNodes[2].footprint ∧
      (resolve ⟨3, 0, 0, 60⟩ twinNodes).converged = true ∧
      (resolve ⟨3, 0, 0, 60⟩ twinNodes).passes ≤ 2 := by
  have padded : 0 ≤ (Settings.standard : Settings Rat).padding := by decide
  have forward : 0 ≤ (Settings.standard : Settings Rat).pushMargin := by decide
  have piled : piledNodes.filter (fun node => !node.isGroup) = [piledNodes[1], piledNodes[2]] := rfl
  have twins : twinNodes.filter (fun node => !node.isGroup) = [twinNodes[0], twinNodes[2]] := rfl
  have same : twinNodes[0].footprint = twinNodes[2].footprint := rfl
  obtain ⟨converged, passes, -⟩ := resolve_pair .standard (by decide) padded forward piled
  obtain ⟨converged', -, passes'⟩ :=
    resolve_pair ⟨3, 0, 0, 60⟩ (by decide) (by decide) (by decide) twins
  exact ⟨by decide, padded, forward, piled, converged, passes, by decide +kernel, twins, same,
    converged', passes' same⟩

end Flowchart.Overlap
