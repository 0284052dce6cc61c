import Flowchart.Proofs.Layout.Resolved

/-!
One push.

Two spaces that overlap are pushed apart along the axis on which they overlap less, by opposite
amounts. On the other axis, and in their sizes, nothing changes.

Main definitions: `Axis`, `PushedAlong`. Main statements: `pushedAlong_of_pushPair`,
`PushedAlong.balanced`.
-/

namespace Flowchart.Overlap

/-- The two axes of the page. -/
inductive Axis where
  | x
  | y

section Axes

variable {K : Type} [Scalar K]

namespace Axis

/-- The other axis. -/
def other : Axis → Axis
  | x => y
  | y => x

/-- Two numbers, one for each axis. -/
def ofParts (partX partY : K) : Axis → K
  | x => partX
  | y => partY

/-- Where a space starts along an axis. -/
def start : Axis → Tile K → K
  | x, tile => tile.corner.x
  | y, tile => tile.corner.y

/-- How long a space is along an axis. -/
def length : Axis → Tile K → K
  | x, tile => tile.size.width
  | y, tile => tile.size.height

/-- How far two spaces overlap along an axis. -/
def overlap (axis : Axis) (padding : K) (a b : Tile K) : K :=
  extent padding (axis.start a) (axis.length a) (axis.start b) (axis.length b)

/-- The axis along which two spaces are pushed: the one on which they overlap less, the y axis if
they overlap as far on both. -/
def cheaper (padding : K) (a b : Tile K) : Axis :=
  if x.overlap padding a b < y.overlap padding a b then x else y

theorem eq_or_eq_other (axis any : Axis) : any = axis ∨ any = axis.other := by
  cases axis <;> cases any <;> simp [other]

omit [Scalar K] in
theorem length_congr {a b : Tile K} (same : a.size = b.size) (axis : Axis) :
    axis.length a = axis.length b := by
  cases axis with
  | x => exact congrArg Size.width same
  | y => exact congrArg Size.height same

end Axis

/-- Two spaces that overlap on both axes, and what they become when they are pushed apart along one
of them. -/
structure PushedAlong (settings : Settings K) (axis : Axis) (a b a' b' : Tile K) : Prop where
  close : ∀ any : Axis, ¬ any.overlap settings.padding a b ≤ Scalar.zero
  starts : (axis.start a', axis.start b') =
    spread (Scalar.half (axis.overlap settings.padding a b) + settings.pushMargin) (axis.start a)
      (axis.start b)
  others : axis.other.start a' = axis.other.start a ∧ axis.other.start b' = axis.other.start b
  sizes : a'.size = a.size ∧ b'.size = b.size

variable {settings : Settings K} {axis : Axis} {a b a' b' : Tile K}

/-- All that a push does. -/
theorem pushedAlong_of_pushPair (pushed : pushPair settings a b = some (a', b')) :
    PushedAlong settings (Axis.cheaper settings.padding a b) a b a' b' := by
  have sizes := size_of_pushPair pushed
  unfold pushPair at pushed
  dsimp only at pushed
  split at pushed
  case isTrue => cases pushed
  case isFalse close =>
    obtain ⟨closeX, closeY⟩ := not_or.mp close
    have closeAny : ∀ any : Axis, ¬ any.overlap settings.padding a b ≤ Scalar.zero := by
      intro any
      cases any with
      | x => exact closeX
      | y => exact closeY
    split at pushed
    case isTrue less =>
      have along : Axis.cheaper settings.padding a b = .x := if_pos less
      rw [along]
      cases pushed
      exact ⟨closeAny, rfl, ⟨rfl, rfl⟩, sizes⟩
    case isFalse notLess =>
      have along : Axis.cheaper settings.padding a b = .y := if_neg notLess
      rw [along]
      cases pushed
      exact ⟨closeAny, rfl, ⟨rfl, rfl⟩, sizes⟩

/-- Along the axis of the push both tiles go half of the overlap and the margin apart. -/
theorem PushedAlong.start_eq (pushed : PushedAlong settings axis a b a' b') :
    axis.start a' =
        (spread (Scalar.half (axis.overlap settings.padding a b) + settings.pushMargin)
          (axis.start a) (axis.start b)).1 ∧
      axis.start b' =
        (spread (Scalar.half (axis.overlap settings.padding a b) + settings.pushMargin)
          (axis.start a) (axis.start b)).2 :=
  Prod.mk.inj pushed.starts

/-- On the axis along which nothing is pushed, spaces overlap as far as before. -/
theorem PushedAlong.overlap_other (pushed : PushedAlong settings axis a b a' b') (padding : K) :
    axis.other.overlap padding a' b' = axis.other.overlap padding a b := by
  obtain ⟨startA, startB⟩ := pushed.others
  obtain ⟨sizeA, sizeB⟩ := pushed.sizes
  rw [Axis.overlap, startA, startB, Axis.length_congr sizeA, Axis.length_congr sizeB]
  rfl

end Axes

/-! ### Exact pushes -/

/-- A push moves both by the same amount, so their sum stays. -/
theorem spread_add (push x y : Rat) : (spread push x y).1 + (spread push x y).2 = x + y := by
  unfold spread
  split
  case isTrue => ring
  case isFalse => ring

/-- A push moves two spaces by opposite amounts. -/
theorem PushedAlong.balanced {settings : Settings Rat} {axis : Axis} {a b a' b' : Tile Rat}
    (pushed : PushedAlong settings axis a b a' b') (any : Axis) :
    any.start a' + any.start b' = any.start a + any.start b := by
  rcases axis.eq_or_eq_other any with rfl | rfl
  · obtain ⟨startA, startB⟩ := pushed.start_eq
    rw [startA, startB]
    apply spread_add
  · obtain ⟨startA, startB⟩ := pushed.others
    rw [startA, startB]

end Flowchart.Overlap
