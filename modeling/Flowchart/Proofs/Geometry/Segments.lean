import Mathlib.Algebra.Order.Field.Rat
import Mathlib.Tactic.FieldSimp
import Mathlib.Tactic.Linarith
import Mathlib.Tactic.Positivity
import Mathlib.Tactic.Ring
import Flowchart.Layout.Metrics

/-!
Segments that cross.

Two segments cross properly if they have exactly one point in common and this point lies between
the ends of both. The test for crossings looks at sides: on which side of a segment the ends of the
other one lie. An end on the line of the segment counts as one on the negative side, so the test
also holds when a segment ends inside the other one and comes from its positive side.

Main definitions: `Segment.Crosses`, `Segment.Abuts`. Main statements: `cross_iff`,
`cross_iff_crosses`.
-/

namespace Flowchart.Metrics

namespace Segment

/-- The point that lies some part of the way from the start to the stop. -/
def pointAt (segment : Segment Rat) (part : Rat) : Point Rat :=
  ⟨segment.start.x + part * (segment.stop.x - segment.start.x),
    segment.start.y + part * (segment.stop.y - segment.start.y)⟩

/-- A point lies on a segment, its ends included. -/
def Contains (segment : Segment Rat) (point : Point Rat) : Prop :=
  ∃ part, 0 ≤ part ∧ part ≤ 1 ∧ segment.pointAt part = point

/-- A point lies between the ends of a segment. -/
def Inside (segment : Segment Rat) (point : Point Rat) : Prop :=
  ∃ part, 0 < part ∧ part < 1 ∧ segment.pointAt part = point

/-- A point is the only one that two segments have in common. -/
def MeetAt (a b : Segment Rat) (point : Point Rat) : Prop :=
  ∀ other, a.Contains other ∧ b.Contains other ↔ other = point

/-- Two segments meet in exactly one point, and this point lies between the ends of both. -/
def Crosses (a b : Segment Rat) : Prop :=
  ∃ point, a.MeetAt b point ∧ a.Inside point ∧ b.Inside point

/-- How far a point stands off the line of a segment: positive on one side, negative on the
other. -/
def side (segment : Segment Rat) (point : Point Rat) : Rat :=
  (segment.stop.x - segment.start.x) * (point.y - segment.start.y) -
    (segment.stop.y - segment.start.y) * (point.x - segment.start.x)

/-- One end of a segment lies between the ends of another one, and the rest of it on the positive
side. -/
def Abuts (a b : Segment Rat) : Prop :=
  (b.Inside a.start ∧ 0 < b.side a.stop) ∨ (b.Inside a.stop ∧ 0 < b.side a.start)

/-- No end of a segment lies between the ends of the other one. -/
def Clear (a b : Segment Rat) : Prop :=
  ¬ b.Inside a.start ∧ ¬ b.Inside a.stop ∧ ¬ a.Inside b.start ∧ ¬ a.Inside b.stop

variable {a b segment : Segment Rat} {point : Point Rat}

theorem pointAt_zero (segment : Segment Rat) : segment.pointAt 0 = segment.start := by
  simp [pointAt]

theorem pointAt_one (segment : Segment Rat) : segment.pointAt 1 = segment.stop := by
  simp [pointAt]

/-- A segment with different ends leads somewhere. -/
theorem way_ne_zero (distinct : segment.start ≠ segment.stop) :
    segment.stop.x - segment.start.x ≠ 0 ∨ segment.stop.y - segment.start.y ≠ 0 := by
  by_contra nowhere
  obtain ⟨sameX, sameY⟩ := not_or.mp nowhere
  have same : (⟨segment.start.x, segment.start.y⟩ : Point Rat) =
      ⟨segment.stop.x, segment.stop.y⟩ := by
    rw [(sub_eq_zero.mp (not_not.mp sameX)), (sub_eq_zero.mp (not_not.mp sameY))]
  exact distinct same

/-- On a segment between different points, different parts of the way end at different points. -/
theorem pointAt_injective (distinct : segment.start ≠ segment.stop) {part part' : Rat}
    (same : segment.pointAt part = segment.pointAt part') : part = part' := by
  rw [pointAt, pointAt, Point.mk.injEq] at same
  rcases way_ne_zero distinct with wide | high
  · exact mul_right_cancel₀ wide (add_left_cancel same.1)
  · exact mul_right_cancel₀ high (add_left_cancel same.2)

theorem Inside.contains (inside : segment.Inside point) : segment.Contains point := by
  obtain ⟨part, beyond, before, here⟩ := inside
  exact ⟨part, beyond.le, before.le, here⟩

/-- A segment consists of its ends and what lies between them. -/
theorem contains_iff : segment.Contains point ↔
    point = segment.start ∨ point = segment.stop ∨ segment.Inside point := by
  constructor
  · rintro ⟨part, beyond, before, rfl⟩
    rcases beyond.eq_or_lt with rfl | beyond
    · exact Or.inl segment.pointAt_zero
    · rcases before.eq_or_lt with rfl | before
      · exact Or.inr (Or.inl segment.pointAt_one)
      · exact Or.inr (Or.inr ⟨part, beyond, before, rfl⟩)
  · rintro (rfl | rfl | inside)
    · exact ⟨0, le_rfl, zero_le_one, segment.pointAt_zero⟩
    · exact ⟨1, zero_le_one, le_rfl, segment.pointAt_one⟩
    · exact inside.contains

/-- Neither end of a segment lies between its ends. -/
theorem ends_of_inside (distinct : segment.start ≠ segment.stop) (inside : segment.Inside point) :
    point ≠ segment.start ∧ point ≠ segment.stop := by
  obtain ⟨part, beyond, before, rfl⟩ := inside
  constructor
  · rw [← pointAt_zero]
    exact fun same => beyond.ne' (pointAt_injective distinct same)
  · rw [← pointAt_one]
    exact fun same => before.ne (pointAt_injective distinct same)

/-! ### Sides -/

theorem side_start (segment : Segment Rat) : segment.side segment.start = 0 := by
  simp [side]

theorem side_stop (segment : Segment Rat) : segment.side segment.stop = 0 := by
  rw [side]
  ring

/-- On the way along a segment, the side of another one changes evenly. -/
theorem side_pointAt (a b : Segment Rat) (part : Rat) :
    b.side (a.pointAt part) = b.side a.start + part * (b.side a.stop - b.side a.start) := by
  simp only [side, pointAt]
  ring

/-- A point of the segment is on neither side of it. -/
theorem Contains.side_eq_zero (contains : segment.Contains point) : segment.side point = 0 := by
  obtain ⟨part, -, -, rfl⟩ := contains
  rw [side_pointAt, side_start, side_stop]
  ring

/-- Segments are clear of each other if no end of one lies on the line of the other. -/
theorem clear_of_sides (off : b.side a.start ≠ 0 ∧ b.side a.stop ≠ 0 ∧ a.side b.start ≠ 0 ∧
    a.side b.stop ≠ 0) : a.Clear b := by
  obtain ⟨startA, stopA, startB, stopB⟩ := off
  exact ⟨fun inside => startA inside.contains.side_eq_zero,
    fun inside => stopA inside.contains.side_eq_zero,
    fun inside => startB inside.contains.side_eq_zero,
    fun inside => stopB inside.contains.side_eq_zero⟩

/-- Each segment rises off the line of the other one as that one falls off its line. -/
theorem side_sub_side (a b : Segment Rat) :
    b.side a.start - b.side a.stop = -(a.side b.start - a.side b.stop) := by
  simp only [side]
  ring

/-- A segment keeps its distance from the line of another one exactly if the other one does from its
own. -/
theorem side_eq_side_iff : b.side a.start = b.side a.stop ↔ a.side b.start = a.side b.stop := by
  rw [← sub_eq_zero, side_sub_side, neg_eq_zero, sub_eq_zero]

/-- The part of the way along a segment after which it reaches the line of another one. -/
def reach (a b : Segment Rat) : Rat :=
  b.side a.start / (b.side a.start - b.side a.stop)

/-- Lines that are not parallel meet. -/
theorem pointAt_reach (slanted : b.side a.start ≠ b.side a.stop) :
    a.pointAt (a.reach b) = b.pointAt (b.reach a) := by
  have off : b.side a.start - b.side a.stop ≠ 0 := sub_ne_zero.mpr slanted
  have turned : a.side b.start - a.side b.stop = -(b.side a.start - b.side a.stop) :=
    side_sub_side b a
  rw [pointAt, pointAt, reach, reach, turned, Point.mk.injEq]
  generalize gap : b.side a.start - b.side a.stop = d at off
  simp only [side] at gap ⊢
  constructor
  · field_simp
    rw [← gap]
    ring
  · field_simp
    rw [← gap]
    ring

/-- On lines that are not parallel, segments have one point in common at most. -/
theorem meetAt_of_contains (slanted : b.side a.start ≠ b.side a.stop) (inA : a.Contains point)
    (inB : b.Contains point) : a.MeetAt b point := by
  have onlyPart : ∀ part, b.Contains (a.pointAt part) → part = a.reach b := by
    intro part common
    have onLine := common.side_eq_zero
    rw [side_pointAt] at onLine
    rw [reach, eq_div_iff (sub_ne_zero.mpr slanted)]
    linarith
  intro other
  constructor
  · rintro ⟨⟨part, -, -, rfl⟩, common⟩
    obtain ⟨part', -, -, rfl⟩ := inA
    rw [onlyPart part common, onlyPart part' inB]
  · rintro rfl
    exact ⟨inA, inB⟩

/-- If a segment has a point of a line between its ends and is not parallel to it, then its ends lie
on different sides of the line. -/
theorem sides_of_inside (slanted : b.side a.start ≠ b.side a.stop) (inside : a.Inside point)
    (onLine : b.side point = 0) :
    b.side a.start ≠ 0 ∧ b.side a.stop ≠ 0 ∧ (0 < b.side a.start ↔ ¬ 0 < b.side a.stop) := by
  obtain ⟨part, beyond, before, rfl⟩ := inside
  rw [side_pointAt] at onLine
  have ahead : 0 < 1 - part := by linarith
  have atStart : b.side a.start = part * (b.side a.start - b.side a.stop) := by linarith
  have atStop : b.side a.stop = -((1 - part) * (b.side a.start - b.side a.stop)) := by linarith
  rcases lt_or_gt_of_ne (sub_ne_zero.mpr slanted) with rising | falling
  · have start : b.side a.start < 0 := atStart ▸ mul_neg_of_pos_of_neg beyond rising
    have stop : 0 < b.side a.stop := atStop ▸ neg_pos.mpr (mul_neg_of_pos_of_neg ahead rising)
    exact ⟨start.ne, stop.ne', iff_of_false start.not_gt (not_not.mpr stop)⟩
  · have start : 0 < b.side a.start := atStart ▸ mul_pos beyond falling
    have stop : b.side a.stop < 0 := atStop ▸ neg_neg_of_pos (mul_pos ahead falling)
    exact ⟨start.ne', stop.ne, iff_of_true start stop.not_gt⟩

/-! ### Parallel segments -/

/-- There is a step so small that neither it nor a multiple of it leaves some room. -/
theorem exists_small_step {room : Rat} (some : 0 < room) (factor : Rat) :
    ∃ step, 0 < step ∧ step ≤ room ∧ |step * factor| ≤ room := by
  have bound : 0 < |factor| + 1 := by positivity
  refine ⟨room / (|factor| + 1), by positivity, ?_, ?_⟩
  · rw [div_le_iff₀ bound]
    nlinarith [abs_nonneg factor]
  · rw [abs_mul, abs_of_pos (by positivity), div_mul_eq_mul_div, div_le_iff₀ bound]
    nlinarith [abs_nonneg factor]

/-- The way along a segment is a multiple of the way along a parallel one. -/
theorem exists_factor (distinct : a.start ≠ a.stop) (parallel : b.side a.start = b.side a.stop) :
    ∃ factor, b.stop.x - b.start.x = factor * (a.stop.x - a.start.x) ∧
      b.stop.y - b.start.y = factor * (a.stop.y - a.start.y) := by
  have turn : (b.stop.x - b.start.x) * (a.stop.y - a.start.y) =
      (b.stop.y - b.start.y) * (a.stop.x - a.start.x) := by
    simp only [side] at parallel
    linarith
  rcases way_ne_zero distinct with wide | high
  · refine ⟨(b.stop.x - b.start.x) / (a.stop.x - a.start.x), (div_mul_cancel₀ _ wide).symm, ?_⟩
    rw [div_mul_eq_mul_div, turn, mul_div_cancel_right₀ _ wide]
  · refine ⟨(b.stop.y - b.start.y) / (a.stop.y - a.start.y), ?_, (div_mul_cancel₀ _ high).symm⟩
    rw [div_mul_eq_mul_div, ← turn, mul_div_cancel_right₀ _ high]

/-- Parallel segments with a common point between the ends of both have further points in
common. -/
theorem side_ne_side_of_meetAt (distinctA : a.start ≠ a.stop) (distinctB : b.start ≠ b.stop)
    (meet : a.MeetAt b point) (inA : a.Inside point) (inB : b.Inside point) :
    b.side a.start ≠ b.side a.stop := by
  intro parallel
  obtain ⟨factor, alongX, alongY⟩ := exists_factor distinctA parallel
  obtain ⟨part, beyond, before, here⟩ := inA
  obtain ⟨part', beyond', before', rfl⟩ := inB
  -- from the common point there is some room in both directions on both segments
  have room : 0 < min (1 - part') (min part (1 - part)) :=
    lt_min (by linarith) (lt_min beyond (by linarith))
  obtain ⟨step, forward, short, shortA⟩ := exists_small_step room factor
  obtain ⟨before'', room⟩ := le_min_iff.mp short
  obtain ⟨shortFront, shortBack⟩ := le_min_iff.mp (shortA.trans (min_le_right _ _))
  obtain ⟨front, -⟩ := abs_le.mp shortFront
  obtain ⟨-, back⟩ := abs_le.mp shortBack
  have same : a.pointAt (part + step * factor) = b.pointAt (part' + step) := by
    rw [pointAt, pointAt, Point.mk.injEq] at here ⊢
    rw [alongX, alongY] at here ⊢
    constructor <;> linarith
  have common : b.pointAt (part' + step) = b.pointAt part' :=
    (meet _).mp ⟨⟨part + step * factor, by linarith, by linarith, same⟩,
      ⟨part' + step, by linarith, by linarith, rfl⟩⟩
  have still := pointAt_injective distinctB common
  linarith

/-! ### Ends on different sides -/

/-- Exactly one end of a segment lies on the positive side of another one. -/
def Straddles (a b : Segment Rat) : Prop :=
  0 < b.side a.start ↔ ¬ 0 < b.side a.stop

/-- A segment with ends on different sides of a line reaches it between its ends, or it ends there
and comes from the positive side. -/
theorem Straddles.reach (straddles : a.Straddles b) :
    a.Inside (a.pointAt (a.reach b)) ∨
      (a.pointAt (a.reach b) = a.start ∧ 0 < b.side a.stop) ∨
      (a.pointAt (a.reach b) = a.stop ∧ 0 < b.side a.start) := by
  by_cases start : 0 < b.side a.start
  · have stop := not_lt.mp (straddles.mp start)
    rcases stop.lt_or_eq with below | onLine
    · refine Or.inl ⟨_, div_pos start (by linarith), ?_, rfl⟩
      rw [div_lt_one (by linarith)]
      linarith
    · refine Or.inr (Or.inr ⟨?_, start⟩)
      rw [Segment.reach, onLine, sub_zero, div_self start.ne', pointAt_one]
  · have stop := not_not.mp (mt straddles.mpr start)
    rcases (not_lt.mp start).lt_or_eq with below | onLine
    · refine Or.inl ⟨_, div_pos_of_neg_of_neg below (by linarith), ?_, rfl⟩
      rw [div_lt_one_of_neg (by linarith)]
      linarith
    · refine Or.inr (Or.inl ⟨?_, stop⟩)
      rw [Segment.reach, onLine, zero_div, pointAt_zero]

/-- A segment that straddles another one is not parallel to it. -/
theorem Straddles.slanted (straddles : a.Straddles b) : b.side a.start ≠ b.side a.stop := by
  intro parallel
  rw [Straddles, parallel] at straddles
  exact iff_not_self straddles

/-- Segments that cross straddle each other, and the second one does not end on the line of the
first. -/
theorem Crosses.sides (crosses : a.Crosses b) (distinctA : a.start ≠ a.stop)
    (distinctB : b.start ≠ b.stop) :
    a.Straddles b ∧ b.Straddles a ∧ a.side b.start ≠ 0 ∧ a.side b.stop ≠ 0 := by
  obtain ⟨point, meet, inA, inB⟩ := crosses
  have slanted := side_ne_side_of_meetAt distinctA distinctB meet inA inB
  obtain ⟨-, -, straddles⟩ := sides_of_inside slanted inA inB.contains.side_eq_zero
  obtain ⟨start, stop, straddles'⟩ :=
    sides_of_inside (mt side_eq_side_iff.mpr slanted) inB inA.contains.side_eq_zero
  exact ⟨straddles, straddles', start, stop⟩

/-- A segment that ends inside another one and comes from the positive side straddles it, and is
straddled by it. -/
theorem Abuts.sides (abuts : a.Abuts b) :
    a.Straddles b ∧ b.Straddles a ∧ a.side b.start ≠ 0 ∧ a.side b.stop ≠ 0 := by
  have ofSlanted : ∀ {point}, b.Inside point → a.side point = 0 → a.Straddles b →
      a.Straddles b ∧ b.Straddles a ∧ a.side b.start ≠ 0 ∧ a.side b.stop ≠ 0 := by
    intro point inside onLine straddles
    obtain ⟨start, stop, straddles'⟩ :=
      sides_of_inside (mt side_eq_side_iff.mpr straddles.slanted) inside onLine
    exact ⟨straddles, straddles', start, stop⟩
  rcases abuts with ⟨inside, positive⟩ | ⟨inside, positive⟩
  · have onLine := inside.contains.side_eq_zero
    exact ofSlanted inside a.side_start (by simp [Straddles, onLine, positive])
  · have onLine := inside.contains.side_eq_zero
    exact ofSlanted inside a.side_stop (by simp [Straddles, onLine, positive])

/-- A segment does not cross another one properly if it ends there. -/
theorem Abuts.not_crosses (abuts : a.Abuts b) (distinct : a.start ≠ a.stop) : ¬ a.Crosses b := by
  rintro ⟨point, meet, inA, -⟩
  obtain ⟨notStart, notStop⟩ := ends_of_inside distinct inA
  rcases abuts with ⟨inside, -⟩ | ⟨inside, -⟩
  · exact notStart.symm ((meet _).mp ⟨contains_iff.mpr (Or.inl rfl), inside.contains⟩)
  · exact notStop.symm ((meet _).mp ⟨contains_iff.mpr (Or.inr (Or.inl rfl)), inside.contains⟩)

/-- Segments share no end if those of one lie off the line of the other. -/
theorem ends_ne (start : a.side b.start ≠ 0) (stop : a.side b.stop ≠ 0) :
    a.start ≠ b.start ∧ a.start ≠ b.stop ∧ a.stop ≠ b.start ∧ a.stop ≠ b.stop := by
  refine ⟨?_, ?_, ?_, ?_⟩
  · exact fun same => start (same ▸ a.side_start)
  · exact fun same => stop (same ▸ a.side_start)
  · exact fun same => start (same ▸ a.side_stop)
  · exact fun same => stop (same ▸ a.side_stop)

end Segment

/-! ### The test for crossings -/

open Segment

variable {a b : Segment Rat}

theorem coincide_iff {p q : Point Rat} : coincide p q = true ↔ p = q := by
  obtain ⟨x, y⟩ := p
  obtain ⟨x', y'⟩ := q
  rw [coincide, Bool.and_eq_true, Point.mk.injEq]
  exact and_congr beq_iff_eq beq_iff_eq

/-- A turn is counted if the third point is on the positive side. -/
theorem turns_iff {p : Point Rat} {segment : Segment Rat} :
    turns segment.start segment.stop p = true ↔ 0 < segment.side p := by
  rw [turns, decide_eq_true_eq, side, sub_pos, mul_comm (p.y - segment.start.y)]

theorem turns_start_iff {p : Point Rat} {segment : Segment Rat} :
    turns p segment.start segment.stop = true ↔ 0 < segment.side p := by
  have rotated : side ⟨p, segment.start⟩ segment.stop = segment.side p := by
    simp only [side]
    ring
  rw [← rotated, ← turns_iff]

/-- Segments are counted as crossing if they share no ends and straddle each other. -/
theorem cross_eq_true_iff : cross a b = true ↔
    (a.start ≠ b.start ∧ a.start ≠ b.stop ∧ a.stop ≠ b.start ∧ a.stop ≠ b.stop) ∧
      a.Straddles b ∧ b.Straddles a := by
  have differ : ∀ {x y : Bool} {p q : Prop}, (x = true ↔ p) → (y = true ↔ q) →
      ((x != y) = true ↔ (p ↔ ¬ q)) := by
    intro x y p q isP isQ
    rw [← isP, ← isQ]
    cases x <;> cases y <;> decide
  rw [cross, Bool.and_eq_true, Bool.and_eq_true, differ turns_start_iff turns_start_iff,
    differ turns_iff turns_iff, and_assoc]
  refine and_congr ?_ Iff.rfl
  simp only [Bool.not_eq_true', ← Bool.not_eq_true, Bool.or_eq_true, coincide_iff, not_or,
    and_assoc, ne_eq]

/-- Counting does not depend on the order of the two segments. -/
theorem cross_comm (a b : Segment Rat) : cross a b = cross b a := by
  have oneWay : ∀ {a b : Segment Rat}, cross a b = true → cross b a = true := by
    intro a b crossing
    obtain ⟨⟨starts, across, across', stops⟩, straddles, straddles'⟩ :=
      cross_eq_true_iff.mp crossing
    exact cross_eq_true_iff.mpr
      ⟨⟨starts.symm, across'.symm, across.symm, stops.symm⟩, straddles', straddles⟩
  exact Bool.eq_iff_iff.mpr ⟨oneWay, oneWay⟩

/-- Segments are taken to cross if they cross properly, or if one of them ends inside the other one
and comes from its positive side. -/
theorem cross_iff (distinctA : a.start ≠ a.stop) (distinctB : b.start ≠ b.stop) :
    cross a b = true ↔ a.Crosses b ∨ a.Abuts b ∨ b.Abuts a := by
  constructor
  · intro crossing
    obtain ⟨⟨_, _, _, _⟩, straddles, straddles'⟩ := cross_eq_true_iff.mp crossing
    have here := pointAt_reach straddles.slanted
    have reached := straddles'.reach
    rw [← here] at reached
    rcases straddles.reach with insideA | ⟨atEnd, positive⟩ | ⟨atEnd, positive⟩
    · rcases reached with insideB | ⟨atEnd', positive'⟩ | ⟨atEnd', positive'⟩
      · exact Or.inl ⟨_, meetAt_of_contains straddles.slanted insideA.contains insideB.contains,
          insideA, insideB⟩
      · exact Or.inr (Or.inr (Or.inl ⟨atEnd' ▸ insideA, positive'⟩))
      · exact Or.inr (Or.inr (Or.inr ⟨atEnd' ▸ insideA, positive'⟩))
    · rw [atEnd] at reached
      rcases reached with insideB | ⟨shared, -⟩ | ⟨shared, -⟩
      · exact Or.inr (Or.inl (Or.inl ⟨insideB, positive⟩))
      · contradiction
      · contradiction
    · rw [atEnd] at reached
      rcases reached with insideB | ⟨shared, -⟩ | ⟨shared, -⟩
      · exact Or.inr (Or.inl (Or.inr ⟨insideB, positive⟩))
      · contradiction
      · contradiction
  · have ofSides : ∀ {a b : Segment Rat}, a.Straddles b ∧ b.Straddles a ∧ a.side b.start ≠ 0 ∧
        a.side b.stop ≠ 0 → cross a b = true := by
      rintro a b ⟨straddles, straddles', start, stop⟩
      exact cross_eq_true_iff.mpr ⟨ends_ne start stop, straddles, straddles'⟩
    rintro (crosses | abuts | abuts)
    · exact ofSides (crosses.sides distinctA distinctB)
    · exact ofSides abuts.sides
    · rw [cross_comm]
      exact ofSides abuts.sides

/-- If no segment ends inside the other one, the test finds proper crossings. -/
theorem cross_iff_crosses (distinctA : a.start ≠ a.stop) (distinctB : b.start ≠ b.stop)
    (clear : a.Clear b) : cross a b = true ↔ a.Crosses b := by
  obtain ⟨startA, stopA, startB, stopB⟩ := clear
  have noneA : ¬ a.Abuts b := by
    rintro (⟨inside, -⟩ | ⟨inside, -⟩)
    · exact startA inside
    · exact stopA inside
  have noneB : ¬ b.Abuts a := by
    rintro (⟨inside, -⟩ | ⟨inside, -⟩)
    · exact startB inside
    · exact stopB inside
  rw [cross_iff distinctA distinctB, or_iff_left (not_or.mpr ⟨noneA, noneB⟩)]

end Flowchart.Metrics
