import Flowchart.Proofs.Geometry.Segments

/-!
Segments turned around and seen in a mirror.

Whether two segments cross properly does not depend on which of their ends comes first, nor on which
of a drawing and its mirror image one looks at. The same holds of whether they are clear of each
other's ends.

Main definitions: `Segment.reversed`, `Mirror`. Main statements: `Segment.crosses_of_turned`,
`Segment.crosses_mapped`.
-/

namespace Flowchart.Metrics

namespace Segment

variable {a b segment : Segment Rat} {point : Point Rat}

/-- Crossing does not depend on which of the segments is named first. -/
theorem crosses_comm : a.Crosses b ↔ b.Crosses a := by
  have oneWay : ∀ {a b : Segment Rat}, a.Crosses b → b.Crosses a := by
    rintro a b ⟨point, meet, inA, inB⟩
    exact ⟨point, fun other => and_comm.trans (meet other), inB, inA⟩
  exact ⟨oneWay, oneWay⟩

theorem clear_comm : a.Clear b ↔ b.Clear a := by
  have oneWay : ∀ {a b : Segment Rat}, a.Clear b → b.Clear a :=
    fun ⟨startA, stopA, startB, stopB⟩ => ⟨startB, stopB, startA, stopA⟩
  exact ⟨oneWay, oneWay⟩

/-! ### Reversal -/

/-- The segment from the stop to the start. -/
def reversed {K : Type} (segment : Segment K) : Segment K :=
  ⟨segment.stop, segment.start⟩

/-- A part of the way from the end is the rest of the way from the start. -/
theorem pointAt_reversed (segment : Segment Rat) (part : Rat) :
    segment.reversed.pointAt part = segment.pointAt (1 - part) := by
  rw [pointAt, pointAt, Point.mk.injEq]
  constructor <;> (simp only [reversed]; ring)

/-- A segment has the same inner points in both directions. -/
theorem inside_reversed : segment.reversed.Inside point ↔ segment.Inside point := by
  have oneWay : ∀ {segment : Segment Rat}, segment.Inside point →
      segment.reversed.Inside point := by
    rintro segment ⟨part, beyond, before, rfl⟩
    refine ⟨1 - part, by linarith, by linarith, ?_⟩
    rw [pointAt_reversed, sub_sub_cancel]
  exact ⟨oneWay, oneWay⟩

/-- A segment has the same points in both directions. -/
theorem contains_reversed : segment.reversed.Contains point ↔ segment.Contains point := by
  rw [contains_iff, contains_iff, inside_reversed]
  exact or_left_comm

/-- A segment that is turned round crosses the same segments. -/
theorem crosses_reversed : a.reversed.Crosses b ↔ a.Crosses b := by
  simp only [Crosses, MeetAt, contains_reversed, inside_reversed]

theorem clear_reversed : a.reversed.Clear b ↔ a.Clear b := by
  simp only [Clear, inside_reversed]
  exact and_left_comm

/-- A segment is another one, or that one reversed. -/
def Turned (segment other : Segment Rat) : Prop :=
  other = segment ∨ other = segment.reversed

/-- A symmetric relation that does not see a reversal does not see turned segments. -/
theorem related_of_turned (related : Segment Rat → Segment Rat → Prop)
    (comm : ∀ {a b}, related a b ↔ related b a)
    (reversed : ∀ {a b}, related a.reversed b ↔ related a b) {a a' b b' : Segment Rat}
    (turnedA : a.Turned a') (turnedB : b.Turned b') : related a' b' ↔ related a b := by
  have second : related a b' ↔ related a b := by
    rcases turnedB with rfl | rfl
    · exact Iff.rfl
    · rw [comm, reversed, comm]
  rcases turnedA with rfl | rfl
  · exact second
  · rw [reversed, second]

/-- Whether two segments cross does not change if some of them are turned round. -/
theorem crosses_of_turned {a' b' : Segment Rat} (turnedA : a.Turned a') (turnedB : b.Turned b') :
    a'.Crosses b' ↔ a.Crosses b :=
  related_of_turned Crosses crosses_comm crosses_reversed turnedA turnedB

/-- Whether two segments keep clear of each other's ends does not change if some of them are turned
round. -/
theorem clear_of_turned {a' b' : Segment Rat} (turnedA : a.Turned a') (turnedB : b.Turned b') :
    a'.Clear b' ↔ a.Clear b :=
  related_of_turned Clear clear_comm clear_reversed turnedA turnedB

/-! ### Images -/

/-- The segment between the images of the ends. -/
def mapped {K : Type} (image : Point K → Point K) (segment : Segment K) : Segment K :=
  ⟨image segment.start, image segment.stop⟩

/-- Different points have different images, and those on the way between two points have theirs as
far on the way between the images. -/
structure Straight (image : Point Rat → Point Rat) : Prop where
  injective : Function.Injective image
  pointAt : ∀ (segment : Segment Rat) (part : Rat),
    image (segment.pointAt part) = (segment.mapped image).pointAt part

variable {image : Point Rat → Point Rat}

/-- The inner points of the image of a segment are the images of its inner points. -/
theorem inside_mapped (straight : Straight image) :
    (segment.mapped image).Inside point ↔
      ∃ source, segment.Inside source ∧ image source = point := by
  constructor
  · rintro ⟨part, beyond, before, rfl⟩
    exact ⟨_, ⟨part, beyond, before, rfl⟩, straight.pointAt segment part⟩
  · rintro ⟨_, ⟨part, beyond, before, rfl⟩, rfl⟩
    exact ⟨part, beyond, before, (straight.pointAt segment part).symm⟩

/-- The points of the image of a segment are the images of its points. -/
theorem contains_mapped (straight : Straight image) :
    (segment.mapped image).Contains point ↔
      ∃ source, segment.Contains source ∧ image source = point := by
  simp only [contains_iff, inside_mapped straight, or_and_right, exists_or, exists_eq_left]
  exact or_congr eq_comm (or_congr eq_comm Iff.rfl)

/-- An image lies on the image of a segment only if the point itself lies on the segment. -/
theorem contains_mapped_image (straight : Straight image) :
    (segment.mapped image).Contains (image point) ↔ segment.Contains point := by
  simp only [contains_mapped straight, straight.injective.eq_iff, exists_eq_right]

theorem inside_mapped_image (straight : Straight image) :
    (segment.mapped image).Inside (image point) ↔ segment.Inside point := by
  simp only [inside_mapped straight, straight.injective.eq_iff, exists_eq_right]

/-- The images of segments meet where the image of their common point is. -/
theorem meetAt_mapped (straight : Straight image) :
    (a.mapped image).MeetAt (b.mapped image) (image point) ↔ a.MeetAt b point := by
  constructor
  · intro meet other
    rw [← straight.injective.eq_iff, ← meet, contains_mapped_image straight,
      contains_mapped_image straight]
  · intro meet other
    constructor
    · rintro ⟨inA, inB⟩
      obtain ⟨source, inA', rfl⟩ := (contains_mapped straight).mp inA
      exact congrArg image ((meet source).mp ⟨inA', (contains_mapped_image straight).mp inB⟩)
    · rintro rfl
      rw [contains_mapped_image straight, contains_mapped_image straight]
      exact (meet point).mpr rfl

/-- A straight map that keeps points apart keeps crossings. -/
theorem crosses_mapped (straight : Straight image) :
    (a.mapped image).Crosses (b.mapped image) ↔ a.Crosses b := by
  constructor
  · rintro ⟨_, meet, inA, inB⟩
    obtain ⟨point, inA', rfl⟩ := (inside_mapped straight).mp inA
    exact ⟨point, (meetAt_mapped straight).mp meet, inA', (inside_mapped_image straight).mp inB⟩
  · rintro ⟨point, meet, inA, inB⟩
    exact ⟨image point, (meetAt_mapped straight).mpr meet, (inside_mapped_image straight).mpr inA,
      (inside_mapped_image straight).mpr inB⟩

/-- A straight map that keeps points apart keeps segments clear of each other's ends. -/
theorem clear_mapped (straight : Straight image) :
    (a.mapped image).Clear (b.mapped image) ↔ a.Clear b := by
  simp only [Clear, mapped]
  exact and_congr (not_congr (inside_mapped_image straight)) (and_congr
    (not_congr (inside_mapped_image straight)) (and_congr
      (not_congr (inside_mapped_image straight)) (not_congr (inside_mapped_image straight))))

end Segment

/-! ### Mirrors -/

/-- A line to mirror a drawing in: the points with `across.x * x + across.y * y = offset`. -/
structure Mirror where
  across : Point Rat
  offset : Rat
  directed : across ≠ ⟨0, 0⟩

namespace Mirror

/-- The square of the length of the direction across the line. -/
def square (mirror : Mirror) : Rat :=
  mirror.across.x ^ 2 + mirror.across.y ^ 2

/-- How far a point stands off the line. -/
def off (mirror : Mirror) (point : Point Rat) : Rat :=
  (mirror.across.x * point.x + mirror.across.y * point.y - mirror.offset) / mirror.square

/-- The point as far off the line on the other side. -/
def image (mirror : Mirror) (point : Point Rat) : Point Rat :=
  ⟨point.x - 2 * mirror.off point * mirror.across.x,
    point.y - 2 * mirror.off point * mirror.across.y⟩

/-- The direction across the line of a mirror is one, so its length is not zero. -/
theorem square_ne_zero (mirror : Mirror) : mirror.square ≠ 0 := by
  obtain ⟨⟨x, y⟩, offset, directed⟩ := mirror
  intro nowhere
  obtain ⟨zeroX, zeroY⟩ :=
    (add_eq_zero_iff_of_nonneg (sq_nonneg x) (sq_nonneg y)).mp nowhere
  rw [pow_eq_zero_iff two_ne_zero] at zeroX zeroY
  exact directed (by rw [zeroX, zeroY])

/-- A point and its image stand equally far off the line, on different sides. -/
theorem off_image (mirror : Mirror) (point : Point Rat) :
    mirror.off (mirror.image point) = -mirror.off point := by
  have solid := mirror.square_ne_zero
  rw [off, div_eq_iff solid]
  have here : mirror.across.x * point.x + mirror.across.y * point.y - mirror.offset =
      mirror.off point * mirror.square := (div_mul_cancel₀ _ solid).symm
  simp only [image, square] at here ⊢
  linarith

/-- Seen twice in a mirror a point is where it was. -/
theorem image_image (mirror : Mirror) (point : Point Rat) :
    mirror.image (mirror.image point) = point := by
  have back := mirror.off_image point
  rw [image, back]
  simp [image]

/-- The image in a mirror is straight: it takes lines to lines, and different points to different
points. -/
theorem straight (mirror : Mirror) : Segment.Straight mirror.image := by
  constructor
  case injective => exact Function.LeftInverse.injective mirror.image_image
  case pointAt =>
    intro segment part
    simp only [image, Segment.pointAt, Segment.mapped, off, Point.mk.injEq]
    constructor <;> ring

end Mirror

end Flowchart.Metrics
