import Mathlib.Data.List.Forall2
import Flowchart.Proofs.Geometry.Mirror
import Flowchart.Proofs.Keyed

/-!
Crossings of a drawing.

An edge is drawn as the segment from the center of its source to that of its target. The number of
crossings is that of the pairs of edges whose segments cross properly, and besides of those where
one segment ends inside the other one and comes from its positive side. Which side is positive
depends on the direction of the edge. Where no segment ends inside another one only the proper
crossings are left, and neither turned edges nor a mirror change their number.

Main definitions: `Draws`, `drawnPairs`, `EndsClear`, `MirrorImage`. Main statement:
`crossings_counted`.
-/

namespace Flowchart

/-- The edge from the target to the source. -/
def Edge.reversed (edge : Edge) : Edge :=
  { edge with source := edge.target, target := edge.source }

/-- An edge is another one, or that one reversed. -/
def Edge.Turned (edge other : Edge) : Prop :=
  other = edge ∨ other = edge.reversed

/-! ### Matching pairs -/

section Pairs

variable {α β : Type} {matching : α → β → Prop}

/-- Lists that match item by item have pairs that match pair by pair. -/
theorem forall₂_pairs {items : List α} {items' : List β}
    (matched : List.Forall₂ matching items items') :
    List.Forall₂ (fun pair pair' => matching pair.1 pair'.1 ∧ matching pair.2 pair'.2)
      (pairs items) (pairs items') := by
  induction matched with
  | nil => exact .nil
  | @cons item item' items items' first rest ih =>
    exact List.rel_append (List.rel_map (fun _ _ later => ⟨first, later⟩) rest) ih

/-- Lists that match item by item count alike where a test does not tell matching items apart. -/
theorem countP_of_forall₂ {holds : α → Bool} {holds' : β → Bool}
    (alike : ∀ {item item'}, matching item item' → holds' item' = holds item)
    {items : List α} {items' : List β} (matched : List.Forall₂ matching items items') :
    items'.countP holds' = items.countP holds := by
  induction matched with
  | nil => rfl
  | cons first _ ih => rw [List.countP_cons, List.countP_cons, ih, alike first]

theorem forall_mem_of_forall₂ {holds : α → Prop} {holds' : β → Prop}
    (alike : ∀ {item item'}, matching item item' → (holds' item' ↔ holds item))
    {items : List α} {items' : List β} (matched : List.Forall₂ matching items items') :
    (∀ item' ∈ items', holds' item') ↔ ∀ item ∈ items, holds item := by
  induction matched with
  | nil => simp
  | cons first _ ih => rw [List.forall_mem_cons, List.forall_mem_cons, ih, alike first]

/-- Items with one of two properties are counted by those with either, if none has both. -/
theorem countP_or_of_exclusive {first second : α → Bool} {items : List α}
    (exclusive : ∀ item ∈ items, second item = true → ¬ first item = true) :
    items.countP (fun item => first item || second item) =
      items.countP first + items.countP second := by
  induction items with
  | nil => rfl
  | cons item items ih =>
    obtain ⟨here, later⟩ := List.forall_mem_cons.mp exclusive
    rw [List.countP_cons, List.countP_cons, List.countP_cons, ih later]
    cases isFirst : first item with
    | false => simp only [Bool.false_or, Bool.false_eq_true, if_false]; omega
    | true =>
      have notSecond : second item = false := by simpa [isFirst] using here
      simp only [notSecond, Bool.or_false, Bool.false_eq_true, if_true, if_false]
      omega

/-- Pairs of items that are made from others are counted on those. -/
theorem countP_pairs_filterMap (make : α → Option β) (holds : β × β → Bool) (items : List α) :
    (pairs (items.filterMap make)).countP holds =
      (pairs items).countP fun pair =>
        ((make pair.1).bind fun a => (make pair.2).map fun b => holds (a, b)).getD false := by
  induction items with
  | nil => rfl
  | cons item items ih =>
    rw [pairs, List.countP_append, List.countP_map, ← ih]
    cases made : make item with
    | none => simp [List.filterMap_cons_none made, Function.comp_def, made]
    | some a =>
      rw [List.filterMap_cons_some made, pairs, List.countP_append, List.countP_map,
        List.countP_filterMap]
      simp only [Function.comp_def, made, Option.bind_some]

end Pairs

namespace Metrics

/-! ### Drawn edges -/

/-- The segment that an edge is drawn as: from the center of its source to that of its target, if
the two differ. -/
structure Draws (graph : Graph Rat) (edge : Edge) (segment : Segment Rat) : Prop where
  source : Keyed.find? edge.source (pageCenters graph) = some segment.start
  target : Keyed.find? edge.target (pageCenters graph) = some segment.stop
  distinct : segment.start ≠ segment.stop

open Classical in
/-- The number of pairs of edges that are drawn as related segments. -/
noncomputable def drawnPairs (graph : Graph Rat)
    (related : Segment Rat → Segment Rat → Prop) : Nat :=
  (pairs graph.edges).countP fun pair =>
    ∃ a b, Draws graph pair.1 a ∧ Draws graph pair.2 b ∧ related a b

/-- No edge is drawn so that it ends inside another one. -/
def EndsClear (graph : Graph Rat) : Prop :=
  graph.edges.Pairwise fun edge later =>
    ∀ a, Draws graph edge a → ∀ b, Draws graph later b → a.Clear b

/-- A graph has the edges of another one and is drawn as its mirror image. -/
structure MirrorImage (mirror : Mirror) (graph other : Graph Rat) : Prop where
  edges : other.edges = graph.edges
  centers : ∀ id, Keyed.find? id (pageCenters other) =
    (Keyed.find? id (pageCenters graph)).map mirror.image

/-- The segment that an edge is drawn as, if there is one. -/
def segment? (graph : Graph Rat) (edge : Edge) : Option (Segment Rat) :=
  (Keyed.find? edge.source (pageCenters graph)).bind fun start =>
    (Keyed.find? edge.target (pageCenters graph)).bind fun stop =>
      if start = stop then none else some ⟨start, stop⟩

variable {graph other : Graph Rat} {edge : Edge} {segment : Segment Rat}

/-- The segments are those of the edges that draw one. -/
theorem segments_eq_filterMap (graph : Graph Rat) :
    segments graph = graph.edges.filterMap (segment? graph) := by
  refine List.filterMap_congr fun edge _ => ?_
  unfold segment?
  cases Keyed.find? edge.source (pageCenters graph) with
  | none => rfl
  | some start =>
    cases Keyed.find? edge.target (pageCenters graph) with
    | none => rfl
    | some stop => exact if_congr coincide_iff rfl rfl

/-- An edge draws a segment exactly between the different centers of its two ends. -/
theorem segment?_eq_some_iff : segment? graph edge = some segment ↔ Draws graph edge segment := by
  simp only [segment?, Option.bind_eq_some_iff, Option.ite_none_left_eq_some, Option.some.injEq]
  constructor
  · rintro ⟨start, source, stop, target, distinct, rfl⟩
    exact ⟨source, target, distinct⟩
  · rintro ⟨source, target, distinct⟩
    exact ⟨_, source, _, target, distinct, rfl⟩

/-- No segment that is drawn is a point. -/
theorem distinct_of_mem_segments (drawn : segment ∈ segments graph) :
    segment.start ≠ segment.stop := by
  rw [segments_eq_filterMap] at drawn
  obtain ⟨edge, -, made⟩ := List.mem_filterMap.mp drawn
  exact (segment?_eq_some_iff.mp made).distinct

open Classical in
/-- The pairs in a relation are counted over the pairs of segments. -/
theorem drawnPairs_eq_countP (graph : Graph Rat) (related : Segment Rat → Segment Rat → Prop) :
    drawnPairs graph related =
      (pairs (segments graph)).countP fun pair => related pair.1 pair.2 := by
  rw [segments_eq_filterMap, countP_pairs_filterMap, drawnPairs]
  refine List.countP_congr fun pair _ => ?_
  simp only [decide_eq_true_eq, ← segment?_eq_some_iff]
  cases segment? graph pair.1 <;> cases segment? graph pair.2 <;> simp

open Classical in
theorem drawnPairs_eq_zero {related : Segment Rat → Segment Rat → Prop}
    (unrelated : (segments graph).Pairwise fun a b => ¬ related a b) :
    drawnPairs graph related = 0 := by
  rw [drawnPairs_eq_countP, List.countP_eq_zero]
  intro pair listed
  rw [decide_eq_true_eq]
  exact forall_mem_pairs.mpr unrelated pair listed

open Classical in
/-- The pairs in one of two relations that exclude each other are counted by adding. -/
theorem drawnPairs_or {first second : Segment Rat → Segment Rat → Prop}
    (exclusive : (segments graph).Pairwise fun a b => second a b → ¬ first a b) :
    drawnPairs graph (fun a b => first a b ∨ second a b) =
      drawnPairs graph first + drawnPairs graph second := by
  rw [drawnPairs_eq_countP, drawnPairs_eq_countP, drawnPairs_eq_countP, ← countP_or_of_exclusive]
  · exact List.countP_congr fun pair _ => by simp only [Bool.decide_or]
  · intro pair listed
    rw [decide_eq_true_eq, decide_eq_true_eq]
    exact forall_mem_pairs.mpr exclusive pair listed

/-- Edges keep clear of each other's ends exactly if their segments do. -/
theorem endsClear_iff : EndsClear graph ↔ (segments graph).Pairwise Segment.Clear := by
  rw [segments_eq_filterMap, List.pairwise_filterMap]
  simp only [segment?_eq_some_iff, EndsClear]

open Classical in
/-- The number of crossings is that of the pairs with a property that the test decides. -/
theorem edgeCrossings_eq_drawnPairs {related : Segment Rat → Segment Rat → Prop}
    (decided : (segments graph).Pairwise fun a b => cross a b = true ↔ related a b) :
    edgeCrossings graph = drawnPairs graph related := by
  rw [drawnPairs_eq_countP, edgeCrossings]
  refine List.countP_congr fun pair listed => ?_
  rw [decide_eq_true_eq]
  exact forall_mem_pairs.mpr decided pair listed

theorem pairwise_distinct (graph : Graph Rat) :
    (segments graph).Pairwise fun a b => a.start ≠ a.stop ∧ b.start ≠ b.stop :=
  List.pairwise_of_forall_mem_list fun _ drawn _ drawn' =>
    ⟨distinct_of_mem_segments drawn, distinct_of_mem_segments drawn'⟩

/-- Segments of which one ends inside the other do not cross. -/
theorem not_crosses_of_abuts {a b : Segment Rat} (distinctA : a.start ≠ a.stop)
    (distinctB : b.start ≠ b.stop) (abuts : a.Abuts b ∨ b.Abuts a) : ¬ a.Crosses b := by
  rcases abuts with abuts | abuts
  · exact abuts.not_crosses distinctA
  · exact fun crosses => abuts.not_crosses distinctB (Segment.crosses_comm.mp crosses)

/-- Where no edge ends inside another, exactly the pairs that cross are counted. -/
theorem edgeCrossings_eq_drawnPairs_crosses (endsClear : EndsClear graph) :
    edgeCrossings graph = drawnPairs graph Segment.Crosses := by
  refine edgeCrossings_eq_drawnPairs ?_
  exact (pairwise_distinct graph).imp₂
    (fun a b distinct clear => cross_iff_crosses distinct.1 distinct.2 clear)
    (endsClear_iff.mp endsClear)

open Classical in
/-- Drawings of matching segments have equally many crossings if segments cross and are clear of
each other as the matching ones do. -/
theorem edgeCrossings_of_matched {matching : Segment Rat → Segment Rat → Prop}
    (crosses : ∀ {a a' b b'}, matching a a' → matching b b' → (a'.Crosses b' ↔ a.Crosses b))
    (clear : ∀ {a a' b b'}, matching a a' → matching b b' → (a'.Clear b' ↔ a.Clear b))
    (matched : List.Forall₂ matching (segments graph) (segments other))
    (endsClear : EndsClear graph) : edgeCrossings other = edgeCrossings graph := by
  have matched' := forall₂_pairs matched
  have endsClear' : EndsClear other := by
    rw [endsClear_iff, ← forall_mem_pairs] at endsClear ⊢
    exact (forall_mem_of_forall₂ (fun both => clear both.1 both.2) matched').mpr endsClear
  rw [edgeCrossings_eq_drawnPairs_crosses endsClear, edgeCrossings_eq_drawnPairs_crosses endsClear',
    drawnPairs_eq_countP, drawnPairs_eq_countP]
  exact countP_of_forall₂ (fun both => decide_eq_decide.mpr (crosses both.1 both.2)) matched'

/-! ### Turned edges and mirrors -/

/-- An edge that is turned round draws its segment the other way. -/
theorem segment?_reversed (graph : Graph Rat) (edge : Edge) :
    segment? graph edge.reversed = (segment? graph edge).map Segment.reversed := by
  unfold segment? Edge.reversed
  cases Keyed.find? edge.source (pageCenters graph) with
  | none => simp
  | some start =>
    cases Keyed.find? edge.target (pageCenters graph) with
    | none => rfl
    | some stop =>
      simp only [Option.bind_some, apply_ite (Option.map Segment.reversed), eq_comm (a := start)]
      rfl

/-- Turning edges round turns their segments round. -/
theorem forall₂_turned {edges : List Edge} (turned : List.Forall₂ Edge.Turned graph.edges edges) :
    List.Forall₂ Segment.Turned (segments graph) (segments { graph with edges := edges }) := by
  rw [segments_eq_filterMap, segments_eq_filterMap]
  refine List.rel_filterMap (fun edge other turned => ?_) turned
  have same : segment? { graph with edges := edges } = segment? graph := rfl
  rw [same]
  rcases turned with unchanged | reversed
  · rw [unchanged]
    cases segment? graph edge with
    | none => exact .none
    | some segment => exact .some (Or.inl rfl)
  · rw [reversed, segment?_reversed]
    cases segment? graph edge with
    | none => exact .none
    | some segment => exact .some (Or.inr rfl)

/-- If the centers of a drawing are the images of those of another one, its segments are the images
of the other one's. -/
theorem segments_mapped {image : Point Rat → Point Rat} (injective : Function.Injective image)
    (edges : other.edges = graph.edges)
    (centers : ∀ id, Keyed.find? id (pageCenters other) =
      (Keyed.find? id (pageCenters graph)).map image) :
    segments other = (segments graph).map (Segment.mapped image) := by
  rw [segments_eq_filterMap, segments_eq_filterMap, List.map_filterMap, edges]
  refine List.filterMap_congr fun edge _ => ?_
  rw [segment?, centers, centers, segment?]
  cases Keyed.find? edge.source (pageCenters graph) with
  | none => rfl
  | some start =>
    cases Keyed.find? edge.target (pageCenters graph) with
    | none => rfl
    | some stop =>
      simp only [Option.map_some, Option.bind_some, injective.eq_iff,
        apply_ite (Option.map (Segment.mapped image))]
      rfl

/-- The segments of a mirror image are the mirror images of the segments. -/
theorem segments_mirrored {mirror : Mirror} (mirrored : MirrorImage mirror graph other) :
    segments other = (segments graph).map (Segment.mapped mirror.image) :=
  segments_mapped mirror.straight.injective mirrored.edges mirrored.centers

theorem forall₂_mirrored {mirror : Mirror} (mirrored : MirrorImage mirror graph other) :
    List.Forall₂ (fun segment image => image = segment.mapped mirror.image)
      (segments graph) (segments other) := by
  rw [segments_mirrored mirrored, List.forall₂_map_right_iff, List.forall₂_same]
  exact fun _ _ => rfl

/-- A graph with the same edges and mirrored centers is a mirror image. -/
theorem MirrorImage.of_centers {mirror : Mirror} (edges : other.edges = graph.edges)
    (centers : pageCenters other =
      (pageCenters graph).map fun entry => (entry.1, mirror.image entry.2)) :
    MirrorImage mirror graph other := by
  refine ⟨edges, fun id => ?_⟩
  rw [centers]
  exact Keyed.find?_map (fun _ => mirror.image) id (pageCenters graph)

/-- The test for crossings finds proper crossings, and besides those where a segment ends inside the
other one and comes from its positive side; crossings are counted by it. Where no edge ends inside
another one proper crossings are counted, and neither turned edges nor a mirror change their
number. -/
theorem crossings_counted (graph : Graph Rat) :
    (∀ a b : Segment Rat, a.start ≠ a.stop → b.start ≠ b.stop →
      (cross a b = true ↔ a.Crosses b ∨ a.Abuts b ∨ b.Abuts a) ∧
        (a.Abuts b ∨ b.Abuts a → ¬ a.Crosses b)) ∧
      edgeCrossings graph =
        drawnPairs graph Segment.Crosses + drawnPairs graph (fun a b => a.Abuts b ∨ b.Abuts a) ∧
      (EndsClear graph →
        edgeCrossings graph = drawnPairs graph Segment.Crosses ∧
        (∀ edges, List.Forall₂ Edge.Turned graph.edges edges →
          edgeCrossings { graph with edges := edges } = edgeCrossings graph) ∧
        ∀ mirror other, MirrorImage mirror graph other →
          edgeCrossings other = edgeCrossings graph) := by
  refine ⟨fun a b distinctA distinctB => ⟨cross_iff distinctA distinctB, ?_⟩, ?_, ?_⟩
  · exact not_crosses_of_abuts distinctA distinctB
  · rw [← drawnPairs_or ((pairwise_distinct graph).imp fun distinct =>
      not_crosses_of_abuts distinct.1 distinct.2)]
    exact edgeCrossings_eq_drawnPairs ((pairwise_distinct graph).imp fun distinct =>
      cross_iff distinct.1 distinct.2)
  · intro endsClear
    refine ⟨edgeCrossings_eq_drawnPairs_crosses endsClear, ?_, ?_⟩
    · intro edges turned
      exact edgeCrossings_of_matched Segment.crosses_of_turned Segment.clear_of_turned
        (forall₂_turned turned) endsClear
    · intro mirror other mirrored
      refine edgeCrossings_of_matched ?_ ?_ (forall₂_mirrored mirrored) endsClear
      · rintro a _ b _ rfl rfl
        exact Segment.crosses_mapped mirror.straight
      · rintro a _ b _ rfl rfl
        exact Segment.clear_mapped mirror.straight

/-- Two streets that cross in the middle. -/
def crossroads : Graph Rat where
  nodes := [
    { id := "w", kind := .plain, label := "W", x := -100, y := 0 },
    { id := "e", kind := .plain, label := "E", x := 100, y := 0 },
    { id := "n", kind := .plain, label := "N", x := 0, y := -100 },
    { id := "s", kind := .plain, label := "S", x := 0, y := 100 }]
  edges := [
    { id := "ew-e-0", source := "w", target := "e" },
    { id := "en-s-1", source := "n", target := "s" }]

/-- The same streets with the compass mirrored in the line from the south west to the north east. -/
def mirroredCrossroads : Graph Rat where
  nodes := [
    { id := "w", kind := .plain, label := "W", x := 0, y := 100 },
    { id := "e", kind := .plain, label := "E", x := 0, y := -100 },
    { id := "n", kind := .plain, label := "N", x := 100, y := 0 },
    { id := "s", kind := .plain, label := "S", x := -100, y := 0 }]
  edges := crossroads.edges

theorem crossings_counted_crossroads :
    EndsClear crossroads ∧ edgeCrossings crossroads = 1 ∧
      drawnPairs crossroads Segment.Crosses = 1 ∧
      edgeCrossings { crossroads with edges := crossroads.edges.map Edge.reversed } = 1 ∧
      MirrorImage ⟨⟨1, 1⟩, 120, by decide⟩ crossroads mirroredCrossroads ∧
      edgeCrossings mirroredCrossroads = 1 := by
  have endsClear : EndsClear crossroads := by
    refine endsClear_iff.mpr (List.Pairwise.imp Segment.clear_of_sides ?_)
    decide +kernel
  have one : edgeCrossings crossroads = 1 := by decide +kernel
  have mirrored : MirrorImage ⟨⟨1, 1⟩, 120, by decide⟩ crossroads mirroredCrossroads :=
    .of_centers rfl (by decide +kernel)
  obtain ⟨-, -, clear⟩ := crossings_counted crossroads
  obtain ⟨proper, turned, mirrorImage⟩ := clear endsClear
  refine ⟨endsClear, one, proper ▸ one, ?_, mirrored, (mirrorImage _ _ mirrored).trans one⟩
  refine (turned _ (List.forall₂_map_right_iff.mpr (List.forall₂_same.mpr ?_))).trans one
  exact fun _ _ => Or.inr rfl

/-- A street that ends at another one. -/
def junction : Graph Rat where
  nodes := [
    { id := "w", kind := .plain, label := "W", x := -200, y := 0 },
    { id := "e", kind := .plain, label := "E", x := 200, y := 0 },
    { id := "m", kind := .plain, label := "M", x := 0, y := 0 },
    { id := "s", kind := .plain, label := "S", x := 0, y := 200 }]
  edges := [
    { id := "ew-e-0", source := "w", target := "e" },
    { id := "es-m-1", source := "s", target := "m" }]

/-- The junction seen from the other side of the street. -/
def mirroredJunction : Graph Rat where
  nodes := [
    { id := "w", kind := .plain, label := "W", x := -200, y := 0 },
    { id := "e", kind := .plain, label := "E", x := 200, y := 0 },
    { id := "m", kind := .plain, label := "M", x := 0, y := 0 },
    { id := "s", kind := .plain, label := "S", x := 0, y := -200 }]
  edges := junction.edges

/-- A street is found to cross another one at which it ends, unless the other one is turned around
or all is seen in a mirror. -/
theorem cross_junction :
    (∃ a b : Segment Rat, a.start ≠ a.stop ∧ b.start ≠ b.stop ∧ cross a b = true ∧ ¬ a.Crosses b) ∧
      edgeCrossings junction = 1 ∧ drawnPairs junction Segment.Crosses = 0 ∧
      edgeCrossings { junction with edges := junction.edges.map Edge.reversed } = 0 ∧
      MirrorImage ⟨⟨0, 1⟩, 30, by decide⟩ junction mirroredJunction ∧
      edgeCrossings mirroredJunction = 0 := by
  have none : drawnPairs junction Segment.Crosses = 0 := by
    have onLine : (segments junction).Pairwise fun a b => a.side b.stop = 0 := by decide +kernel
    refine drawnPairs_eq_zero ((pairwise_distinct junction).imp₂ ?_ onLine)
    intro a b distinct ends crosses
    obtain ⟨-, -, -, off⟩ := crosses.sides distinct.1 distinct.2
    exact off ends
  refine ⟨⟨⟨⟨-200, 0⟩, ⟨200, 0⟩⟩, ⟨⟨0, 200⟩, ⟨0, 0⟩⟩, ?_⟩, ?_⟩
  · have distinct : (⟨-200, 0⟩ : Point Rat) ≠ ⟨200, 0⟩ := by decide +kernel
    have distinct' : (⟨0, 200⟩ : Point Rat) ≠ ⟨0, 0⟩ := by decide +kernel
    refine ⟨distinct, distinct', by decide +kernel, fun crosses => ?_⟩
    obtain ⟨-, -, -, off⟩ := crosses.sides distinct distinct'
    exact off (by decide +kernel)
  · exact ⟨by decide +kernel, none, by decide +kernel, .of_centers rfl (by decide +kernel),
      by decide +kernel⟩

end Metrics

end Flowchart
