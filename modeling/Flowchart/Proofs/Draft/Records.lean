import Flowchart.Draft.Interpret

/-!
Drafts that are handed over as records.

The records of a draft pass the check and give the draft back, as long as no id is empty. The strict
interpreter hands over its draft in this way.

Main statement: `toDraft_toInterpretation`.
-/

namespace Flowchart

open Checked

/-- No id in a draft is empty. -/
structure Draft.Named (draft : Draft) : Prop where
  vertices : ∀ vertex ∈ draft.vertices, vertex.id.isEmpty = false
  arcs : ∀ arc ∈ draft.arcs, arc.source.isEmpty = false ∧ arc.target.isEmpty = false
  blocks : ∀ block ∈ draft.blocks, block.id.isEmpty = false

/-! ### Records -/

/-- A text that may be absent is read back from the value that stands for it. -/
theorem optionalText_ofText? (text : Option String) :
    optionalText (Json.ofText? text) = .ok text := by
  cases text <;> rfl

theorem nonEmptyText_str {text : String} (nonempty : text.isEmpty = false) :
    nonEmptyText (.str text) = .ok text := by
  rw [nonEmptyText, nonempty]
  rfl

/-- Items that are right make a list without faults. -/
theorem all_ok {α : Type} (items : List α) : all (items.map Except.ok) = .ok items := by
  have sound : (items.map Except.ok).flatMap (Checked.faults (α := α)) = [] := by
    rw [List.flatMap_map, List.flatMap_eq_nil_iff]
    intro item _
    rfl
  have values : (items.map (Except.ok (ε := List Fault))).filterMap Except.toOption = items := by
    rw [List.filterMap_map]
    exact List.filterMap_some
  rw [all, sound]
  exact congrArg Except.ok values

/-- A list of texts is read back from an array. -/
theorem listOf_plainText (texts : List String) :
    listOf plainText (.arr (texts.map Json.str)) = .ok texts := by
  have checked : (texts.map Json.str).mapIdx
      (fun position value => (plainText value).under (.index position)) =
        texts.map Except.ok := by
    refine List.ext_getElem? fun position => ?_
    rw [List.getElem?_mapIdx, List.getElem?_map, List.getElem?_map, Option.map_map]
    rfl
  rw [listOf, checked, all_ok]

/-- A vertex with an id is read back from its record. -/
theorem ofFields_vertex {vertex : Vertex} (named : vertex.id.isEmpty = false) :
    ofRecord .notRecord Vertex.ofFields vertex.toJson = .ok vertex := by
  obtain ⟨id, text, shape⟩ := vertex
  have fields : requiredField nonEmptyText [("id", .str id), ("text", .ofText? text),
      ("shape", .ofText? shape)] "id" = .ok id := by
    simp [requiredField, Keyed.find?, nonEmptyText_str named, under]
  simp [ofRecord, Vertex.toJson, Vertex.ofFields, fields, fieldOr, Keyed.find?, List.lookup_cons,
    optionalText_ofText?, under]

/-- An arc with both ends is read back from its record. -/
theorem ofFields_arc {arc : Arc}
    (named : arc.source.isEmpty = false ∧ arc.target.isEmpty = false) :
    ofRecord .notRecord Arc.ofFields arc.toJson = .ok arc := by
  obtain ⟨source, target, text, stroke, directed⟩ := arc
  simp [ofRecord, Arc.toJson, Arc.ofFields, requiredField, fieldOr, Keyed.find?, List.lookup_cons,
    nonEmptyText_str named.1, nonEmptyText_str named.2, optionalText_ofText?, plainText, truth,
    under]

/-- A block with an id is read back from its record. -/
theorem ofFields_block {block : Block} (named : block.id.isEmpty = false) :
    ofRecord .notRecord Block.ofFields block.toJson = .ok block := by
  obtain ⟨id, title, members⟩ := block
  simp [ofRecord, Block.toJson, Block.ofFields, requiredField, fieldOr, Keyed.find?,
    List.lookup_cons, nonEmptyText_str named, optionalText_ofText?, listOf_plainText, under]

/-! ### Collections -/

/-- Records that all pass are the values they were written from. -/
theorem checkRecords_map {α : Type} (kind : RecordKind) {ofFields : Keyed Json → Checked α}
    {toRecord : α → Record ofFields} {values : List α} (position : Nat)
    (passes : ∀ value ∈ values, (toRecord value).check = .ok value) :
    checkRecords kind position (values.map toRecord) = .ok values := by
  induction values generalizing position with
  | nil => rfl
  | cons value values ih =>
      have rest := ih (position + 1) fun other member =>
        passes other (List.mem_cons_of_mem value member)
      rw [List.map_cons, checkRecords, passes value (by simp)]
      simp only [rest]

/-- If each value is read back from its record, so is a list of them. -/
theorem collect_map {α : Type} (kind : RecordKind) {ofFields : Keyed Json → Checked α}
    {toJson : α → Json} {values : List α}
    (passes : ∀ value ∈ values, ofRecord .notRecord ofFields (toJson value) = .ok value) :
    collect kind (.value (.arr (values.map toJson)) : Collection ofFields) = .ok values := by
  have records : (Collection.value (.arr (values.map toJson)) : Collection ofFields).records =
      .ok (values.map fun value => .value (toJson value)) := by
    cases values <;> simp [Collection.records, Json.items, Json.isVoid, Except.map]
  rw [collect, records]
  exact checkRecords_map kind 0 passes

/-- A draft that is handed over is received as it is. -/
theorem toDraft_toInterpretation {draft : Draft} (named : draft.Named) :
    draft.toInterpretation.toDraft = .ok draft := by
  have vertexRecords : draft.toInterpretation.vertices.withoutKeys =
      .value (.arr (draft.vertices.map Vertex.toJson)) := by
    simp [Draft.toInterpretation, Collection.withoutKeys, Keyed.values]
  have vertices : collect .vertex draft.toInterpretation.vertices.withoutKeys =
      .ok draft.vertices := by
    rw [vertexRecords]
    exact collect_map .vertex fun vertex member => ofFields_vertex (named.vertices vertex member)
  have arcs : collect .edge draft.toInterpretation.edges = .ok draft.arcs :=
    collect_map .edge fun arc member => ofFields_arc (named.arcs arc member)
  have blocks : collect .subgraph draft.toInterpretation.subgraphs =
      .ok draft.blocks :=
    collect_map .subgraph fun block member => ofFields_block (named.blocks block member)
  have direction : optionalText draft.toInterpretation.direction = .ok draft.direction :=
    optionalText_ofText? draft.direction
  rw [Interpretation.toDraft, vertices, arcs, blocks]
  simp only [direction]
  rfl

/-- What is handed over is checked for edges without nodes only. -/
theorem interpret_standard {source : String} {draft : Draft}
    (loaded : Draft.load source = .ok draft)
    (named : draft.Named) :
    Draft.interpret Interpreter.standard source = draft.checkStructure := by
  rw [Draft.interpret, Interpreter.standard, loaded]
  simp only [toDraft_toInterpretation named]

end Flowchart
