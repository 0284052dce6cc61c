import Mathlib.Data.List.Forall2
import Mathlib.Data.Set.List
import Flowchart.Diagram
import Flowchart.Proofs.Draft.Records

/-!
Interpretations that can be received, and those that cannot.

An interpretation is received as a draft exactly if its collections hold the records of this draft
and its direction is a text or null. It is refused as invalid otherwise, unless something is handed
over that is no collection at all, or everything is right but the direction.

Main definitions: `Interpretation.Holds`, `Interpretation.Mistaken`. Main statements:
`toDraft_eq_ok_iff`, `mistaken_iff`.
-/

namespace Flowchart

open Checked

/-! ### Records -/

/-- Fields that record a vertex. -/
structure Vertex.RecordedIn (fields : Keyed Json) (vertex : Vertex) : Prop where
  id : fields.find? "id" = some (.str vertex.id)
  named : vertex.id ≠ ""
  text : (fields.find? "text").getD .null = .ofText? vertex.text
  shape : (fields.find? "shape").getD .null = .ofText? vertex.shape

/-- Fields that record an edge. -/
structure Arc.RecordedIn (fields : Keyed Json) (arc : Arc) : Prop where
  source : fields.find? "start" = some (.str arc.source)
  sourceNamed : arc.source ≠ ""
  target : fields.find? "end" = some (.str arc.target)
  targetNamed : arc.target ≠ ""
  text : (fields.find? "text").getD .null = .ofText? arc.text
  stroke : (fields.find? "stroke").getD (.str "normal") = .str arc.stroke
  directed : truth ((fields.find? "directed").getD (.bool true)) = .ok arc.directed

/-- Fields that record a block. -/
structure Block.RecordedIn (fields : Keyed Json) (block : Block) : Prop where
  id : fields.find? "id" = some (.str block.id)
  named : block.id ≠ ""
  title : (fields.find? "title").getD .null = .ofText? block.title
  members : (fields.find? "nodes").getD (.arr []) = .arr (block.members.map .str)

section Checks

variable {α : Type} {check : Json → Checked α} {fields : Keyed Json} {name : String} {value : α}

theorem under_eq_ok {place : Place} {checked : Checked α} :
    checked.under place = .ok value ↔ checked = .ok value := by
  cases checked <;> simp [under]

/-- A required field gives what the check makes of its value, and has to be there. -/
theorem requiredField_eq_ok :
    requiredField check fields name = .ok value ↔
      ∃ found, fields.find? name = some found ∧ check found = .ok value := by
  rw [requiredField, under_eq_ok]
  cases fields.find? name <;> simp [fault]

/-- A field that may be missing is checked as if it had its standard value then. -/
theorem fieldOr_eq_ok {standard : Json} {absent : α} (passes : check standard = .ok absent) :
    fieldOr check absent fields name = .ok value ↔
      check ((fields.find? name).getD standard) = .ok value := by
  rw [fieldOr]
  cases fields.find? name with
  | none => simp [passes]
  | some found => exact under_eq_ok

theorem plainText_eq_ok {json : Json} {text : String} :
    plainText json = .ok text ↔ json = .str text := by
  cases json <;> simp [plainText, fault]

/-- The check for a text that is not empty passes exactly those. -/
theorem nonEmptyText_eq_ok {json : Json} {text : String} :
    nonEmptyText json = .ok text ↔ json = .str text ∧ text ≠ "" := by
  cases json with
  | str found =>
      by_cases empty : found = ""
      · subst empty
        constructor
        · intro passes
          simp [nonEmptyText, fault] at passes
        · rintro ⟨same, named⟩
          exact absurd (Json.str.inj same).symm named
      · rw [nonEmptyText_str (by simpa using empty)]
        constructor
        · intro passes
          cases passes
          exact ⟨rfl, empty⟩
        · rintro ⟨same, _⟩
          rw [Json.str.inj same]
  | null | bool | int | float | arr | obj | escaped => simp [nonEmptyText, fault]

/-- The check for an optional text passes exactly texts and null. -/
theorem optionalText_eq_ok {json : Json} {text : Option String} :
    optionalText json = .ok text ↔ json = .ofText? text := by
  cases json <;> cases text <;> simp [optionalText, plainText, fault, Json.ofText?, Except.map]

/-- A list passes if all its items do, provided that each item that does not pass has a fault. -/
theorem all_eq_ok {items : List (Checked α)} {values : List α} (told : .error [] ∉ items) :
    all items = .ok values ↔ items = values.map .ok := by
  constructor
  · intro passes
    have sound : items.flatMap faults = [] := by
      cases found : items.flatMap faults with
      | nil => rfl
      | cons fault faults => simp [all, found] at passes
    have each : items ∈ Set.range (List.map Except.ok) := by
      rw [Set.range_list_map]
      intro item member
      cases item with
      | ok value => exact ⟨value, rfl⟩
      | error faults =>
          have none : faults = [] := List.flatMap_eq_nil_iff.mp sound _ member
          exact absurd (none ▸ member) told
    obtain ⟨passed, rfl⟩ := each
    rw [all_ok] at passes
    rw [Except.ok.inj passes]
  · rintro rfl
    exact all_ok values

/-- A required text is found under its name and is not empty. -/
theorem requiredText_eq_ok {text : String} :
    requiredField nonEmptyText fields name = .ok text ↔
      fields.find? name = some (.str text) ∧ text ≠ "" := by
  rw [requiredField_eq_ok]
  constructor
  · rintro ⟨found, isField, passes⟩
    obtain ⟨rfl, named⟩ := nonEmptyText_eq_ok.mp passes
    exact ⟨isField, named⟩
  · rintro ⟨isField, named⟩
    exact ⟨_, isField, nonEmptyText_eq_ok.mpr ⟨rfl, named⟩⟩

/-- An optional text is found under its name, or null or nothing is. -/
theorem optionalField_eq_ok {text : Option String} :
    fieldOr optionalText none fields name = .ok text ↔
      (fields.find? name).getD .null = .ofText? text := by
  have absent : optionalText .null = .ok none := rfl
  rw [fieldOr_eq_ok absent, optionalText_eq_ok]

/-- The check for a list of texts passes exactly arrays of texts. -/
theorem listOf_plainText_eq_ok {json : Json} {texts : List String} :
    listOf plainText json = .ok texts ↔ json = .arr (texts.map .str) := by
  constructor
  · intro passes
    cases json with
    | arr items =>
        have told : .error [] ∉ items.mapIdx fun position value =>
            (plainText value).under (.index position) := by
          intro member
          obtain ⟨position, inside, same⟩ := List.mem_mapIdx.mp member
          cases item : items[position] <;> simp [item, plainText, fault, under] at same
        have each := (all_eq_ok told).mp passes
        congr 1
        apply List.ext_getElem?
        intro position
        have here := congrArg (·[position]?) each
        simp only [List.getElem?_mapIdx, List.getElem?_map] at here ⊢
        cases item : items[position]? <;> cases text : texts[position]? <;>
          simp_all [under_eq_ok, plainText_eq_ok]
    | null | bool | int | float | str | obj | escaped => cases passes
  · rintro rfl
    exact listOf_plainText texts

end Checks

section Fields

variable {fields : Keyed Json}

/-- The fields that are accepted for a vertex are those that record it. -/
theorem Vertex.ofFields_eq_ok {vertex : Vertex} :
    Vertex.ofFields fields = .ok vertex ↔ vertex.RecordedIn fields := by
  obtain ⟨id, text, shape⟩ := vertex
  have fieldwise : Vertex.ofFields fields = .ok ⟨id, text, shape⟩ ↔
      requiredField nonEmptyText fields "id" = .ok id ∧
        fieldOr optionalText none fields "text" = .ok text ∧
          fieldOr optionalText none fields "shape" = .ok shape := by
    unfold Vertex.ofFields
    split
    case h_1 isId isText isShape => simp [isId, isText, isShape]
    case h_2 refused =>
      constructor
      · intro passes
        cases passes
      · rintro ⟨isId, isText, isShape⟩
        exact (refused _ _ _ isId isText isShape).elim
  rw [fieldwise, requiredText_eq_ok, optionalField_eq_ok, optionalField_eq_ok]
  constructor
  · rintro ⟨⟨isId, named⟩, isText, isShape⟩
    exact ⟨isId, named, isText, isShape⟩
  · rintro ⟨isId, named, isText, isShape⟩
    exact ⟨⟨isId, named⟩, isText, isShape⟩

/-- The fields that are accepted for an edge are those that record it. -/
theorem Arc.ofFields_eq_ok {arc : Arc} :
    Arc.ofFields fields = .ok arc ↔ arc.RecordedIn fields := by
  obtain ⟨source, target, text, stroke, directed⟩ := arc
  have fieldwise : Arc.ofFields fields = .ok ⟨source, target, text, stroke, directed⟩ ↔
      requiredField nonEmptyText fields "start" = .ok source ∧
        requiredField nonEmptyText fields "end" = .ok target ∧
          fieldOr optionalText none fields "text" = .ok text ∧
            fieldOr plainText "normal" fields "stroke" = .ok stroke ∧
              fieldOr truth true fields "directed" = .ok directed := by
    unfold Arc.ofFields
    split
    case h_1 isSource isTarget isText isStroke isDirected =>
      simp [isSource, isTarget, isText, isStroke, isDirected]
    case h_2 refused =>
      constructor
      · intro passes
        cases passes
      · rintro ⟨isSource, isTarget, isText, isStroke, isDirected⟩
        exact (refused _ _ _ _ _ isSource isTarget isText isStroke isDirected).elim
  have usual : plainText (.str "normal") = .ok "normal" := rfl
  have forward : truth (.bool true) = .ok true := rfl
  rw [fieldwise, requiredText_eq_ok, requiredText_eq_ok, optionalField_eq_ok,
    fieldOr_eq_ok usual, plainText_eq_ok, fieldOr_eq_ok forward]
  constructor
  · rintro ⟨⟨isSource, sourceNamed⟩, ⟨isTarget, targetNamed⟩, isText, isStroke, isDirected⟩
    exact ⟨isSource, sourceNamed, isTarget, targetNamed, isText, isStroke, isDirected⟩
  · rintro ⟨isSource, sourceNamed, isTarget, targetNamed, isText, isStroke, isDirected⟩
    exact ⟨⟨isSource, sourceNamed⟩, ⟨isTarget, targetNamed⟩, isText, isStroke, isDirected⟩

/-- The fields that are accepted for a block are those that record it. -/
theorem Block.ofFields_eq_ok {block : Block} :
    Block.ofFields fields = .ok block ↔ block.RecordedIn fields := by
  obtain ⟨id, title, members⟩ := block
  have fieldwise : Block.ofFields fields = .ok ⟨id, title, members⟩ ↔
      requiredField nonEmptyText fields "id" = .ok id ∧
        fieldOr optionalText none fields "title" = .ok title ∧
          fieldOr (listOf plainText) [] fields "nodes" = .ok members := by
    unfold Block.ofFields
    split
    case h_1 isId isTitle isList => simp [isId, isTitle, isList]
    case h_2 refused =>
      constructor
      · intro passes
        cases passes
      · rintro ⟨isId, isTitle, isList⟩
        exact (refused _ _ _ isId isTitle isList).elim
  have empty : listOf plainText (.arr []) = .ok [] := rfl
  rw [fieldwise, requiredText_eq_ok, optionalField_eq_ok, fieldOr_eq_ok empty,
    listOf_plainText_eq_ok]
  constructor
  · rintro ⟨⟨isId, named⟩, isTitle, isList⟩
    exact ⟨isId, named, isTitle, isList⟩
  · rintro ⟨isId, named, isTitle, isList⟩
    exact ⟨⟨isId, named⟩, isTitle, isList⟩

end Fields

/-! ### Collections -/

section Held

variable {α : Type} {ofFields : Keyed Json → Checked α}

/-- A record holds a value: its fields or attributes record the value. -/
def Record.Holds (recordedIn : Keyed Json → α → Prop) (record : Record ofFields) (value : α) :
    Prop :=
  match record with
  | .value plain => ∃ fields, plain = .obj fields ∧ recordedIn fields value
  | .object attributes | .made attributes _ _ => recordedIn attributes value

/-- A plain value holds the records of values, one after the other. An absent one holds none. -/
def Json.Records (recordedIn : Keyed Json → α → Prop) (plain : Json) (values : List α) : Prop :=
  plain.isVoid = true ∧ values = [] ∨
    ∃ records, plain = .arr (records.map .obj) ∧ List.Forall₂ recordedIn records values

/-- A collection holds the records of values, one after the other. The keys of records are none. -/
def Collection.Records (recordedIn : Keyed Json → α → Prop) (collection : Collection ofFields)
    (values : List α) : Prop :=
  match collection with
  | .value plain => plain.Records recordedIn values
  | .list records => List.Forall₂ (Record.Holds recordedIn) records values
  | .keyed records => records = [] ∧ values = []

/-- A value that is given but cannot be gone through: a truth value or a number. -/
def Json.Solid (plain : Json) : Prop :=
  plain.isVoid = false ∧ plain.typeName ∈ ["bool", "int", "float"]

/-- A collection is no collection but a truth value or a number, which has a type of this name. -/
def Collection.Solid (collection : Collection ofFields) (typeName : String) : Prop :=
  ∃ plain, collection = .value plain ∧ plain.Solid ∧ typeName = plain.typeName

end Held

section Collections

variable {α : Type} {ofFields : Keyed Json → Checked α} {recordedIn : Keyed Json → α → Prop}
  {kind : RecordKind} {collection : Collection ofFields} {values : List α}

/-- A plain value is absent, a list, solid, or goes through as texts, which are no records. -/
theorem items_cases (plain : Json) :
    plain.isVoid = true ∧ plain.items = .ok [] ∨
      plain.isVoid = false ∧
        ((∃ items, plain = .arr items ∧ plain.items = .ok items) ∨
          plain.Solid ∧ plain.items = .error plain.typeName ∨
            ∃ text others, (∀ items, plain ≠ .arr items) ∧ ¬ plain.Solid ∧
              plain.items = .ok (.str text :: others)) := by
  cases given : plain.isVoid with
  | true => exact Or.inl ⟨rfl, by simp [Json.items, given]⟩
  | false =>
      refine Or.inr ⟨rfl, ?_⟩
      cases plain with
      | null => cases given
      | bool | int | float =>
          refine Or.inr (Or.inl ⟨⟨given, by simp [Json.typeName]⟩, ?_⟩)
          simp [Json.items, given]
      | arr items => exact Or.inl ⟨items, rfl, by simp [Json.items, given]⟩
      | str text =>
          refine Or.inr (Or.inr ?_)
          cases chars : text.toList with
          | nil => simp_all [Json.isVoid]
          | cons first rest =>
              refine ⟨_, _, by simp, ?_, by simp [Json.items, given, chars]; exact ⟨rfl, rfl⟩⟩
              simp [Json.Solid, Json.typeName]
      | obj fields | escaped fields =>
          refine Or.inr (Or.inr ?_)
          cases fields with
          | nil => cases given
          | cons first rest =>
              refine ⟨_, _, by simp, ?_, by simp [Json.items, given]; exact ⟨rfl, rfl⟩⟩
              simp [Json.Solid, Json.typeName]

/-- A record is an object whose fields pass. -/
theorem ofRecord_eq_ok {otherwise : FaultKind} {item : Json} {value : α} :
    ofRecord otherwise ofFields item = .ok value ↔
      ∃ fields, item = .obj fields ∧ ofFields fields = .ok value := by
  cases item <;> simp [ofRecord, fault]

/-- A record passes exactly if it holds its value. -/
theorem check_eq_ok
    (exactly : ∀ fields value, ofFields fields = .ok value ↔ recordedIn fields value)
    {record : Record ofFields} {value : α} :
    record.check = .ok value ↔ record.Holds recordedIn value := by
  cases record with
  | value plain => simp only [Record.check, Record.Holds, ofRecord_eq_ok, exactly]
  | object attributes => exact exactly attributes value
  | made attributes record accepted =>
      rw [Record.check, Record.Holds, ← exactly, accepted]

/-- Records pass exactly if each of them holds its value. -/
theorem checkRecords_eq_ok
    (exactly : ∀ fields value, ofFields fields = .ok value ↔ recordedIn fields value)
    {position : Nat} {records : List (Record ofFields)} :
    checkRecords kind position records = .ok values ↔
      List.Forall₂ (Record.Holds recordedIn) records values := by
  induction records generalizing position values with
  | nil =>
      rw [checkRecords, List.forall₂_nil_left_iff, Except.ok.injEq, eq_comm]
  | cons record records ih =>
      constructor
      · intro passes
        rw [checkRecords] at passes
        split at passes
        case h_1 => cases passes
        case h_2 value first =>
          split at passes
          case h_1 others rest =>
            cases passes
            exact .cons ((check_eq_ok exactly).mp first) (ih.mp rest)
          case h_2 => cases passes
      · intro each
        cases each with
        | cons held others =>
            rw [checkRecords, (check_eq_ok exactly).mpr held]
            simp only [ih.mpr others]

/-- Records that do not pass are invalid. -/
theorem checkRecords_eq_error {position : Nat} {records : List (Record ofFields)}
    {error : InterpretationError} (refused : checkRecords kind position records = .error error) :
    ∃ reason, error = .rejected reason := by
  induction records generalizing position with
  | nil => cases refused
  | cons record records ih =>
      rw [checkRecords] at refused
      split at refused
      case h_1 faults invalid =>
        cases refused
        exact ⟨_, rfl⟩
      case h_2 value first =>
        split at refused
        case h_1 => cases refused
        case h_2 cause rest =>
          cases refused
          exact ih rest

/-- Plain items hold values exactly if they are objects that record them. -/
theorem forall₂_holds_value {items : List Json} :
    List.Forall₂ (Record.Holds recordedIn) (items.map (Record.value : Json → Record ofFields))
        values ↔
      ∃ records, items = records.map .obj ∧ List.Forall₂ recordedIn records values := by
  induction items generalizing values with
  | nil => simp
  | cons item items ih =>
      simp only [List.map_cons, List.forall₂_cons_left_iff, ih, Record.Holds]
      constructor
      · rintro ⟨value, others, ⟨fields, rfl, recorded⟩, ⟨records, rfl, each⟩, rfl⟩
        exact ⟨fields :: records, rfl, .cons recorded each⟩
      · rintro ⟨records, same, each⟩
        cases each with
        | nil => cases same
        | cons recorded each =>
            obtain ⟨rfl, rfl⟩ := List.cons.inj same
            exact ⟨_, _, ⟨_, rfl, recorded⟩, ⟨_, rfl, each⟩, rfl⟩

theorem not_solid_arr (items : List Json) : ¬ (Json.arr items).Solid := by
  simp [Json.Solid, Json.typeName]

/-- An array holds records of some values if its items are objects that hold them one by one. -/
theorem records_arr_iff {items : List Json} :
    (Json.arr items).Records recordedIn values ↔
      ∃ records, items = records.map .obj ∧ List.Forall₂ recordedIn records values := by
  constructor
  · rintro (⟨void, rfl⟩ | ⟨records, same, each⟩)
    · have none : items = [] := by simpa [Json.isVoid] using void
      exact ⟨[], none, .nil⟩
    · exact ⟨records, Json.arr.inj same, each⟩
  · rintro ⟨records, rfl, each⟩
    exact Or.inr ⟨records, rfl, each⟩

/-- A plain value passes as a collection exactly if it holds the records of its values. -/
theorem collect_value_eq_ok
    (exactly : ∀ fields value, ofFields fields = .ok value ↔ recordedIn fields value)
    (plain : Json) :
    collect kind (.value plain : Collection ofFields) = .ok values ↔
      plain.Records recordedIn values := by
  have notList : (∀ items, plain ≠ .arr items) → plain.isVoid = false →
      ¬ plain.Records recordedIn values := by
    rintro list given (⟨void, _⟩ | ⟨records, same, _⟩)
    · rw [given] at void
      cases void
    · exact list _ same
  rw [collect, Collection.records]
  rcases items_cases plain with
    ⟨void, items⟩ | ⟨given, ⟨listed, rfl, items⟩ | ⟨solid, items⟩ | ⟨text, others, list, _, items⟩⟩
  · rw [items]
    constructor
    · intro passes
      cases passes
      exact Or.inl ⟨void, rfl⟩
    · rintro (⟨_, rfl⟩ | ⟨records, rfl, each⟩)
      · rfl
      · cases each with
        | nil => rfl
        | cons => cases void
  · rw [items, records_arr_iff, ← forall₂_holds_value]
    exact checkRecords_eq_ok exactly
  · rw [items]
    refine iff_of_false (by simp [Except.map]) (notList ?_ given)
    rintro listed rfl
    exact not_solid_arr listed solid
  · rw [items]
    exact iff_of_false (by simp [Except.map, checkRecords, Record.check, ofRecord, fault])
      (notList list given)

/-- A collection passes exactly if it holds the records of its values. -/
theorem collect_eq_ok
    (exactly : ∀ fields value, ofFields fields = .ok value ↔ recordedIn fields value) :
    collect kind collection = .ok values ↔ collection.Records recordedIn values := by
  cases collection with
  | value plain => exact collect_value_eq_ok exactly plain
  | list records => exact checkRecords_eq_ok exactly
  | keyed records =>
      rw [collect, Collection.records, Collection.Records]
      cases records with
      | nil => simp [checkRecords, eq_comm]
      | cons record records => simp [checkRecords, Record.check, ofRecord, fault]

/-- What cannot be gone through is reported as such, and nothing else is. -/
theorem collect_eq_notIterable {name : String} :
    collect kind collection = .error (.notIterable name) ↔ collection.Solid name := by
  have checked : ∀ records : List (Record ofFields),
      checkRecords kind 0 records ≠ .error (.notIterable name) := by
    intro records refused
    obtain ⟨reason, same⟩ := checkRecords_eq_error refused
    cases same
  rw [collect, Collection.Solid]
  cases collection with
  | list records => exact iff_of_false (checked _) (by simp)
  | keyed records => exact iff_of_false (checked _) (by simp)
  | value plain =>
      simp only [Collection.records, Collection.value.injEq, exists_eq_left']
      rcases items_cases plain with ⟨void, items⟩ |
        ⟨given, ⟨listed, rfl, items⟩ | ⟨solid, items⟩ | ⟨text, others, _, soft, items⟩⟩
      · rw [items]
        exact iff_of_false (checked _) fun solid => by rw [solid.1.1] at void; cases void
      · rw [items]
        exact iff_of_false (checked _) fun solid => not_solid_arr listed solid.1
      · rw [items]
        simp [Except.map, solid, eq_comm]
      · rw [items]
        exact iff_of_false (checked _) fun solid => soft solid.1

/-- No collection fails because of the direction. -/
theorem collect_ne_directionNotText : collect kind collection ≠ .error .directionNotText := by
  intro refused
  rw [collect] at refused
  split at refused
  · cases refused
  · obtain ⟨reason, same⟩ := checkRecords_eq_error refused
    cases same

end Collections

/-! ### Interpretations -/

/-- An interpretation holds a draft: its collections are those of the records of the draft, and
its direction is a text or null. -/
structure Interpretation.Holds (interpretation : Interpretation) (draft : Draft) : Prop where
  vertices : interpretation.vertices.withoutKeys.Records Vertex.RecordedIn draft.vertices
  arcs : interpretation.edges.Records Arc.RecordedIn draft.arcs
  blocks : interpretation.subgraphs.Records Block.RecordedIn draft.blocks
  direction : interpretation.direction = .ofText? draft.direction

/-- An interpretation is no interpretation at all: in the order of vertices, edges and blocks it
comes to something that cannot be gone through, or everything is right but the direction. -/
inductive Interpretation.Mistaken (interpretation : Interpretation) : DiagramError → Prop
  | vertices {typeName : String} (solid : interpretation.vertices.withoutKeys.Solid typeName) :
    Mistaken interpretation (.notIterable typeName)
  | edges {typeName : String} (vertices : List Vertex)
    (first : interpretation.vertices.withoutKeys.Records Vertex.RecordedIn vertices)
    (solid : interpretation.edges.Solid typeName) :
    Mistaken interpretation (.notIterable typeName)
  | subgraphs {typeName : String} (vertices : List Vertex) (arcs : List Arc)
    (first : interpretation.vertices.withoutKeys.Records Vertex.RecordedIn vertices)
    (second : interpretation.edges.Records Arc.RecordedIn arcs)
    (solid : interpretation.subgraphs.Solid typeName) :
    Mistaken interpretation (.notIterable typeName)
  | direction (vertices : List Vertex) (arcs : List Arc) (blocks : List Block)
    (first : interpretation.vertices.withoutKeys.Records Vertex.RecordedIn vertices)
    (second : interpretation.edges.Records Arc.RecordedIn arcs)
    (third : interpretation.subgraphs.Records Block.RecordedIn blocks)
    (other : ∀ text, interpretation.direction ≠ .ofText? text) :
    Mistaken interpretation .directionNotText

/-- The mistake that an error is reported as, unless it is a reason to read in another way. -/
def InterpretationError.mistake? : InterpretationError → Option DiagramError
  | .rejected _ => none
  | .notIterable typeName => some (.notIterable typeName)
  | .directionNotText => some .directionNotText

section Steps

variable {ε α β : Type} {first : Except ε α} {next : α → Except ε β}

/-- Two steps succeed if the first does and the second does on what it found. -/
theorem bind_eq_ok {value : β} :
    (first >>= next) = .ok value ↔ ∃ found, first = .ok found ∧ next found = .ok value := by
  cases first <;> simp [bind, Except.bind]

/-- Two steps fail if the first does, or if the second does on what it found. -/
theorem bind_eq_error {error : ε} :
    (first >>= next) = .error error ↔
      first = .error error ∨ ∃ found, first = .ok found ∧ next found = .error error := by
  cases first <;> simp [bind, Except.bind]

end Steps

section Interpretations

variable {interpretation : Interpretation} {draft : Draft} {error : InterpretationError}

theorem collect_vertices {vertices : List Vertex} :
    collect .vertex interpretation.vertices.withoutKeys = .ok vertices ↔
      interpretation.vertices.withoutKeys.Records Vertex.RecordedIn vertices :=
  collect_eq_ok fun _ _ => Vertex.ofFields_eq_ok

theorem collect_arcs {arcs : List Arc} :
    collect .edge interpretation.edges = .ok arcs ↔
      interpretation.edges.Records Arc.RecordedIn arcs :=
  collect_eq_ok fun _ _ => Arc.ofFields_eq_ok

theorem collect_blocks {blocks : List Block} :
    collect .subgraph interpretation.subgraphs = .ok blocks ↔
      interpretation.subgraphs.Records Block.RecordedIn blocks :=
  collect_eq_ok fun _ _ => Block.ofFields_eq_ok

/-- An interpretation is received as the draft that it holds. -/
theorem toDraft_eq_ok_iff : interpretation.toDraft = .ok draft ↔ interpretation.Holds draft := by
  simp only [Interpretation.toDraft, bind_eq_ok, collect_vertices, collect_arcs, collect_blocks]
  constructor
  · rintro ⟨vertices, first, arcs, second, blocks, third, received⟩
    split at received
    case h_1 direction isText =>
      cases received
      exact ⟨first, second, third, optionalText_eq_ok.mp isText⟩
    case h_2 => cases received
  · rintro ⟨first, second, third, direction⟩
    refine ⟨_, first, _, second, _, third, ?_⟩
    rw [optionalText_eq_ok.mpr direction]

/-- The only mistake in a collection is a value that cannot be gone through. -/
theorem mistake?_of_collect {α : Type} {kind : RecordKind} {ofFields : Keyed Json → Checked α}
    {collection : Collection ofFields} {cause : DiagramError}
    (refused : collect kind collection = .error error)
    (surfaces : error.mistake? = some cause) :
    ∃ typeName, collection.Solid typeName ∧ cause = .notIterable typeName := by
  cases error with
  | rejected reason => cases surfaces
  | notIterable name =>
      cases surfaces
      exact ⟨name, collect_eq_notIterable.mp refused, rfl⟩
  | directionNotText => exact absurd refused collect_ne_directionNotText

/-- The mistakes are the errors that are no reason to read a diagram in another way. -/
theorem mistaken_iff {cause : DiagramError} :
    interpretation.Mistaken cause ↔
      ∃ error, interpretation.toDraft = .error error ∧ error.mistake? = some cause := by
  simp only [Interpretation.toDraft, bind_eq_error, collect_vertices, collect_arcs,
    collect_blocks]
  constructor
  · intro mistaken
    cases mistaken with
    | vertices solid =>
        exact ⟨_, Or.inl (collect_eq_notIterable.mpr solid), rfl⟩
    | edges vertices first solid =>
        exact ⟨_, Or.inr ⟨_, first, Or.inl (collect_eq_notIterable.mpr solid)⟩, rfl⟩
    | subgraphs vertices arcs first second solid =>
        exact ⟨_, Or.inr ⟨_, first, Or.inr ⟨_, second,
          Or.inl (collect_eq_notIterable.mpr solid)⟩⟩, rfl⟩
    | direction vertices arcs blocks first second third other =>
        refine ⟨.directionNotText,
          Or.inr ⟨_, first, Or.inr ⟨_, second, Or.inr ⟨_, third, ?_⟩⟩⟩, rfl⟩
        split
        case h_1 text isText => exact absurd (optionalText_eq_ok.mp isText) (other text)
        case h_2 => rfl
  · rintro ⟨error, refused | ⟨vertices, first, refused | ⟨arcs, second, refused |
      ⟨blocks, third, refused⟩⟩⟩, surfaces⟩
    · obtain ⟨typeName, solid, rfl⟩ := mistake?_of_collect refused surfaces
      exact .vertices solid
    · obtain ⟨typeName, solid, rfl⟩ := mistake?_of_collect refused surfaces
      exact .edges vertices first solid
    · obtain ⟨typeName, solid, rfl⟩ := mistake?_of_collect refused surfaces
      exact .subgraphs vertices arcs first second solid
    · split at refused
      case h_1 => cases refused
      case h_2 faults notText =>
        cases refused
        cases surfaces
        refine .direction vertices arcs blocks first second third fun text same => ?_
        rw [optionalText_eq_ok.mpr same] at notText
        cases notText

end Interpretations

end Flowchart
