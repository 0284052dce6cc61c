import Flowchart.Draft.Basic
import Flowchart.Draft.Error

/-!
Drafts as records: reading the vertices, edges and blocks of a draft from document values, and
writing them as such values.

Main definitions: `Draft.ofDocument`, for a document that holds a whole draft, and
`Interpretation.toDraft`, for the three collections that an interpreter hands over.
-/

namespace Flowchart

open Checked

/-- The record of a vertex. -/
def Vertex.ofFields (fields : Keyed Json) : Checked Vertex :=
  match requiredField nonEmptyText fields "id", fieldOr optionalText none fields "text",
    fieldOr optionalText none fields "shape" with
  | .ok id, .ok text, .ok shape => .ok ⟨id, text, shape⟩
  | id, text, shape => .error (id.faults ++ text.faults ++ shape.faults)

/-- The record of an edge. -/
def Arc.ofFields (fields : Keyed Json) : Checked Arc :=
  match requiredField nonEmptyText fields "start", requiredField nonEmptyText fields "end",
    fieldOr optionalText none fields "text", fieldOr plainText "normal" fields "stroke",
    fieldOr truth true fields "directed" with
  | .ok source, .ok target, .ok text, .ok stroke, .ok directed =>
    .ok ⟨source, target, text, stroke, directed⟩
  | source, target, text, stroke, directed =>
    .error (source.faults ++ target.faults ++ text.faults ++ stroke.faults ++ directed.faults)

/-- The record of a block. -/
def Block.ofFields (fields : Keyed Json) : Checked Block :=
  match requiredField nonEmptyText fields "id", fieldOr optionalText none fields "title",
    fieldOr (listOf plainText) [] fields "nodes" with
  | .ok id, .ok title, .ok members => .ok ⟨id, title, members⟩
  | id, title, members => .error (id.faults ++ title.faults ++ members.faults)

/-- A record read from a value; `otherwise` is the fault of a value without fields. -/
def ofRecord {α : Type} (otherwise : FaultKind) (ofFields : Keyed Json → Checked α) :
    Json → Checked α
  | .obj fields => ofFields fields
  | _ => fault otherwise

/-- A document that holds a draft. -/
def Draft.ofDocument (document : Json) : Checked Draft :=
  ofRecord .notInstance (fun fields =>
    match fieldOr optionalText none fields "direction",
      fieldOr (listOf (ofRecord .notInstance Vertex.ofFields)) [] fields "vertices",
      fieldOr (listOf (ofRecord .notInstance Arc.ofFields)) [] fields "edges",
      fieldOr (listOf (ofRecord .notInstance Block.ofFields)) [] fields "subgraphs" with
    | .ok direction, .ok vertices, .ok arcs, .ok blocks =>
      .ok ⟨direction, vertices, arcs, blocks⟩
    | direction, vertices, arcs, blocks =>
      .error (direction.faults ++ vertices.faults ++ arcs.faults ++ blocks.faults)) document

/-! ### Writing records -/

/-- A vertex as a record. -/
def Vertex.toJson (vertex : Vertex) : Json :=
  .obj [("id", .str vertex.id), ("text", .ofText? vertex.text), ("shape", .ofText? vertex.shape)]

/-- An edge as a record. -/
def Arc.toJson (arc : Arc) : Json :=
  .obj [("start", .str arc.source), ("end", .str arc.target), ("text", .ofText? arc.text),
    ("stroke", .str arc.stroke), ("directed", .bool arc.directed)]

/-- A block as a record. -/
def Block.toJson (block : Block) : Json :=
  .obj [("id", .str block.id), ("title", .ofText? block.title),
    ("nodes", .arr (block.members.map Json.str))]

/-- A draft as a document. -/
def Draft.toDocument (draft : Draft) : Json :=
  .obj [("direction", .ofText? draft.direction),
    ("vertices", .arr (draft.vertices.map Vertex.toJson)),
    ("edges", .arr (draft.arcs.map Arc.toJson)),
    ("subgraphs", .arr (draft.blocks.map Block.toJson))]

/-! ### Interpretations -/

section Collections

variable {α : Type}

/-- A record as an interpreter hands it over. -/
inductive Record (ofFields : Keyed Json → Checked α) where
  /-- A plain value. Only an object can be a record. -/
  | value (value : Json)
  /-- An object that has attributes in the place of fields. -/
  | object (attributes : Keyed Json)
  /-- A record that has been checked when it was made. -/
  | made (attributes : Keyed Json) (record : α) (accepted : ofFields attributes = .ok record)

/-- The value of a record. One that has been checked before is taken as it is. -/
def Record.check {ofFields : Keyed Json → Checked α} : Record ofFields → Checked α
  | value plain => ofRecord .notRecord ofFields plain
  | object attributes => ofFields attributes
  | made _ record _ => .ok record

/-- A collection of records as an interpreter hands it over: a plain value, or records in a list or
under keys. -/
inductive Collection (ofFields : Keyed Json → Checked α) where
  | value (collection : Json)
  | list (records : List (Record ofFields))
  | keyed (records : Keyed (Record ofFields))

instance {ofFields : Keyed Json → Checked α} : Coe Json (Collection ofFields) :=
  ⟨Collection.value⟩

instance {ofFields : Keyed Json → Checked α} : Inhabited (Collection ofFields) :=
  ⟨.value .null⟩

/-- The items of a value that is gone through. An absent value has none, an object has its keys,
and a text its characters; a number has no items at all. -/
def Json.items (collection : Json) : Except String (List Json) :=
  if collection.isVoid then .ok []
  else match collection with
    | .arr items => .ok items
    | .obj fields | .escaped fields => .ok (fields.map fun entry => .str entry.1)
    | .str text => .ok (text.toList.map fun c => .str (String.singleton c))
    | value => .error value.typeName

/-- The records of a collection. Those under keys give their keys. -/
def Collection.records {ofFields : Keyed Json → Checked α} :
    Collection ofFields → Except String (List (Record ofFields))
  | value plain => plain.items.map fun items => items.map Record.value
  | list records => .ok records
  | keyed records => .ok (records.map fun entry => .value (.str entry.1))

/-- A collection in which records may stand under keys that do not matter. -/
def Collection.withoutKeys {ofFields : Keyed Json → Checked α} :
    Collection ofFields → Collection ofFields
  | value (.obj fields) => .value (.arr (Keyed.values fields))
  | keyed records => .list (Keyed.values records)
  | collection => collection

end Collections

/-- What an interpreter hands over: a direction and three collections of records, none of them
checked. -/
structure Interpretation where
  direction : Json := .null
  vertices : Collection Vertex.ofFields := .value .null
  edges : Collection Arc.ofFields := .value .null
  subgraphs : Collection Block.ofFields := .value .null
deriving Inhabited

/-- Why an interpretation is no draft. An invalid record is a reason to read the diagram in
another way; the other two are mistakes of whoever wrote the interpreter. -/
inductive InterpretationError where
  | rejected (cause : ParseError)
  | notIterable (typeName : String)
  | directionNotText
deriving Repr, Inhabited, DecidableEq

/-- Check records one after the other up to the first invalid one. -/
def checkRecords {α : Type} {ofFields : Keyed Json → Checked α} (kind : RecordKind) :
    Nat → List (Record ofFields) → Except InterpretationError (List α)
  | _, [] => .ok []
  | position, record :: records =>
    match record.check with
    | .error faults => .error (.rejected (.invalidRecord kind position faults))
    | .ok value =>
      match checkRecords kind (position + 1) records with
      | .ok values => .ok (value :: values)
      | .error cause => .error cause

/-- The values of the records of a collection. -/
def collect {α : Type} {ofFields : Keyed Json → Checked α} (kind : RecordKind)
    (collection : Collection ofFields) : Except InterpretationError (List α) :=
  match collection.records with
  | .error typeName => .error (.notIterable typeName)
  | .ok records => checkRecords kind 0 records

/-- The draft of an interpretation. Vertices are checked before edges and edges before blocks. -/
def Interpretation.toDraft (interpretation : Interpretation) :
    Except InterpretationError Draft := do
  let vertices ← collect .vertex interpretation.vertices.withoutKeys
  let arcs ← collect .edge interpretation.edges
  let blocks ← collect .subgraph interpretation.subgraphs
  match optionalText interpretation.direction with
  | .ok direction => .ok ⟨direction, vertices, arcs, blocks⟩
  | .error _ => .error .directionNotText

/-- A draft as an interpreter hands it over, its vertices under their ids. -/
def Draft.toInterpretation (draft : Draft) : Interpretation where
  direction := .ofText? draft.direction
  vertices := .value (.obj (draft.vertices.map fun vertex => (vertex.id, vertex.toJson)))
  edges := .value (.arr (draft.arcs.map Arc.toJson))
  subgraphs := .value (.arr (draft.blocks.map Block.toJson))

end Flowchart
