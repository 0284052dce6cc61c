import Flowchart.Proofs.Graph.Reading
import Flowchart.Proofs.Keyed

/-!
Whole numbers as ids and as references.

A document may number its nodes. The id of a node is the text of its number, but a parent or an end
of an edge that is a number is compared as a number, and so it names no node: the node stays where
it is, and the edge is dropped. Without such references, a document and the one with all its numbers
spelled out hold the same graph. Parents and ends that are texts name nodes by their ids.

A number with more digits than may be written has no text. A document in which such a number is the
id of a node has no graph, so that the law is about all other documents.

Main definitions: `Json.spelledOut`, `Json.withoutNumericReferences`, `Json.IdsWithin`,
`Graph.Resolves`. Main statement: `ofJson_references`.
-/

namespace Flowchart

namespace Json

/-! ### Changed records -/

/-- Change what stands under some keys of an object. -/
def mapFields (keys : List String) (change : Json → Json) : Json → Json
  | obj fields => obj (fields.map fun entry =>
      (entry.1, if keys.contains entry.1 then change entry.2 else entry.2))
  | value => value

/-- Change the items of an array. -/
def mapItems (change : Json → Json) : Json → Json
  | arr items => arr (items.map change)
  | value => value

/-- Change the node records and the edge records of a document. -/
def mapRecords (changeNode changeEdge : Json → Json) (document : Json) : Json :=
  (document.mapFields ["nodes"] (mapItems changeNode)).mapFields ["edges"] (mapItems changeEdge)

/-- A whole number as its text, but zero, which counts as absent. -/
def spelled : Json → Json
  | int value => if value = 0 then int value else str (Decimal.intText value)
  | value => value

/-- A document with all numbers spelled out that are ids of nodes, parents or ends of edges. -/
def spelledOut (document : Json) : Json :=
  document.mapRecords (mapFields ["id", "parent_id", "parentId"] spelled)
    (mapFields ["source", "from", "target", "to"] spelled)

/-- Whether a value is a whole number. -/
def isWhole : Json → Bool
  | int _ => true
  | _ => false

/-- A node record without its parent if that is a number. -/
def withoutNumericParent (record : Json) : Json :=
  if (record.eitherField "parent_id" "parentId").any isWhole then
    record.mapFields ["parent_id", "parentId"] fun _ => null
  else record

/-- Whether a number is the first end of an edge record that is no text. -/
def endsInNumber (record : Json) : Bool :=
  match record.eitherField "source" "from", record.eitherField "target" "to" with
  | some (str _), some target => target.isWhole
  | some source, some _ => source.isWhole
  | _, _ => false

/-- A document without parents that are numbers and without edges that end in a number. -/
def withoutNumericReferences (document : Json) : Json :=
  document.mapRecords withoutNumericParent fun record =>
    if record.endsInNumber then null else record

/-- Whether a value is no whole number with more digits than may be written. -/
def isWithin (limits : Limits) : Json → Bool
  | int value => !exceeds limits.digits (Decimal.natDigits value.natAbs).length
  | _ => true

/-- Every number that is the id of a node has digits that may be written. -/
def IdsWithin (limits : Limits) (document : Json) : Prop :=
  ∀ records, document.records "nodes" = .ok records →
    ∀ record ∈ records, ∀ id ∈ (record.field "id").given?, id.isWithin limits = true

/-- Changing some fields changes what they hold, and not which fields there are. -/
theorem field?_mapFields (keys : List String) (change : Json → Json) (key : String)
    (record : Json) : (record.mapFields keys change).field? key =
      (record.field? key).map fun value => if keys.contains key then change value else value := by
  cases record with
  | obj fields =>
      exact Keyed.find?_map
        (fun key value => if keys.contains key then change value else value) key fields
  | null | bool | int | float | str | arr | escaped => rfl

theorem field?_mapFields_of_notMem {keys : List String} {key : String} (change : Json → Json)
    (record : Json) (absent : key ∉ keys) :
    (record.mapFields keys change).field? key = record.field? key := by
  rw [field?_mapFields]
  simp [absent]

/-- The other fields are left alone. -/
theorem field_mapFields_of_notMem {keys : List String} {key : String} (change : Json → Json)
    (record : Json) (absent : key ∉ keys) :
    (record.mapFields keys change).field key = record.field key := by
  rw [field, field?_mapFields_of_notMem change record absent, field]

/-- A field that is changed is also changed where it is missing, if null stays null. -/
theorem field_mapFields_of_mem {keys : List String} {key : String} {change : Json → Json}
    (record : Json) (voidless : change null = null) (listed : key ∈ keys) :
    (record.mapFields keys change).field key = change (record.field key) := by
  unfold field
  rw [field?_mapFields]
  cases record.field? key with
  | none => exact voidless.symm
  | some value => simp [listed]

theorem mapItems_mapItems (change after : Json → Json) (collection : Json) :
    (collection.mapItems change).mapItems after = collection.mapItems (after ∘ change) := by
  cases collection with
  | arr items => exact congrArg arr List.map_map
  | null | bool | int | float | str | obj | escaped => rfl

/-- Changing records twice is changing them once by both changes. -/
theorem mapRecords_mapRecords (changeNode changeEdge nodeAfter edgeAfter : Json → Json)
    (document : Json) :
    (document.mapRecords changeNode changeEdge).mapRecords nodeAfter edgeAfter =
      document.mapRecords (nodeAfter ∘ changeNode) (edgeAfter ∘ changeEdge) := by
  cases document with
  | obj fields =>
      simp only [mapRecords, mapFields, List.map_map]
      congr 1
      apply List.map_congr_left
      intro entry _
      by_cases nodes : entry.1 = "nodes"
      · simp [nodes, mapItems_mapItems]
      · by_cases edges : entry.1 = "edges"
        · simp [edges, mapItems_mapItems]
        · simp [nodes, edges]
  | null | bool | int | float | str | arr | escaped => rfl

/-- What is no array has no items that change. -/
theorem map_items {change : Json → Json} (texts : ∀ text, change (str text) = str text)
    {collection : Json} (single : ∀ items, collection ≠ arr items) :
    List.map change <$> collection.items = collection.items := by
  have unchanged : ∀ (α : Type) (parts : List α) (text : α → String),
      (parts.map fun part => str (text part)).map change =
        parts.map fun part => str (text part) := by
    intro α parts text
    rw [List.map_map]
    exact List.map_congr_left fun part _ => texts (text part)
  unfold items
  split
  case isTrue => rfl
  case isFalse =>
    cases collection with
    | arr items => exact absurd rfl (single items)
    | obj fields | escaped fields => exact congrArg Except.ok (unchanged _ _ _)
    | str text => exact congrArg Except.ok (unchanged _ _ _)
    | null | bool | int | float => rfl

theorem mapItems_single (change : Json → Json) {collection : Json}
    (single : ∀ items, collection ≠ arr items) : collection.mapItems change = collection := by
  cases collection with
  | arr items => exact absurd rfl (single items)
  | null | bool | int | float | str | obj | escaped => rfl

/-- The items of a changed collection are the changed items. -/
theorem items_mapItems {change : Json → Json} (texts : ∀ text, change (str text) = str text)
    (collection : Json) :
    (collection.mapItems change).items = List.map change <$> collection.items := by
  by_cases several : ∃ items, collection = arr items
  · obtain ⟨items, rfl⟩ := several
    cases items <;> rfl
  · have single := not_exists.mp several
    rw [map_items texts single, mapItems_single change single]

/-- The records of a document are the items of its field. -/
theorem records_eq (key : String) (document : Json) :
    document.records key = (document.field key).items.mapError .notIterable := by
  unfold records
  cases (document.field key).items <;> rfl

/-- The records of a changed document are the changed records. -/
theorem records_mapRecords {changeNode changeEdge : Json → Json}
    (textNode : ∀ text, changeNode (str text) = str text)
    (textEdge : ∀ text, changeEdge (str text) = str text) (document : Json) :
    (document.mapRecords changeNode changeEdge).records "nodes" =
        List.map changeNode <$> document.records "nodes" ∧
      (document.mapRecords changeNode changeEdge).records "edges" =
        List.map changeEdge <$> document.records "edges" := by
  have nodes : (document.mapRecords changeNode changeEdge).field "nodes" =
      (document.field "nodes").mapItems changeNode := by
    rw [mapRecords, field_mapFields_of_notMem _ _ (by decide)]
    exact field_mapFields_of_mem document rfl (by decide)
  have edges : (document.mapRecords changeNode changeEdge).field "edges" =
      (document.field "edges").mapItems changeEdge := by
    rw [mapRecords, field_mapFields_of_mem _ rfl (by decide),
      field_mapFields_of_notMem _ _ (by decide)]
  simp only [records_eq, nodes, edges, items_mapItems textNode, items_mapItems textEdge]
  constructor
  · cases (document.field "nodes").items <;> rfl
  · cases (document.field "edges").items <;> rfl

/-! ### Numbers spelled out -/

/-- A whole number shows its digits, if there are not too many of them. -/
theorem toText_int {limits : Limits} {value : Int}
    (within : exceeds limits.digits (Decimal.natDigits value.natAbs).length = false) :
    (int value).toText limits = .ok (Decimal.intText value) :=
  shown_eq_ok_iff.mpr ⟨Limits.digitExcess?_eq_none.mpr within, rfl⟩

/-- A whole number within the limits has the text of its spelling. -/
theorem toText_spelled {limits : Limits} {value : Json} (within : value.isWithin limits = true) :
    value.spelled.toText limits = value.toText limits := by
  cases value with
  | int value =>
      simp only [spelled]
      split
      case isTrue => rfl
      case isFalse => exact (toText_int (by simpa [isWithin] using within)).symm
  | null | bool | float | str | arr | obj | escaped => rfl

/-- Only a value within the limits has a text. -/
theorem isWithin_of_toText {limits : Limits} {value : Json} {text : String}
    (shown : value.toText limits = .ok text) : value.isWithin limits = true := by
  cases value with
  | int value =>
      have within := (shown_eq_ok_iff.mp shown).1
      simpa [isWithin] using Limits.digitExcess?_eq_none.mp within
  | null | bool | float | str | arr | obj | escaped => rfl

/-- Only whole numbers are spelled out. -/
theorem spelled_of_not_whole {value : Json} (other : value.isWhole = false) :
    value.spelled = value := by
  cases value with
  | int => cases other
  | null | bool | float | str | arr | obj | escaped => rfl

/-- Spelling out keeps what is absent, and what is given. -/
theorem given?_spelled (value : Json) : value.spelled.given? = value.given?.map spelled := by
  cases whole : value.isWhole with
  | false =>
      rw [spelled_of_not_whole whole]
      cases given : value.given? with
      | none => rfl
      | some same =>
          obtain ⟨rfl, -⟩ := given?_eq_some.mp given
          exact congrArg some (spelled_of_not_whole whole).symm
  | true =>
      cases value with
      | int value =>
          have shown : Decimal.intText value ≠ "" := Decimal.intText_ne_empty value
          by_cases zero : value = 0
          · subst zero
            rfl
          · simp [given?, isVoid, zero, shown, spelled]
      | null | bool | float | str | arr | obj | escaped => cases whole

/-- Where both names of a field are spelled out, so is what is found under either. -/
theorem eitherField_mapFields_spelled {keys : List String} {first second : String}
    (isFirst : first ∈ keys) (isSecond : second ∈ keys) (record : Json) :
    (record.mapFields keys spelled).eitherField first second =
      (record.eitherField first second).map spelled := by
  unfold eitherField
  rw [field_mapFields_of_mem record rfl isFirst, field_mapFields_of_mem record rfl isSecond,
    given?_spelled, given?_spelled]
  cases (record.field first).given? <;> rfl

/-! ### Node records -/

theorem isObject_mapFields (keys : List String) (change : Json → Json) (record : Json) :
    (record.mapFields keys change).isObject = record.isObject := by
  cases record <;> rfl

theorem field_withoutNumericParent {key : String} (record : Json)
    (other : key ∉ ["parent_id", "parentId"]) :
    record.withoutNumericParent.field key = record.field key := by
  unfold withoutNumericParent
  split
  case isTrue => exact field_mapFields_of_notMem _ record other
  case isFalse => rfl

/-- A parent that is a number is taken out. -/
theorem parent_withoutNumericParent (record : Json) :
    record.withoutNumericParent.eitherField "parent_id" "parentId" =
      (record.eitherField "parent_id" "parentId").filter fun parent => !parent.isWhole := by
  cases named : record.eitherField "parent_id" "parentId" with
  | none => simp [withoutNumericParent, named]
  | some parent =>
      cases whole : parent.isWhole with
      | false => simp [withoutNumericParent, named, whole, Option.filter_some]
      | true =>
          have erased : record.withoutNumericParent =
              record.mapFields ["parent_id", "parentId"] fun _ => null := by
            simp [withoutNumericParent, named, whole]
          rw [erased, eitherField, field_mapFields_of_mem record rfl (by decide),
            field_mapFields_of_mem record rfl (by decide)]
          simp [given?, isVoid, whole, Option.filter_some]

/-- A node record with its numbers spelled out, but without a parent that is a number. -/
def settledNode (record : Json) : Json :=
  record.withoutNumericParent.mapFields ["id", "parent_id", "parentId"] spelled

theorem field_settledNode {key : String} (record : Json)
    (other : key ∉ ["id", "parent_id", "parentId"]) :
    record.settledNode.field key = record.field key := by
  rw [settledNode, field_mapFields_of_notMem _ _ other,
    field_withoutNumericParent _ (fun listed => other (List.mem_cons_of_mem _ listed))]

/-- A record wants the same id after its numbers have been settled. -/
theorem wantedId_settledNode {limits : Limits} {record : Json}
    (within : ∀ id ∈ (record.field "id").given?, id.isWithin limits = true) (position : Nat) :
    wantedId limits position record.settledNode = wantedId limits position record := by
  have id : record.settledNode.field "id" = (record.field "id").spelled := by
    rw [settledNode, field_mapFields_of_mem _ rfl (by decide),
      field_withoutNumericParent _ (by decide)]
  rw [wantedId, id, textOr, given?_spelled, wantedId, textOr]
  cases given : (record.field "id").given? with
  | none => rfl
  | some id =>
      exact congrArg (Except.mapError DocumentError.excess) (toText_spelled (within id given))

/-- An id that is asked for is within the limits. -/
theorem isWithin_of_wantedId {limits : Limits} {position : Nat} {record : Json} {wanted : String}
    (asked : wantedId limits position record = .ok wanted) :
    ∀ id ∈ (record.field "id").given?, id.isWithin limits = true := by
  intro id isGiven
  rcases textOr_eq_ok.mp asked with ⟨missing, -⟩ | ⟨given, same, shown⟩
  · cases missing.symm.trans isGiven
  · cases same.symm.trans isGiven
    exact isWithin_of_toText shown

/-- After that a parent that is a number is gone. -/
theorem parent_settledNode (record : Json) :
    record.settledNode.eitherField "parent_id" "parentId" =
      (record.eitherField "parent_id" "parentId").filter fun parent => !parent.isWhole := by
  rw [settledNode, eitherField_mapFields_spelled (by decide) (by decide),
    parent_withoutNumericParent]
  cases record.eitherField "parent_id" "parentId" with
  | none => rfl
  | some parent =>
      cases whole : parent.isWhole with
      | true => simp [whole, Option.filter_some]
      | false => simp [whole, Option.filter_some, spelled_of_not_whole whole]

theorem isObject_settledNode (record : Json) : record.settledNode.isObject = record.isObject := by
  rw [settledNode, isObject_mapFields, withoutNumericParent]
  split
  case isTrue => exact isObject_mapFields _ _ record
  case isFalse => rfl

end Json

namespace LooseNode

/-- A node whose parent is still to be checked, without the parent if that is a number. -/
def settled (loose : LooseNode) : LooseNode :=
  { loose with parent := loose.parent.filter fun parent => !parent.isWhole }

/-- Settling the numbers of a record changes nothing else about the node that is read. -/
theorem ofRecord_settledNode (limits : Limits) (id : String) (record : Json) :
    ofRecord limits id record.settledNode = settled <$> ofRecord limits id record := by
  simp (disch := decide) only [ofRecord, Json.field_settledNode, Json.parent_settledNode,
    map_bind]
  rfl

/-- The nodes of settled records are the settled nodes, under the same ids. -/
theorem ofRecords_settledNode {limits : Limits} {records : List Json}
    (within : ∀ record ∈ records, ∀ id ∈ (record.field "id").given?, id.isWithin limits = true)
    (used : List String) (position : Nat) :
    ofRecords limits used position (records.map Json.settledNode) =
      List.map settled <$> ofRecords limits used position records := by
  induction records generalizing used position with
  | nil => rfl
  | cons record records ih =>
      obtain ⟨own, others⟩ := List.forall_mem_cons.mp within
      have kept := record.isObject_settledNode
      rw [List.map_cons]
      cases object : record.isObject with
      | false =>
          rw [object] at kept
          rw [ofRecords_cons_other kept, ofRecords_cons_other object, ih others]
      | true =>
          rw [object] at kept
          rw [ofRecords_cons_obj kept, ofRecords_cons_obj object, Json.wantedId_settledNode own]
          simp only [ofRecord_settledNode, ih others, bind_map_left, map_bind]
          rfl

/-- A parent that is a number names no group. -/
theorem attach_settled (groupIds : List String) (loose : LooseNode) :
    loose.settled.attach groupIds = loose.attach groupIds := by
  obtain ⟨node, named⟩ := loose
  cases named with
  | none => rfl
  | some parent =>
      cases parent with
      | int | null | bool | float | str | arr | obj | escaped => rfl

theorem filter_isGroup_settled (loose : List LooseNode) :
    ((loose.map settled).filter fun loose => loose.node.isGroup).map (fun loose => loose.node.id) =
      (loose.filter fun loose => loose.node.isGroup).map fun loose => loose.node.id := by
  rw [List.filter_map, List.map_map]
  rfl

/-- Nodes are attached alike whether parents that are numbers are there or not. -/
theorem mapM_attach_settled (groupIds : List String) (loose : List LooseNode) :
    (loose.map settled).mapM (attach groupIds) = loose.mapM (attach groupIds) := by
  induction loose with
  | nil => rfl
  | cons first loose ih => rw [List.map_cons, List.mapM_cons, List.mapM_cons, ih, attach_settled]

end LooseNode

/-! ### Edge records -/

namespace Json

/-- An edge record with its numbers spelled out, or nothing if it ends in a number. -/
def settledEdge (record : Json) : Json :=
  (if record.endsInNumber then null else record).mapFields ["source", "from", "target", "to"]
    spelled

/-- A whole number is never found among ids, which are texts. -/
theorem isOneOf_whole {value : Json} (whole : value.isWhole = true) (ids : List String) :
    value.isOneOf ids = .ok false := by
  cases value with
  | int => rfl
  | null | bool | float | str | arr | obj | escaped => cases whole

end Json

namespace Edge

/-- An edge that ends in a number is dropped. -/
theorem ofRecord?_of_endsInNumber {record : Json} (ends : record.endsInNumber = true)
    (limits : Limits) (nodeIds : List String) (position : Nat) :
    ofRecord? limits nodeIds position record = .ok none := by
  unfold ofRecord?
  cases source : record.eitherField "source" "from" with
  | none => rfl
  | some first =>
      cases target : record.eitherField "target" "to" with
      | none => rfl
      | some second =>
          simp only [Json.endsInNumber, source, target] at ends
          cases first with
          | str text =>
              have absent : second.isOneOf nodeIds = .ok false := Json.isOneOf_whole ends nodeIds
              have found : (Json.str text).isOneOf nodeIds = .ok (nodeIds.contains text) := rfl
              simp only [found, absent]
              cases nodeIds.contains text <;> rfl
          | int | null | bool | float | arr | obj | escaped =>
              simp only [Json.isOneOf_whole ends]

/-- What is no number stays the same when numbers are spelled out. -/
theorem ofRecord?_spelled {record : Json} (ends : record.endsInNumber = false)
    (limits : Limits) (nodeIds : List String) (position : Nat) :
    ofRecord? limits nodeIds position
        (record.mapFields ["source", "from", "target", "to"] Json.spelled) =
      ofRecord? limits nodeIds position record := by
  simp (disch := decide) only [ofRecord?, ofEnds, Json.eitherField_mapFields_spelled,
    Json.field_mapFields_of_notMem, Json.field?_mapFields_of_notMem]
  cases source : record.eitherField "source" "from" with
  | none => rfl
  | some first =>
      cases target : record.eitherField "target" "to" with
      | none => rfl
      | some second =>
          simp only [Json.endsInNumber, source, target] at ends
          cases first with
          | str text =>
              rw [Option.map_some, Option.map_some, Json.spelled_of_not_whole ends]
              rfl
          | int => cases ends
          | null | bool | float | arr | obj | escaped => rfl

/-- Settled records have the same edges. -/
theorem ofRecords_settledEdge (limits : Limits) (nodeIds : List String) (position : Nat)
    (records : List Json) :
    ofRecords limits nodeIds position (records.map Json.settledEdge) =
      ofRecords limits nodeIds position records := by
  induction records generalizing position with
  | nil => rfl
  | cons record records ih =>
      rw [List.map_cons]
      cases ends : record.endsInNumber with
      | true =>
          have dropped : record.settledEdge = .null := by
            rw [Json.settledEdge, if_pos ends]
            rfl
          rw [dropped, ofRecords_cons_other rfl, ih]
          cases object : record.isObject with
          | false => exact (ofRecords_cons_other object records).symm
          | true =>
              rw [ofRecords_cons_obj object, ofRecord?_of_endsInNumber ends]
              cases ofRecords limits nodeIds (position + 1) records <;> rfl
      | false =>
          have spelled : record.settledEdge =
              record.mapFields ["source", "from", "target", "to"] Json.spelled := by
            rw [Json.settledEdge, ends, if_neg Bool.false_ne_true]
          have kept := record.isObject_mapFields ["source", "from", "target", "to"] Json.spelled
          rw [spelled]
          cases object : record.isObject with
          | false =>
              rw [object] at kept
              rw [ofRecords_cons_other kept, ofRecords_cons_other object, ih]
          | true =>
              rw [object] at kept
              rw [ofRecords_cons_obj kept, ofRecords_cons_obj object, ofRecord?_spelled ends, ih]

end Edge

/-- A document holds the same graph without its numeric references and with the other numbers
spelled out. -/
theorem Graph.ofJson_spelledOut {limits : Limits} {document : Json}
    (within : document.IdsWithin limits) :
    Graph.ofJson limits document =
      Graph.ofJson limits document.withoutNumericReferences.spelledOut := by
  have settled : document.withoutNumericReferences.spelledOut =
      document.mapRecords Json.settledNode Json.settledEdge :=
    Json.mapRecords_mapRecords _ _ _ _ document
  have textNode : ∀ text, Json.settledNode (.str text) = .str text := fun _ => rfl
  have textEdge : ∀ text, Json.settledEdge (.str text) = .str text := fun _ => rfl
  obtain ⟨nodes, edges⟩ := Json.records_mapRecords textNode textEdge document
  have direction : (document.mapRecords Json.settledNode Json.settledEdge).field "direction" =
      document.field "direction" := by
    rw [Json.mapRecords, Json.field_mapFields_of_notMem _ _ (by decide),
      Json.field_mapFields_of_notMem _ _ (by decide)]
  have object : (document.mapRecords Json.settledNode Json.settledEdge).isObject =
      document.isObject := by
    rw [Json.mapRecords, Json.isObject_mapFields, Json.isObject_mapFields]
  rw [settled]
  unfold Graph.ofJson
  cases isObject : document.isObject with
  | false =>
      have same : document.mapRecords Json.settledNode Json.settledEdge = document := by
        cases document with
        | obj => cases isObject
        | null | bool | int | float | str | arr | escaped => rfl
      rw [same, isObject]
  | true =>
      rw [isObject] at object
      simp only [object, if_true, nodes, edges, direction, bind_map_left]
      cases areNodes : document.records "nodes" with
      | error => rfl
      | ok records =>
          change (pure records >>= _) = (pure records >>= _)
          simp only [pure_bind, LooseNode.ofRecords_settledNode (within records areNodes),
            bind_map_left, LooseNode.filter_isGroup_settled, LooseNode.mapM_attach_settled,
            Edge.ofRecords_settledEdge]

/-! ### Texts as references -/

/-- The parent that a record gives to a node: the group that it names by a text, unless the node is
that group or a group itself. -/
def parentAmong (groupIds : List String) (record : Json) (node : Node Float) : Option String :=
  ((record.eitherField "parent_id" "parentId").bind Json.text?).filter fun parent =>
    parent != node.id && groupIds.contains parent && !node.isGroup

/-- The parents and edges of a graph are all those that records name by texts. -/
structure Graph.Resolves (limits : Limits) (nodeRecords edgeRecords : List Json)
    (graph : Graph Float) : Prop where
  parents : List.Forall₂
    (fun entry node => node.parent = parentAmong (graph.groups.map Node.id) entry.1 node)
    (objectsAt 0 nodeRecords) graph.nodes
  edges : List.Forall₂ (fun entry edge => edge.ReadFrom limits entry.2 entry.1)
    ((objectsAt 0 edgeRecords).filter fun entry => joinsNodes (graph.nodes.map Node.id) entry.1)
    graph.edges

namespace LooseNode

variable {limits : Limits} {groupIds : List String}

/-- A text names a parent if it is the id of a group, is not the own id, and the node is no
group. -/
theorem attach_str (groupIds : List String) (node : Node Float) (text : String) :
    attach groupIds ⟨node, some (.str text)⟩ =
      if text = node.id then .ok node
      else if groupIds.contains text && !node.isGroup then .ok { node with parent := some text }
      else .ok node := by
  by_cases own : text = node.id <;> simp [attach, Json.text?, Json.isOneOf, own]

/-- A node gets the parent that its record names, whenever that may be its parent. -/
theorem attach_parent {loose : LooseNode} {node : Node Float}
    (attached : loose.attach groupIds = .ok node) (parentless : loose.node.parent = none) :
    node.parent = (loose.parent.bind Json.text?).filter fun parent =>
      parent != loose.node.id && groupIds.contains parent && !loose.node.isGroup := by
  obtain ⟨old, named⟩ := loose
  cases named with
  | none =>
      cases attached
      exact parentless
  | some parent =>
      cases parent with
      | str text =>
          rw [attach_str] at attached
          rw [Option.bind_some, Json.text?, Option.filter_some]
          split at attached
          case isTrue own =>
            cases attached
            simpa [own] using parentless
          case isFalse foreign =>
            have differs : (text != old.id) = true := by simpa using foreign
            rw [differs, Bool.true_and]
            split at attached
            case isTrue may =>
              cases attached
              exact (if_pos may).symm
            case isFalse mayNot =>
              cases attached
              rw [if_neg mayNot]
              exact parentless
      | int | null | bool | float =>
          cases attached
          exact parentless
      | arr | obj | escaped => cases attached

/-- Nodes that have been attached have the parents that their records name. -/
theorem attach_parents {entries : List (Json × Nat)} {loose : List LooseNode}
    {nodes : List (Node Float)}
    (read : List.Forall₂
      (fun entry node => LooseNode.ofRecord limits node.node.id entry.1 = .ok node) entries loose)
    (attached : List.Forall₂ (fun node attached => node.attach groupIds = .ok attached)
      loose nodes) :
    List.Forall₂ (fun entry node => node.parent = parentAmong groupIds entry.1 node) entries
      nodes := by
  induction read generalizing nodes with
  | nil =>
      cases attached
      exact .nil
  | @cons entry first entries others isRead _ ih =>
      cases attached with
      | @cons _ node _ nodes isAttached areAttached =>
          obtain ⟨_, parentless, named⟩ := ofRecord_eq_ok isRead
          obtain ⟨own, -⟩ := attach_eq_ok isAttached parentless
          have sameId : node.id = first.node.id := by rw [own]
          have sameGroup : node.isGroup = first.node.isGroup := by rw [own]; rfl
          refine .cons ?_ (ih areAttached)
          rw [parentAmong, sameId, sameGroup, ← named]
          exact attach_parent isAttached parentless

end LooseNode

/-- Every record asks for an id that has a text. -/
theorem Allotted.asked {limits : Limits} {used ids : List String} {entries : List (Json × Nat)}
    (allotted : Allotted limits used entries ids) :
    ∀ entry ∈ entries, ∃ wanted, wantedId limits entry.2 entry.1 = .ok wanted := by
  induction allotted with
  | nil => simp
  | cons asked _ _ ih => exact List.forall_mem_cons.mpr ⟨⟨_, asked⟩, ih⟩

theorem mem_objectsAt {record : Json} (object : record.isObject = true) {records : List Json}
    (member : record ∈ records) (position : Nat) :
    ∃ place, (record, place) ∈ objectsAt position records := by
  obtain ⟨index, isRecord⟩ := List.getElem?_of_mem member
  refine ⟨position + index, List.mem_filter.mpr ⟨?_, object⟩⟩
  exact List.mk_add_mem_zipIdx_iff_getElem?.mpr isRecord

section Read

variable {limits : Limits} {document : Json} {graph : Graph Float}
  (read : Graph.ofJson limits document = .ok graph)

include read

/-- A document with a graph has no ids beyond the limits. -/
theorem Graph.idsWithin_ofJson : document.IdsWithin limits := by
  obtain ⟨nodeRecords, _, areNodes, -, fromRecords⟩ := Graph.readFrom_ofJson read
  intro records areRecords record member id isGiven
  cases areNodes.symm.trans areRecords
  cases object : record.isObject with
  | false =>
      rw [Json.field_of_other object] at isGiven
      cases isGiven
  | true =>
      obtain ⟨place, listed⟩ := mem_objectsAt object member 0
      obtain ⟨wanted, asked⟩ := fromRecords.ids.asked _ listed
      exact Json.isWithin_of_wantedId asked id isGiven

/-- What is read resolves the texts among the references. -/
theorem Graph.resolves_ofJson :
    ∃ nodeRecords edgeRecords, document.records "nodes" = .ok nodeRecords ∧
      document.records "edges" = .ok edgeRecords ∧
      graph.Resolves limits nodeRecords edgeRecords := by
  obtain ⟨nodeRecords, edgeRecords, loose, areNodes, areEdges, isRead, attached, joined, -⟩ :=
    Graph.ofJson_eq_ok read
  have fromRecords := (LooseNode.ofRecords_eq_ok isRead).2
  have eachAttached := forall₂_of_mapM_eq_ok attached
  obtain ⟨-, same, -⟩ := LooseNode.attach_all fromRecords eachAttached
  have parents := LooseNode.attach_parents fromRecords eachAttached
  have groups : (loose.filter fun loose => loose.node.isGroup).map (fun loose => loose.node.id) =
      graph.groups.map Node.id := by
    have kept := congrArg (fun nodes => (nodes.filter Node.isGroup).map Node.id) same
    rw [List.filter_map, List.map_map, List.filter_map, List.map_map] at kept
    exact kept
  rw [groups] at parents
  exact ⟨nodeRecords, edgeRecords, areNodes, areEdges, parents, Edge.ofRecords_eq_ok joined⟩

end Read

/-- As an id, a whole number counts as its text; as a parent or an end of an edge, it counts as
nothing. As a text, each parent and end names the node with that id. This is so for every document
whose ids have no more digits than may be written, and only such a document has a graph. -/
theorem Graph.ofJson_references (limits : Limits) (document : Json) :
    (document.IdsWithin limits →
      Graph.ofJson limits document =
        Graph.ofJson limits document.withoutNumericReferences.spelledOut) ∧
      ∀ graph, Graph.ofJson limits document = .ok graph →
        document.IdsWithin limits ∧
          ∃ nodeRecords edgeRecords, document.records "nodes" = .ok nodeRecords ∧
            document.records "edges" = .ok edgeRecords ∧
            graph.Resolves limits nodeRecords edgeRecords :=
  ⟨Graph.ofJson_spelledOut,
    fun _ read => ⟨Graph.idsWithin_ofJson read, Graph.resolves_ofJson read⟩⟩

/-- What a graph has under which ids: its nodes with their parents, and the ends of its edges. -/
def Graph.references (graph : Graph Float) :
    List (String × Option String) × List (String × String) :=
  (graph.nodes.map fun node => (node.id, node.parent),
    graph.edges.map fun edge => (edge.source, edge.target))

/-- A node inside a group and an edge between them, all by number. -/
def numberedDocument : Json :=
  .obj [("nodes", .arr [.obj [("id", .int 1), ("type", .str "group")],
      .obj [("id", .int 2), ("parentId", .int 1)]]),
    ("edges", .arr [.obj [("source", .int 1), ("target", .int 2)]])]

theorem ofJson_references_numberedDocument :
    numberedDocument.IdsWithin .standard ∧
      Graph.ofJson .standard numberedDocument =
        Graph.ofJson .standard numberedDocument.withoutNumericReferences.spelledOut ∧
      ∃ graph nodeRecords edgeRecords,
        Graph.ofJson .standard numberedDocument.spelledOut = .ok graph ∧
        graph.references = ([("1", none), ("2", some "1")], [("1", "2")]) ∧
        numberedDocument.spelledOut.records "nodes" = .ok nodeRecords ∧
        numberedDocument.spelledOut.records "edges" = .ok edgeRecords ∧
        graph.Resolves .standard nodeRecords edgeRecords := by
  obtain ⟨numbered, isRead⟩ : ∃ graph, Graph.ofJson .standard numberedDocument = .ok graph :=
    ⟨_, rfl⟩
  obtain ⟨within, -⟩ := (Graph.ofJson_references .standard numberedDocument).2 numbered isRead
  obtain ⟨graph, read, references⟩ : ∃ graph,
      Graph.ofJson .standard numberedDocument.spelledOut = .ok graph ∧
        graph.references = ([("1", none), ("2", some "1")], [("1", "2")]) := ⟨_, rfl, rfl⟩
  obtain ⟨-, nodeRecords, edgeRecords, areNodes, areEdges, resolves⟩ :=
    (Graph.ofJson_references .standard numberedDocument.spelledOut).2 graph read
  exact ⟨within, (Graph.ofJson_references .standard numberedDocument).1 within, graph,
    nodeRecords, edgeRecords, read, references, areNodes, areEdges, resolves⟩

/-- The parent and the edge are there only once their numbers are spelled out. -/
theorem ofJson_numberedDocument :
    numberedDocument.spelledOut =
        .obj [("nodes", .arr [.obj [("id", .str "1"), ("type", .str "group")],
            .obj [("id", .str "2"), ("parentId", .str "1")]]),
          ("edges", .arr [.obj [("source", .str "1"), ("target", .str "2")]])] ∧
      (Graph.ofJson .standard numberedDocument).map Graph.references =
        .ok ([("1", none), ("2", none)], []) ∧
      (Graph.ofJson .standard numberedDocument.spelledOut).map Graph.references =
        .ok ([("1", none), ("2", some "1")], [("1", "2")]) ∧
      Graph.ofJson .standard numberedDocument ≠
        Graph.ofJson .standard numberedDocument.spelledOut := by
  have numbered : (Graph.ofJson .standard numberedDocument).map Graph.references =
      .ok ([("1", none), ("2", none)], []) := rfl
  have spelled : (Graph.ofJson .standard numberedDocument.spelledOut).map Graph.references =
      .ok ([("1", none), ("2", some "1")], [("1", "2")]) := rfl
  refine ⟨rfl, numbered, spelled, fun same => ?_⟩
  rw [same, spelled] at numbered
  cases numbered

end Flowchart
