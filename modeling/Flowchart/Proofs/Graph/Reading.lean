import Mathlib.Data.List.Forall2
import Mathlib.Data.List.Nodup
import Flowchart.Graph.Interchange
import Flowchart.Proofs.Draft.Received
import Flowchart.Proofs.Graph.Canonical
import Flowchart.Proofs.Graph.Sound
import Flowchart.Proofs.Json.Shown

/-!
Graphs that are read from documents.

Whatever a document holds, the graph that is read from it is sound. Each object among its node
records is one node, in the order of the records, and an object among its edge records is an edge
exactly if it names nodes at both ends. Ids that would repeat are numbered: there is always a number
that makes an id free, and the least one is taken.

Main definitions: `FirstFree`, `Allotted`, `Graph.ReadFrom`. Main statement: `ofJson_sound`.
-/

namespace Flowchart

/-- A value is given as it is, or not at all. -/
theorem Json.given?_eq_some {value given : Json} :
    value.given? = some given ↔ value = given ∧ given.isVoid = false := by
  unfold Json.given?
  split
  · rename_i absent
    constructor
    · rintro ⟨⟩
    · rintro ⟨rfl, shown⟩
      rw [absent] at shown
      cases shown
  · rename_i shown
    constructor
    · rintro ⟨⟩
      exact ⟨rfl, by simpa using shown⟩
    · rintro ⟨rfl, _⟩
      rfl

/-- What is found among ids is one of them, as a text. -/
theorem Json.isOneOf_eq_ok_true {ids : List String} {value : Json} :
    value.isOneOf ids = .ok true ↔ ∃ text, value = .str text ∧ text ∈ ids := by
  cases value <;> simp [Json.isOneOf]

/-- A value that is not one of some ids is no text among them. -/
theorem Json.isOneOf_eq_ok_false {ids : List String} {value : Json}
    (absent : value.isOneOf ids = .ok false) : value.text?.any ids.contains = false := by
  cases value <;> simp_all [Json.isOneOf, Json.text?]

/-- What is no object has no fields. -/
theorem Json.field_of_other {record : Json} (other : record.isObject = false)
    (key : String) : record.field key = .null := by
  cases record with
  | obj | escaped => cases other
  | null | bool | int | float | str | arr => rfl

theorem Json.eitherField_of_other {record : Json} (other : record.isObject = false)
    (first second : String) : record.eitherField first second = none := by
  rw [Json.eitherField, Json.field_of_other other, Json.field_of_other other]
  rfl

/-- A value that is given has a text of its own, anything else the other one. -/
theorem Json.textOr_eq_ok {limits : Limits} {absent text : String} {value : Json} :
    value.textOr limits absent = .ok text ↔
      value.given? = none ∧ text = absent ∨
        ∃ given, value.given? = some given ∧ given.toText limits = .ok text := by
  unfold Json.textOr
  cases value.given? with
  | none => simp [eq_comm]
  | some given => cases shown : given.toText limits <;> simp [Except.mapError, shown]

/-- Neither text is empty. -/
theorem Json.textOr_ne_empty {limits : Limits} {absent text : String} {value : Json}
    (read : value.textOr limits absent = .ok text) (shown : absent ≠ "") : text ≠ "" := by
  rcases Json.textOr_eq_ok.mp read with ⟨-, rfl⟩ | ⟨given, isGiven, isText⟩
  · exact shown
  · exact Json.toText_ne_empty (Json.given?_eq_some.mp isGiven).2 isText

/-! ### Ids -/

/-- The text of a base and the least number from one on that is not in use. -/
def FirstFree (base : String) (used : List String) (id : String) : Prop :=
  ∃ number, 1 ≤ number ∧ id = base ++ "_" ++ toString number ∧ id ∉ used ∧
    ∀ smaller, 1 ≤ smaller → smaller < number → base ++ "_" ++ toString smaller ∈ used

/-- The id that goes to a record: the one it asks for, or a numbered one if that is in use. -/
def Granted (wanted : String) (used : List String) (id : String) : Prop :=
  if wanted ∈ used then FirstFree wanted used id else id = wanted

/-- The ids that go to records with their positions, one after the other. -/
inductive Allotted (limits : Limits) :
    List String → List (Json × Nat) → List String → Prop where
  | nil (used : List String) : Allotted limits used [] []
  | cons {used ids : List String} {record : Json} {position : Nat} {wanted id : String}
      {entries : List (Json × Nat)} (asked : wantedId limits position record = .ok wanted)
      (granted : Granted wanted used id) (others : Allotted limits (id :: used) entries ids) :
      Allotted limits used ((record, position) :: entries) (id :: ids)

/-- Ids with different numbers behind them are different. -/
theorem numbered_injective {base : String} {m n : Nat}
    (same : base ++ "_" ++ toString m = base ++ "_" ++ toString n) : m = n := by
  rw [String.append_right_inj] at same
  have digits : Decimal.natText m = Decimal.natText n := same
  exact natDigits_injective (String.ofList_injective digits)

/-- As many numbers as there are ids in use, and one more, cannot all be taken. -/
theorem exists_free (base : String) (used : List String) :
    ∃ number ≤ used.length, base ++ "_" ++ toString (number + 1) ∉ used := by
  by_contra taken
  push Not at taken
  let numbered := (List.range (used.length + 1)).map fun number =>
    base ++ "_" ++ toString (number + 1)
  have distinct : numbered.Nodup := by
    refine List.Nodup.map ?_ List.nodup_range
    intro m n same
    exact Nat.succ_injective (numbered_injective same)
  have inside : numbered ⊆ used := by
    intro id member
    obtain ⟨number, below, rfl⟩ := List.mem_map.mp member
    exact taken number (Nat.le_of_lt_succ (List.mem_range.mp below))
  have length := distinct.length_le_of_subset inside
  rw [List.length_map, List.length_range] at length
  exact Nat.not_succ_le_self _ length

/-- The search for a number ends, at the least one that is free. -/
theorem freshId_firstFree (base : String) (used : List String) :
    FirstFree base used (freshId base used) := by
  rw [freshId, List.find?_map]
  cases found : (List.range used.length).find?
      ((fun number => !used.contains (base ++ "_" ++ Decimal.natText number)) ∘ (· + 1)) with
  | some number =>
      obtain ⟨free, -, before⟩ := List.find?_range_eq_some.mp found
      refine ⟨number + 1, Nat.le_add_left 1 number, rfl, by simpa using free, ?_⟩
      intro smaller positive below
      obtain ⟨number', rfl⟩ := Nat.exists_eq_add_of_le' positive
      have taken := before number' (Nat.lt_of_succ_lt_succ below)
      rw [Bool.not_eq_true', Function.comp_apply, Bool.not_eq_false'] at taken
      exact List.contains_iff_mem.mp taken
  | none =>
      have taken : ∀ number < used.length, base ++ "_" ++ toString (number + 1) ∈ used := by
        intro number below
        have refused := List.find?_eq_none.mp found number (List.mem_range.mpr below)
        rw [Function.comp_apply, Bool.not_eq_true, Bool.not_eq_false'] at refused
        exact List.contains_iff_mem.mp refused
      obtain ⟨number, bound, free⟩ := exists_free base used
      have last : number = used.length := by
        by_contra other
        exact free (taken number (Nat.lt_of_le_of_ne bound other))
      rw [last] at free
      refine ⟨used.length + 1, Nat.le_add_left 1 _, rfl, free, ?_⟩
      intro smaller positive below
      obtain ⟨number', rfl⟩ := Nat.exists_eq_add_of_le' positive
      exact taken number' (Nat.lt_of_succ_lt_succ below)

/-- The id that is assigned is the wanted one, or that with the first free number behind it. -/
theorem assignId_granted (wanted : String) (used : List String) :
    Granted wanted used (assignId wanted used) := by
  unfold Granted assignId
  by_cases known : wanted ∈ used
  · simpa [known] using freshId_firstFree wanted used
  · simp [known]

/-- No record wants an empty id. -/
theorem wantedId_ne_empty {limits : Limits} {position : Nat} {record : Json} {wanted : String}
    (asked : wantedId limits position record = .ok wanted) : wanted ≠ "" :=
  Json.textOr_ne_empty asked (append_ne_empty_left (by decide) _)

namespace Granted

variable {wanted id : String} {used : List String}

/-- A granted id has not been used. -/
theorem notMem (granted : Granted wanted used id) : id ∉ used := by
  unfold Granted at granted
  split at granted
  · obtain ⟨_, _, _, free, _⟩ := granted
    exact free
  · rw [granted]
    assumption

/-- A granted id is not empty if the wanted one is not. -/
theorem ne_empty (granted : Granted wanted used id) (given : wanted ≠ "") : id ≠ "" := by
  unfold Granted at granted
  split at granted
  · obtain ⟨number, _, rfl, _⟩ := granted
    exact append_ne_empty_left (append_ne_empty_left given _) _
  · rw [granted]
    exact given

end Granted

namespace Allotted

variable {limits : Limits} {used ids : List String} {entries : List (Json × Nat)}

/-- No id that is allotted has been used before. -/
theorem notMem (allotted : Allotted limits used entries ids) : ∀ id ∈ ids, id ∉ used := by
  induction allotted with
  | nil used => simp
  | cons asked granted others ih =>
      intro other member
      rcases List.mem_cons.mp member with rfl | later
      · exact granted.notMem
      · exact fun known => ih other later (List.mem_cons_of_mem _ known)

/-- Every id is allotted once. -/
theorem nodup (allotted : Allotted limits used entries ids) : ids.Nodup := by
  induction allotted with
  | nil used => exact List.nodup_nil
  | cons asked granted others ih =>
      exact List.nodup_cons.mpr ⟨fun later => others.notMem _ later List.mem_cons_self, ih⟩

/-- No id that is allotted is empty. -/
theorem ne_empty (allotted : Allotted limits used entries ids) : ∀ id ∈ ids, id ≠ "" := by
  induction allotted with
  | nil used => simp
  | cons asked granted others ih =>
      intro other member
      rcases List.mem_cons.mp member with rfl | later
      · exact granted.ne_empty (wantedId_ne_empty asked)
      · exact ih other later

end Allotted

/-! ### Records -/

/-- The objects among records, with the positions of the records. -/
def objectsAt (position : Nat) (records : List Json) : List (Json × Nat) :=
  (records.zipIdx position).filter fun entry => entry.1.isObject

/-- Whether an edge record has the ids of nodes at both ends. -/
def joinsNodes (nodeIds : List String) (record : Json) : Bool :=
  ((record.eitherField "source" "from").bind Json.text?).any nodeIds.contains &&
    ((record.eitherField "target" "to").bind Json.text?).any nodeIds.contains

/-- A node is the one of a record. Its parent is the one that the record names, or none. -/
structure Node.ReadFrom (limits : Limits) (record : Json) (node : Node Float) : Prop where
  fields : ∃ loose, LooseNode.ofRecord limits node.id record = .ok loose ∧
    node = { loose.node with parent := node.parent }
  parent : ∀ parent ∈ node.parent,
    record.eitherField "parent_id" "parentId" = some (.str parent)

/-- An edge is the one of the record at a position. -/
structure Edge.ReadFrom (limits : Limits) (position : Nat) (record : Json) (edge : Edge) :
    Prop where
  id : (record.field "id").textOr limits (edgeId edge.source edge.target position) = .ok edge.id
  source : record.eitherField "source" "from" = some (.str edge.source)
  target : record.eitherField "target" "to" = some (.str edge.target)
  label : edge.label = (record.field "label").given?

/-- A graph holds what can be read from node records and edge records, in their order. -/
structure Graph.ReadFrom (limits : Limits) (nodeRecords edgeRecords : List Json)
    (graph : Graph Float) : Prop where
  ids : Allotted limits [] (objectsAt 0 nodeRecords) (graph.nodes.map Node.id)
  /-- Each object is one node. -/
  nodes : List.Forall₂ (fun entry node => node.ReadFrom limits entry.1) (objectsAt 0 nodeRecords)
    graph.nodes
  /-- Each object that joins nodes is one edge. -/
  edges : List.Forall₂ (fun entry edge => edge.ReadFrom limits entry.2 entry.1)
    ((objectsAt 0 edgeRecords).filter fun entry => joinsNodes (graph.nodes.map Node.id) entry.1)
    graph.edges

theorem objectsAt_cons_obj {record : Json} (object : record.isObject = true) (position : Nat)
    (records : List Json) :
    objectsAt position (record :: records) =
      (record, position) :: objectsAt (position + 1) records := by
  simp [objectsAt, object]

theorem objectsAt_cons_other {record : Json} (other : record.isObject = false) (position : Nat)
    (records : List Json) :
    objectsAt position (record :: records) = objectsAt (position + 1) records := by
  simp [objectsAt, other]

theorem exists_left_of_mem {α β : Type} {related : α → β → Prop} {items : List α}
    {values : List β} (each : List.Forall₂ related items values) {value : β}
    (member : value ∈ values) : ∃ item ∈ items, related item value := by
  induction each with
  | nil => cases member
  | cons first others ih =>
      rcases List.mem_cons.mp member with rfl | later
      · exact ⟨_, List.mem_cons_self, first⟩
      · obtain ⟨item, listed, found⟩ := ih later
        exact ⟨item, List.mem_cons_of_mem _ listed, found⟩

/-- Steps that all succeed relate items and values one by one. -/
theorem forall₂_of_mapM_eq_ok {ε α β : Type} {step : α → Except ε β} {items : List α}
    {values : List β} (ran : items.mapM step = .ok values) :
    List.Forall₂ (fun item value => step item = .ok value) items values := by
  induction items generalizing values with
  | nil =>
      cases ran
      exact .nil
  | cons item items ih =>
      rw [List.mapM_cons] at ran
      obtain ⟨value, first, rest⟩ := bind_eq_ok.mp ran
      obtain ⟨others, later, made⟩ := bind_eq_ok.mp rest
      cases made
      exact .cons first (ih later)

namespace LooseNode

variable {limits : Limits}

/-- A node has the id that it is given, and its parent is still to be looked up. -/
theorem ofRecord_eq_ok {id : String} {record : Json} {loose : LooseNode}
    (read : ofRecord limits id record = .ok loose) :
    loose.node.id = id ∧ loose.node.parent = none ∧
      loose.parent = record.eitherField "parent_id" "parentId" := by
  simp only [ofRecord, bind_eq_ok] at read
  obtain ⟨_, _, _, _, _, _, _, _, _, _, _, _, _, _, made⟩ := read
  cases made
  exact ⟨rfl, rfl, rfl⟩

/-- What is no object is passed over. -/
theorem ofRecords_cons_other {record : Json} (other : record.isObject = false)
    (used : List String) (position : Nat) (records : List Json) :
    ofRecords limits used position (record :: records) =
      ofRecords limits used (position + 1) records := by
  simp [ofRecords, other]

/-- The nodes behind an object come after its own, which uses up the id that it is granted. -/
theorem ofRecords_cons_obj {record : Json} (object : record.isObject = true)
    (used : List String) (position : Nat) (records : List Json) :
    ofRecords limits used position (record :: records) = (do
      let wanted ← wantedId limits position record
      let node ← ofRecord limits (assignId wanted used) record
      let nodes ← ofRecords limits (assignId wanted used :: used) (position + 1) records
      .ok (node :: nodes)) := by
  simp [ofRecords, object]

/-- An object gets its id, and the other records are read with this id in use. -/
theorem ofRecords_cons_eq_ok {record : Json} (object : record.isObject = true)
    {used : List String} {position : Nat} {records : List Json} {nodes : List LooseNode} :
    ofRecords limits used position (record :: records) = .ok nodes ↔
      ∃ wanted node others, wantedId limits position record = .ok wanted ∧
        ofRecord limits (assignId wanted used) record = .ok node ∧
        ofRecords limits (assignId wanted used :: used) (position + 1) records = .ok others ∧
        nodes = node :: others := by
  simp only [ofRecords_cons_obj object, bind_eq_ok]
  constructor
  · rintro ⟨wanted, asked, node, first, others, later, made⟩
    cases made
    exact ⟨wanted, node, others, asked, first, later, rfl⟩
  · rintro ⟨wanted, node, others, asked, first, later, rfl⟩
    exact ⟨wanted, asked, node, first, others, later, rfl⟩

/-- Each object has a node, under the id that it is granted. -/
theorem ofRecords_eq_ok {used : List String} {position : Nat} {records : List Json}
    {nodes : List LooseNode} (read : ofRecords limits used position records = .ok nodes) :
    Allotted limits used (objectsAt position records) (nodes.map fun loose => loose.node.id) ∧
      List.Forall₂ (fun entry loose => ofRecord limits loose.node.id entry.1 = .ok loose)
        (objectsAt position records) nodes := by
  induction records generalizing used position nodes with
  | nil =>
      cases read
      exact ⟨.nil used, .nil⟩
  | cons record records ih =>
      cases object : record.isObject with
      | false =>
          rw [ofRecords_cons_other object] at read
          rw [objectsAt_cons_other object]
          exact ih read
      | true =>
          obtain ⟨wanted, node, others, asked, first, later, rfl⟩ :=
            (ofRecords_cons_eq_ok object).mp read
          obtain ⟨allotted, each⟩ := ih later
          have own := (ofRecord_eq_ok first).1
          rw [objectsAt_cons_obj object, List.map_cons, own]
          refine ⟨.cons asked (assignId_granted _ used) allotted, .cons ?_ each⟩
          rw [own]
          exact first

/-- A node keeps all that was read, and gets a parent only if it names a group but itself. -/
theorem attach_eq_ok {groupIds : List String} {loose : LooseNode} {node : Node Float}
    (attached : loose.attach groupIds = .ok node) (parentless : loose.node.parent = none) :
    node = { loose.node with parent := node.parent } ∧
      ∀ parent ∈ node.parent, loose.parent = some (.str parent) ∧ parent ≠ loose.node.id ∧
        parent ∈ groupIds ∧ loose.node.isGroup = false := by
  have unchanged : loose.node = { loose.node with parent := loose.node.parent } ∧
      ∀ parent ∈ loose.node.parent, loose.parent = some (.str parent) ∧ parent ≠ loose.node.id ∧
        parent ∈ groupIds ∧ loose.node.isGroup = false := by
    refine ⟨rfl, ?_⟩
    rw [parentless]
    simp
  unfold attach at attached
  split at attached
  case h_1 =>
    cases attached
    exact unchanged
  case h_2 value named =>
    split at attached
    case isTrue =>
      cases attached
      exact unchanged
    case isFalse foreign =>
      split at attached
      case h_1 => cases attached
      case h_2 isGroup found =>
        split at attached
        case isFalse =>
          cases attached
          exact unchanged
        case isTrue both =>
          cases attached
          obtain ⟨rfl, inner⟩ : isGroup = true ∧ loose.node.isGroup = false := by
            simpa using both
          obtain ⟨text, rfl, member⟩ := Json.isOneOf_eq_ok_true.mp found
          refine ⟨rfl, ?_⟩
          rintro parent ⟨⟩
          exact ⟨named, by simpa [Json.text?] using foreign, member, inner⟩

end LooseNode

/-! ### Edges -/

section Edges

variable {limits : Limits} {nodeIds : List String} {position : Nat} {record : Json}

/-- The edge between two nodes is the one of its record. -/
theorem Edge.readFrom_of_ofEnds {source target : String} {edge : Edge}
    (read : Edge.ofEnds limits position record source target = .ok edge)
    (isSource : record.eitherField "source" "from" = some (.str source))
    (isTarget : record.eitherField "target" "to" = some (.str target)) :
    edge.ReadFrom limits position record := by
  simp only [Edge.ofEnds, bind_eq_ok] at read
  obtain ⟨stroke, -, id, isId, made⟩ := read
  cases made
  exact ⟨isId, isSource, isTarget, rfl⟩

/-- A record that joins nodes is an edge between them, and no other record is an edge. -/
theorem Edge.ofRecord?_eq_ok {found : Option Edge}
    (read : Edge.ofRecord? limits nodeIds position record = .ok found) :
    if joinsNodes nodeIds record then
      ∃ edge, found = some edge ∧ edge.ReadFrom limits position record
    else found = none := by
  unfold joinsNodes
  unfold Edge.ofRecord? at read
  split at read
  case h_2 missing =>
    cases read
    cases source : record.eitherField "source" "from" with
    | none => simp
    | some _ =>
        cases target : record.eitherField "target" "to" with
        | none => simp
        | some _ => exact absurd target (missing _ _ source)
  case h_1 source target isSource isTarget =>
    rw [isSource, isTarget]
    split at read
    case h_1 => cases read
    case h_2 absent =>
      cases read
      have outside := Json.isOneOf_eq_ok_false absent
      simp [outside]
    case h_3 present =>
      obtain ⟨first, rfl, isFirst⟩ := Json.isOneOf_eq_ok_true.mp present
      split at read
      case h_1 => cases read
      case h_2 absent =>
        cases read
        have outside := Json.isOneOf_eq_ok_false absent
        simp [outside]
      case h_3 present =>
        obtain ⟨second, rfl, isSecond⟩ := Json.isOneOf_eq_ok_true.mp present
        have joined : nodeIds.contains first = true ∧ nodeIds.contains second = true :=
          ⟨List.contains_iff_mem.mpr isFirst, List.contains_iff_mem.mpr isSecond⟩
        simp only [Option.bind_some, Json.text?, Option.any_some, joined, Bool.and_self, if_true]
        simp only [Json.text?, Option.getD_some] at read
        cases made : Edge.ofEnds limits position record first second with
        | error cause =>
            rw [made] at read
            cases read
        | ok edge =>
            rw [made] at read
            cases read
            exact ⟨edge, rfl, Edge.readFrom_of_ofEnds made isSource isTarget⟩

theorem Edge.ofRecords_cons_other (other : record.isObject = false) (records : List Json) :
    Edge.ofRecords limits nodeIds position (record :: records) =
      Edge.ofRecords limits nodeIds (position + 1) records := by
  simp [Edge.ofRecords, other]

/-- The edges behind an object come after its own, if it is one. -/
theorem Edge.ofRecords_cons_obj (object : record.isObject = true) (records : List Json) :
    Edge.ofRecords limits nodeIds position (record :: records) = (do
      let edge ← Edge.ofRecord? limits nodeIds position record
      let edges ← Edge.ofRecords limits nodeIds (position + 1) records
      .ok (edge.toList ++ edges)) := by
  simp [Edge.ofRecords, object]

end Edges

/-- The edges are those of the objects that join nodes. -/
theorem Edge.ofRecords_eq_ok {limits : Limits} {nodeIds : List String} {position : Nat}
    {records : List Json} {edges : List Edge}
    (read : Edge.ofRecords limits nodeIds position records = .ok edges) :
    List.Forall₂ (fun entry edge => edge.ReadFrom limits entry.2 entry.1)
      ((objectsAt position records).filter fun entry => joinsNodes nodeIds entry.1) edges := by
  induction records generalizing position edges with
  | nil =>
      cases read
      exact .nil
  | cons record records ih =>
      cases object : record.isObject with
      | false =>
          rw [Edge.ofRecords_cons_other object] at read
          rw [objectsAt_cons_other object]
          exact ih read
      | true =>
          rw [Edge.ofRecords_cons_obj object, bind_eq_ok] at read
          obtain ⟨found, first, rest⟩ := read
          obtain ⟨others, later, made⟩ := bind_eq_ok.mp rest
          cases made
          rw [objectsAt_cons_obj object]
          have own := Edge.ofRecord?_eq_ok first
          split at own
          case isTrue joined =>
            obtain ⟨edge, rfl, isEdge⟩ := own
            simp only [List.filter_cons, joined, if_true]
            exact .cons isEdge (ih later)
          case isFalse apart =>
            simp only [List.filter_cons, apart, own]
            exact ih later

/-- An edge that is read from a record that joins nodes has nodes at both ends. -/
theorem Edge.ReadFrom.mem_ends {limits : Limits} {nodeIds : List String} {position : Nat}
    {record : Json} {edge : Edge} (isEdge : edge.ReadFrom limits position record)
    (joined : joinsNodes nodeIds record = true) :
    edge.source ∈ nodeIds ∧ edge.target ∈ nodeIds := by
  simpa [joinsNodes, isEdge.source, isEdge.target, Json.text?] using joined

/-! ### Graphs -/

/-- The nodes, edges and direction of a document are those of its records. -/
theorem Graph.ofJson_eq_ok {limits : Limits} {document : Json} {graph : Graph Float}
    (read : Graph.ofJson limits document = .ok graph) :
    ∃ nodeRecords edgeRecords loose, document.records "nodes" = .ok nodeRecords ∧
      document.records "edges" = .ok edgeRecords ∧
      LooseNode.ofRecords limits [] 0 nodeRecords = .ok loose ∧
      loose.mapM (LooseNode.attach
        ((loose.filter fun loose => loose.node.isGroup).map fun loose => loose.node.id)) =
          .ok graph.nodes ∧
      Edge.ofRecords limits (graph.nodes.map Node.id) 0 edgeRecords = .ok graph.edges ∧
      (document.field "direction").given?.mapM (Json.toText limits) = .ok graph.direction := by
  unfold Graph.ofJson at read
  split at read
  case isFalse => cases read
  case isTrue =>
    simp only [bind_eq_ok] at read
    obtain ⟨nodeRecords, areNodes, loose, isRead, nodes, attached, edgeRecords, areEdges,
      edges, joined, direction, directed, made⟩ := read
    cases made
    cases shown : (document.field "direction").given?.mapM (Json.toText limits) with
    | error cause =>
        rw [shown] at directed
        cases directed
    | ok text =>
        rw [shown] at directed
        cases directed
        exact ⟨nodeRecords, edgeRecords, loose, areNodes, areEdges, isRead, attached, joined, rfl⟩

/-- Attached nodes are those of their records, and their parents are as they have to be. -/
theorem LooseNode.attach_all {limits : Limits} {groupIds : List String}
    {entries : List (Json × Nat)} {loose : List LooseNode} {nodes : List (Node Float)}
    (read : List.Forall₂
      (fun entry node => LooseNode.ofRecord limits node.node.id entry.1 = .ok node) entries loose)
    (attached : List.Forall₂ (fun node attached => node.attach groupIds = .ok attached)
      loose nodes) :
    List.Forall₂ (fun entry node => node.ReadFrom limits entry.1) entries nodes ∧
      loose.map LooseNode.node = nodes.map (fun node => { node with parent := none }) ∧
      ∀ node ∈ nodes, ∀ parent ∈ node.parent,
        node.isGroup = false ∧ parent ≠ node.id ∧ parent ∈ groupIds := by
  induction read generalizing nodes with
  | nil =>
      cases attached
      exact ⟨.nil, rfl, by simp⟩
  | @cons entry first entries others isRead areRead ih =>
      cases attached with
      | @cons _ node _ nodes isAttached areAttached =>
          obtain ⟨each, same, sound⟩ := ih areAttached
          obtain ⟨_, parentless, named⟩ := LooseNode.ofRecord_eq_ok isRead
          obtain ⟨own, inside⟩ := LooseNode.attach_eq_ok isAttached parentless
          have sameId : node.id = first.node.id := by rw [own]
          have sameGroup : node.isGroup = first.node.isGroup := by rw [own]; rfl
          have sameNode : first.node = { node with parent := none } := by
            rw [own, ← parentless]
          refine ⟨.cons ⟨⟨first, ?_, own⟩, ?_⟩ each, ?_, ?_⟩
          · rw [sameId]
            exact isRead
          · intro parent isParent
            rw [← named]
            exact (inside parent isParent).1
          · rw [List.map_cons, List.map_cons, same, sameNode]
          · intro other member parent isParent
            rcases List.mem_cons.mp member with rfl | later
            · obtain ⟨_, foreign, isGroup, inner⟩ := inside parent isParent
              rw [sameId, sameGroup]
              exact ⟨inner, foreign, isGroup⟩
            · exact sound other later parent isParent

/-- Attaching nodes to their parents keeps their ids. -/
theorem LooseNode.map_id_attached {loose : List LooseNode} {nodes : List (Node Float)}
    (same : loose.map LooseNode.node = nodes.map fun node => { node with parent := none }) :
    (loose.map fun loose => loose.node.id) = nodes.map Node.id := by
  have mapped := congrArg (List.map Node.id) same
  rw [List.map_map, List.map_map] at mapped
  exact mapped

/-- The nodes and edges of a graph are read from the records of its document, in their order. -/
theorem Graph.readFrom_ofJson {limits : Limits} {document : Json} {graph : Graph Float}
    (read : Graph.ofJson limits document = .ok graph) :
    ∃ nodeRecords edgeRecords, document.records "nodes" = .ok nodeRecords ∧
      document.records "edges" = .ok edgeRecords ∧
      graph.ReadFrom limits nodeRecords edgeRecords := by
  obtain ⟨nodeRecords, edgeRecords, loose, areNodes, areEdges, isRead, attached, joined, -⟩ :=
    Graph.ofJson_eq_ok read
  obtain ⟨allotted, fromRecords⟩ := LooseNode.ofRecords_eq_ok isRead
  obtain ⟨nodes, same, -⟩ :=
    LooseNode.attach_all fromRecords (forall₂_of_mapM_eq_ok attached)
  rw [LooseNode.map_id_attached same] at allotted
  exact ⟨nodeRecords, edgeRecords, areNodes, areEdges, allotted, nodes,
    Edge.ofRecords_eq_ok joined⟩

/-- The parents in a graph that is read from a document are groups of the graph. -/
theorem Graph.parents_ofJson {limits : Limits} {document : Json} {graph : Graph Float}
    (read : Graph.ofJson limits document = .ok graph) :
    ∀ node ∈ graph.nodes, ∀ parent ∈ node.parent,
      node.isGroup = false ∧ parent ≠ node.id ∧
        ∃ group ∈ graph.nodes, group.isGroup = true ∧ group.id = parent := by
  obtain ⟨_, _, loose, -, -, isRead, attached, -, -⟩ := Graph.ofJson_eq_ok read
  obtain ⟨-, fromRecords⟩ := LooseNode.ofRecords_eq_ok isRead
  obtain ⟨-, same, parents⟩ :=
    LooseNode.attach_all fromRecords (forall₂_of_mapM_eq_ok attached)
  intro node member parent isParent
  obtain ⟨inner, foreign, isGroup⟩ := parents node member parent isParent
  refine ⟨inner, foreign, ?_⟩
  obtain ⟨first, kept, rfl⟩ := List.mem_map.mp isGroup
  obtain ⟨listed, grouped⟩ := List.mem_filter.mp kept
  have inside : first.node ∈ graph.nodes.map fun node => { node with parent := none } := by
    rw [← same]
    exact List.mem_map_of_mem listed
  obtain ⟨group, isNode, sameNode⟩ := List.mem_map.mp inside
  rw [← sameNode] at grouped ⊢
  exact ⟨group, isNode, grouped, rfl⟩

/-- A graph that is read from a document is sound. -/
theorem Graph.sound_ofJson {limits : Limits} {document : Json} {graph : Graph Float}
    (read : Graph.ofJson limits document = .ok graph) : graph.Sound := by
  obtain ⟨_, _, -, -, fromRecords⟩ := Graph.readFrom_ofJson read
  have ends : ∀ edge ∈ graph.edges,
      edge.source ∈ graph.nodes.map Node.id ∧ edge.target ∈ graph.nodes.map Node.id := by
    intro edge member
    obtain ⟨entry, kept, isEdge⟩ := exists_left_of_mem fromRecords.edges member
    exact isEdge.mem_ends (List.mem_filter.mp kept).2
  constructor
  case distinct => exact fromRecords.ids.nodup
  case named =>
    intro node member
    exact fromRecords.ids.ne_empty _ (List.mem_map_of_mem member)
  case parents => exact Graph.parents_ofJson read
  case sources => exact fun edge member => (ends edge member).1
  case targets => exact fun edge member => (ends edge member).2

/-- A graph that is read from a document is sound, and holds what can be read from the records of
the document, in their order. The search for a free number ends whatever ids are in use. -/
theorem ofJson_sound {limits : Limits} {document : Json} {graph : Graph Float}
    (read : Graph.ofJson limits document = .ok graph) :
    graph.Sound ∧
      (∃ nodeRecords edgeRecords, document.records "nodes" = .ok nodeRecords ∧
        document.records "edges" = .ok edgeRecords ∧
        graph.ReadFrom limits nodeRecords edgeRecords) ∧
      ∀ base used, FirstFree base used (freshId base used) :=
  ⟨Graph.sound_ofJson read, Graph.readFrom_ofJson read, freshId_firstFree⟩

/-- Records with ids that collide, parents that are no groups, and edges that lead nowhere. -/
def mixedDocument : Json :=
  .obj [("nodes", .arr [.obj [("id", .str "n4"), ("parentId", .str "g")], .str "skipped",
      .obj [("id", .str "g"), ("type", .str "Group"), ("parent_id", .str "g")], .obj [],
      .obj [("id", .str "n4"), ("parent_id", .str "n4"), ("label", .int 7)]]),
    ("edges", .arr [.obj [("from", .str "n4_1"), ("to", .str "g"), ("dashed", .bool true)],
      .obj [("source", .str "n4"), ("target", .str "n5")]])]

/-- The graph of `mixedDocument`. -/
def mixedGraph : Graph Float where
  nodes := [{ id := "n4", kind := .plain, label := "n4", parent := some "g", x := 0.0, y := 0.0 },
    { id := "g", kind := .group, label := "g", x := 0.0, y := 0.0 },
    { id := "n4_1", kind := .plain, label := "n4_1", x := 0.0, y := 0.0 },
    { id := "n4_2", kind := .plain, label := "7", x := 0.0, y := 0.0 }]
  edges := [{ id := "en4_1-g-0", source := "n4_1", target := "g", stroke := .dotted }]

theorem ofJson_sound_mixedDocument :
    Graph.ofJson .standard mixedDocument = .ok mixedGraph ∧ mixedGraph.Sound ∧
      mixedGraph.nodes.map Node.id = ["n4", "g", "n4_1", "n4_2"] := by
  have read : Graph.ofJson .standard mixedDocument = .ok mixedGraph := rfl
  exact ⟨read, (ofJson_sound read).1, rfl⟩

end Flowchart
