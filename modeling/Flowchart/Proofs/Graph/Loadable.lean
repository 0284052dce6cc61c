import Flowchart.Proofs.Graph.Exchange
import Flowchart.Proofs.Graph.References

/-!
Which documents can be loaded.

Whatever stands in a record, reading goes on with a default or without the edge, but for three
things: a whole number that is too large for a double, a value beyond the limits where a text is
wanted, and a list or an object where an id is looked up, as the parent of a node or as an end of an
edge. These are the faults of a document. The first of them fails it, and nothing else does.

Main definitions: `Guarded`, `documentFaults`. Main statement: `ofJson_loads`.
-/

namespace Flowchart

/-! ### Results and faults -/

/-- A result that is there if nothing is at fault, and otherwise the first fault. -/
inductive Guarded {ε α : Type} : List ε → Except ε α → Prop where
  | ok (value : α) : Guarded [] (.ok value)
  | error (first : ε) (others : List ε) : Guarded (first :: others) (.error first)

namespace Guarded

variable {ε α β : Type} {faults later : List ε} {result : Except ε α}

/-- Without faults there is a value. -/
theorem exists_ok (guarded : Guarded faults result) (faultless : faults = []) :
    ∃ value, result = .ok value := by
  cases guarded with
  | ok value => exact ⟨value, rfl⟩
  | error first others => cases faultless

/-- The error is the first of the faults, and there is none without faults. -/
theorem eq_error_iff (guarded : Guarded faults result) (cause : ε) :
    result = .error cause ↔ faults.head? = some cause := by
  cases guarded <;> simp

theorem congr (guarded : Guarded faults result) (same : faults = later) : Guarded later result :=
  same ▸ guarded

/-- The faults of the first step come before those of the next. -/
theorem bind {next : α → Except ε β} (guarded : Guarded faults result)
    (following : ∀ value, result = .ok value → Guarded later (next value)) :
    Guarded (faults ++ later) (result >>= next) := by
  cases guarded with
  | ok value => exact following value rfl
  | error first others => exact .error first (others ++ later)

theorem map (guarded : Guarded faults result) (change : α → β) :
    Guarded faults (result.map change) := by
  cases guarded with
  | ok value => exact .ok (change value)
  | error first others => exact .error first others

/-- Steps one after the other have the faults of each. -/
theorem mapM {faultsOf : β → List ε} {step : β → Except ε α} {items : List β}
    (each : ∀ item ∈ items, Guarded (faultsOf item) (step item)) :
    Guarded (items.flatMap faultsOf) (items.mapM step) := by
  induction items with
  | nil => exact .ok []
  | cons first items ih =>
      obtain ⟨own, others⟩ := List.forall_mem_cons.mp each
      rw [List.mapM_cons, List.flatMap_cons]
      exact own.bind fun value _ =>
        ((ih others).bind fun values _ => .ok (value :: values)).congr (List.append_nil _)

end Guarded

/-! ### Values -/

namespace Json

/-- The fault of a value that is wanted as a text: what in it is beyond the limits. -/
def textFaults (limits : Limits) (value : Json) : List DocumentError :=
  match value.given? with
  | some given =>
    match given.toText limits with
    | .ok _ => []
    | .error cause => [.excess cause]
  | none => []

/-- The fault of a value that is wanted as a number: a whole number that is too large for a
double. -/
def numberFaults : Json → List DocumentError
  | int value => if (Decimal.intToFloat value).isInf then [.numberTooLarge] else []
  | _ => []

/-- The fault of a value that is looked up: a list or an object has no place among ids. -/
def lookupFaults : Json → List DocumentError
  | arr items => [.unhashable (arr items).typeName]
  | obj fields => [.unhashable (obj fields).typeName]
  | escaped fields => [.unhashable (escaped fields).typeName]
  | _ => []

/-- Whether a value is the text of one of the ids. -/
def names (ids : List String) (value : Json) : Bool :=
  value.text?.any ids.contains

/-- Asking for a text fails exactly where the value has none within the limits. -/
theorem textOr_guarded (limits : Limits) (absent : String) (value : Json) :
    Guarded (value.textFaults limits) (value.textOr limits absent) := by
  unfold textFaults textOr
  cases value.given? with
  | none => exact .ok absent
  | some given =>
      dsimp only
      cases given.toText limits with
      | ok text => exact .ok text
      | error cause => exact .error _ []

theorem direction_guarded (limits : Limits) (value : Json) :
    Guarded (value.textFaults limits)
      ((value.given?.mapM (toText limits)).mapError DocumentError.excess) := by
  unfold textFaults
  cases value.given? with
  | none => exact .ok none
  | some given =>
      rw [Option.mapM_some]
      dsimp only
      cases given.toText limits with
      | ok text => exact .ok (some text)
      | error cause => exact .error _ []

theorem keyword_guarded (limits : Limits) (value : Json) :
    Guarded (value.textFaults limits) (value.keyword limits) :=
  (value.textOr_guarded limits "").map _

/-- Asking for a number fails exactly where a whole number is too large. -/
theorem number?_guarded (value : Json) : Guarded value.numberFaults value.number? := by
  cases value with
  | int number =>
      simp only [number?, numberFaults]
      cases (Decimal.intToFloat number).isInf with
      | true => exact .error _ []
      | false => exact .ok _
  | null | bool | float | str | arr | obj | escaped => exact .ok _

/-- A coordinate fails as a number does, and has a value where there is none. -/
theorem coordinate_guarded (value : Json) : Guarded value.numberFaults value.coordinate := by
  have guarded := value.number?_guarded
  unfold coordinate
  generalize value.numberFaults = faults, value.number? = number at guarded ⊢
  cases guarded with
  | ok number => cases number <;> exact .ok _
  | error first others => exact .error first others

/-- Looking up a value among ids fails exactly where it is a list or an object. -/
theorem isOneOf_guarded (ids : List String) (value : Json) :
    Guarded value.lookupFaults (value.isOneOf ids) := by
  cases value with
  | arr | obj | escaped => exact .error _ []
  | null | bool | int | float | str => exact .ok _

/-- What is found is the text of an id. -/
theorem names_of_isOneOf {ids : List String} {value : Json} {found : Bool}
    (looked : value.isOneOf ids = .ok found) : value.names ids = found := by
  cases found with
  | false => exact isOneOf_eq_ok_false looked
  | true =>
      obtain ⟨text, rfl, listed⟩ := isOneOf_eq_ok_true.mp looked
      exact List.contains_iff_mem.mpr listed

/-! ### Records -/

/-- The faults of a node record. -/
def nodeFaults (limits : Limits) (record : Json) : List DocumentError :=
  ["id", "type", "category", "label"].flatMap (fun key => (record.field key).textFaults limits) ++
    ["x", "y", "width", "height"].flatMap fun key => (record.field key).numberFaults

/-- The fault of the parent that a node record names. -/
def parentFaults (record : Json) : List DocumentError :=
  match record.eitherField "parent_id" "parentId" with
  | some parent => parent.lookupFaults
  | none => []

/-- The faults of an edge record. The target is looked up only if the source is the id of a node,
and further fields count only for an edge between nodes. -/
def edgeFaults (limits : Limits) (nodeIds : List String) (record : Json) : List DocumentError :=
  match record.eitherField "source" "from", record.eitherField "target" "to" with
  | some source, some target =>
    source.lookupFaults ++
      if source.names nodeIds then
        target.lookupFaults ++
          if target.names nodeIds then
            ["stroke", "id"].flatMap fun key => (record.field key).textFaults limits
          else []
      else []
  | _, _ => []

/-! What is no object has no fields that could fail it. -/

section Other

variable {record : Json} (other : record.isObject = false)

include other

theorem nodeFaults_of_other (limits : Limits) : record.nodeFaults limits = [] := by
  simp only [nodeFaults, field_of_other other]
  rfl

theorem parentFaults_of_other : record.parentFaults = [] := by
  rw [parentFaults, eitherField_of_other other]

theorem edgeFaults_of_other (limits : Limits) (nodeIds : List String) :
    record.edgeFaults limits nodeIds = [] := by
  rw [edgeFaults, eitherField_of_other other]

end Other

end Json

namespace LooseNode

/-- A node fails with the first of its texts that cannot be written, or else of its numbers that are
too large. -/
theorem ofRecord_guarded (limits : Limits) (id : String) (record : Json) :
    Guarded
      (["type", "category", "label"].flatMap (fun key => (record.field key).textFaults limits) ++
        ["x", "y", "width", "height"].flatMap fun key => (record.field key).numberFaults)
      (ofRecord limits id record) := by
  have kind := ((record.field "type").keyword_guarded limits).map NodeKind.ofWord
  have category := ((record.field "category").keyword_guarded limits).map
    fun word => (Category.ofName? word).getD .other
  have label := (record.field "label").textOr_guarded limits id
  refine (kind.bind fun kind _ => category.bind fun category _ => label.bind fun label _ =>
    (record.field "x").coordinate_guarded.bind fun x _ =>
      (record.field "y").coordinate_guarded.bind fun y _ =>
        (record.field "width").number?_guarded.bind fun width _ =>
          (record.field "height").number?_guarded.bind fun height _ => .ok _).congr ?_
  simp

/-- Each record has its faults, in the order in which records are read. -/
theorem ofRecords_guarded (limits : Limits) (used : List String) (position : Nat)
    (records : List Json) :
    Guarded (records.flatMap (Json.nodeFaults limits))
      (ofRecords limits used position records) := by
  induction records generalizing used position with
  | nil => exact .ok []
  | cons record records ih =>
      rw [List.flatMap_cons]
      cases object : record.isObject with
      | false =>
          rw [ofRecords_cons_other object, Json.nodeFaults_of_other object]
          exact ih used (position + 1)
      | true =>
          rw [ofRecords_cons_obj object]
          have id : Guarded ((record.field "id").textFaults limits)
              (wantedId limits position record) := Json.textOr_guarded limits _ _
          refine (id.bind fun wanted _ => (ofRecord_guarded limits _ record).bind fun node _ =>
            (ih _ (position + 1)).bind fun nodes _ => .ok _).congr ?_
          simp [Json.nodeFaults]

/-- Attaching a node to its parent fails exactly where the parent cannot be looked up. -/
theorem attach_guarded (groupIds : List String) (loose : LooseNode) :
    Guarded ((loose.parent.map Json.lookupFaults).getD []) (loose.attach groupIds) := by
  unfold attach
  cases loose.parent with
  | none => exact .ok loose.node
  | some parent =>
      dsimp only
      split
      case isTrue same =>
        have text : parent.text? = some loose.node.id := by simpa using same
        cases parent with
        | str => exact .ok loose.node
        | null | bool | int | float | arr | obj | escaped => cases text
      case isFalse =>
        rw [Option.map_some, Option.getD_some]
        have looked := parent.isOneOf_guarded groupIds
        generalize parent.lookupFaults = faults, parent.isOneOf groupIds = found at looked ⊢
        cases looked with
        | error first others => exact .error first others
        | ok isGroup =>
            dsimp only
            split <;> exact .ok _

end LooseNode

namespace Edge

variable (limits : Limits) (nodeIds : List String) (position : Nat)

/-- Once its ends are known, an edge fails with its stroke or with its id. -/
theorem ofEnds_guarded (record : Json) (source target : String) :
    Guarded (["stroke", "id"].flatMap fun key => (record.field key).textFaults limits)
      (ofEnds limits position record source target) := by
  have stroke := ((record.field "stroke").keyword_guarded limits).map
    fun word => (Stroke.ofName? word).getD .normal
  have id := (record.field "id").textOr_guarded limits (edgeId source target position)
  refine (stroke.bind fun stroke _ => id.bind fun id _ => .ok _).congr ?_
  simp

/-- Where both ends are named, the source is looked up first. -/
theorem ofRecord?_of_ends {record source target : Json}
    (isSource : record.eitherField "source" "from" = some source)
    (isTarget : record.eitherField "target" "to" = some target) :
    ofRecord? limits nodeIds position record = (do
      if ← source.isOneOf nodeIds then
        if ← target.isOneOf nodeIds then
          (ofEnds limits position record (source.text?.getD "") (target.text?.getD "")).map some
        else .ok none
      else .ok none) := by
  simp only [ofRecord?, isSource, isTarget]
  cases source.isOneOf nodeIds with
  | error => rfl
  | ok first =>
      cases first with
      | false => rfl
      | true =>
          cases target.isOneOf nodeIds with
          | error => rfl
          | ok second => cases second <;> rfl

/-- An edge fails with the first fault of its record. -/
theorem ofRecord?_guarded (record : Json) :
    Guarded (record.edgeFaults limits nodeIds) (ofRecord? limits nodeIds position record) := by
  unfold Json.edgeFaults
  cases isSource : record.eitherField "source" "from" with
  | none =>
      simp only [ofRecord?, isSource]
      exact .ok none
  | some source =>
      cases isTarget : record.eitherField "target" "to" with
      | none =>
          simp only [ofRecord?, isSource, isTarget]
          exact .ok none
      | some target =>
          rw [ofRecord?_of_ends limits nodeIds position isSource isTarget]
          refine (source.isOneOf_guarded nodeIds).bind fun first looked => ?_
          rw [Json.names_of_isOneOf looked]
          cases first with
          | false => exact .ok none
          | true =>
              refine (target.isOneOf_guarded nodeIds).bind fun second looked => ?_
              rw [Json.names_of_isOneOf looked]
              cases second with
              | false => exact .ok none
              | true => exact (ofEnds_guarded limits position record _ _).map some

/-- A list of records fails with the first fault of the first record that has one. -/
theorem ofRecords_guarded (records : List Json) :
    Guarded (records.flatMap (Json.edgeFaults limits nodeIds))
      (ofRecords limits nodeIds position records) := by
  induction records generalizing position with
  | nil => exact .ok []
  | cons record records ih =>
      rw [List.flatMap_cons]
      cases object : record.isObject with
      | false =>
          rw [ofRecords_cons_other object, Json.edgeFaults_of_other object]
          exact ih (position + 1)
      | true =>
          rw [ofRecords_cons_obj object]
          exact (ofRecord?_guarded limits nodeIds position record).bind fun edge _ =>
            ((ih (position + 1)).bind fun edges _ => .ok _).congr (List.append_nil _)

end Edge

/-! ### Documents -/

/-- What stands under a key are these records: the items of an array, or none at all. -/
def Json.Lists (key : String) (document : Json) (records : List Json) : Prop :=
  document.field key = .arr records ∨ document.field key = .null ∧ records = []

/-- The ids that the nodes of records get, one after the other, as far as there are texts for
them. -/
def grantedIds (limits : Limits) (used : List String) : List (Json × Nat) → List String
  | [] => []
  | (record, position) :: entries =>
    match wantedId limits position record with
    | .error _ => []
    | .ok wanted =>
      let id := assignId wanted used
      id :: grantedIds limits (id :: used) entries

/-- The ids of the nodes that are read from records. -/
def nodeIdsOf (limits : Limits) (nodeRecords : List Json) : List String :=
  grantedIds limits [] (objectsAt 0 nodeRecords)

/-- The faults of a document with these records, in the order in which it is read: first all nodes,
then their parents, then the edges, and the direction at last. -/
def documentFaults (limits : Limits) (document : Json) (nodeRecords edgeRecords : List Json) :
    List DocumentError :=
  nodeRecords.flatMap (Json.nodeFaults limits) ++ nodeRecords.flatMap Json.parentFaults ++
    edgeRecords.flatMap (Json.edgeFaults limits (nodeIdsOf limits nodeRecords)) ++
    (document.field "direction").textFaults limits

/-- Records that are listed are the ones that are read. -/
theorem Json.Lists.records {key : String} {document : Json} {records : List Json}
    (lists : document.Lists key records) : document.records key = .ok records := by
  rcases lists with held | ⟨held, rfl⟩
  · exact records_arr key held
  · rw [Json.records, held]
    rfl

section Nodes

variable {limits : Limits} {used : List String} {position : Nat} {records : List Json}
  {nodes : List LooseNode} (read : LooseNode.ofRecords limits used position records = .ok nodes)

include read

/-- The nodes get the ids that are granted to the objects among their records. -/
theorem LooseNode.map_id_ofRecords :
    (nodes.map fun loose => loose.node.id) =
      grantedIds limits used (objectsAt position records) := by
  induction records generalizing used position nodes with
  | nil =>
      cases read
      rfl
  | cons record records ih =>
      cases object : record.isObject with
      | false =>
          rw [ofRecords_cons_other object] at read
          rw [objectsAt_cons_other object]
          exact ih read
      | true =>
          obtain ⟨wanted, first, others, asked, isFirst, areOthers, rfl⟩ :=
            (ofRecords_cons_eq_ok object).mp read
          rw [List.map_cons, ih areOthers, (ofRecord_eq_ok isFirst).1, objectsAt_cons_obj object,
            grantedIds, asked]

/-- The parents that are looked up are those that the records name. -/
theorem LooseNode.flatMap_parent_ofRecords :
    (nodes.flatMap fun loose => (loose.parent.map Json.lookupFaults).getD []) =
      records.flatMap Json.parentFaults := by
  induction records generalizing used position nodes with
  | nil =>
      cases read
      rfl
  | cons record records ih =>
      rw [List.flatMap_cons]
      cases object : record.isObject with
      | false =>
          rw [ofRecords_cons_other object] at read
          rw [Json.parentFaults_of_other object]
          exact ih read
      | true =>
          obtain ⟨_, first, others, _, isFirst, areOthers, rfl⟩ :=
            (ofRecords_cons_eq_ok object).mp read
          rw [List.flatMap_cons, ih areOthers, (ofRecord_eq_ok isFirst).2.2, Json.parentFaults]
          cases record.eitherField "parent_id" "parentId" <;> rfl

end Nodes

section Documents

variable {limits : Limits} {document : Json} {nodeRecords edgeRecords : List Json}
  (object : document.isObject = true) (nodes : document.Lists "nodes" nodeRecords)
  (edges : document.Lists "edges" edgeRecords)

include object nodes edges

/-- The nodes are read first, then parents and ends of edges are looked up. -/
theorem Graph.ofJson_of_lists :
    Graph.ofJson limits document = (do
      let loose ← LooseNode.ofRecords limits [] 0 nodeRecords
      let nodes ← loose.mapM (LooseNode.attach
        ((loose.filter fun loose => loose.node.isGroup).map fun loose => loose.node.id))
      let edges ← Edge.ofRecords limits (nodes.map Node.id) 0 edgeRecords
      let direction ←
        ((document.field "direction").given?.mapM (Json.toText limits)).mapError .excess
      .ok { nodes, edges, direction }) := by
  rw [Graph.ofJson, if_pos object, nodes.records, edges.records]
  rfl

/-- A document has a graph or fails with the first of its faults. -/
theorem Graph.ofJson_guarded :
    Guarded (documentFaults limits document nodeRecords edgeRecords)
      (Graph.ofJson limits document) := by
  rw [Graph.ofJson_of_lists object nodes edges, documentFaults, List.append_assoc,
    List.append_assoc]
  refine (LooseNode.ofRecords_guarded limits [] 0 nodeRecords).bind fun loose read => ?_
  rw [← LooseNode.flatMap_parent_ofRecords read]
  refine (Guarded.mapM fun node _ => node.attach_guarded _).bind fun attached ran => ?_
  have ids : nodeIdsOf limits nodeRecords = attached.map Node.id := by
    obtain ⟨-, fromRecords⟩ := LooseNode.ofRecords_eq_ok read
    obtain ⟨-, same, -⟩ := LooseNode.attach_all fromRecords (forall₂_of_mapM_eq_ok ran)
    rw [nodeIdsOf, ← LooseNode.map_id_ofRecords read, LooseNode.map_id_attached same]
  rw [ids]
  exact (Edge.ofRecords_guarded limits _ 0 edgeRecords).bind fun joined _ =>
    ((Json.direction_guarded limits _).bind fun direction _ => .ok _).congr
      (List.append_nil _)

/-- A document whose records are listed is read if it has no fault. Otherwise it fails with the
first one, and a document fails with nothing else. -/
theorem ofJson_loads :
    (documentFaults limits document nodeRecords edgeRecords = [] →
      ∃ graph, Graph.ofJson limits document = .ok graph ∧ graph.Sound ∧
        graph.ReadFrom limits nodeRecords edgeRecords ∧
        (document.field "direction").given?.mapM (Json.toText limits) = .ok graph.direction) ∧
      ∀ cause, Graph.ofJson limits document = .error cause ↔
        (documentFaults limits document nodeRecords edgeRecords).head? = some cause := by
  have guarded : Guarded (documentFaults limits document nodeRecords edgeRecords)
      (Graph.ofJson limits document) := Graph.ofJson_guarded object nodes edges
  refine ⟨fun faultless => ?_, guarded.eq_error_iff⟩
  obtain ⟨graph, read⟩ := guarded.exists_ok faultless
  obtain ⟨_, _, areNodes, areEdges, fromRecords⟩ := Graph.readFrom_ofJson read
  cases nodes.records.symm.trans areNodes
  cases edges.records.symm.trans areEdges
  obtain ⟨_, _, _, _, _, _, _, _, direction⟩ := Graph.ofJson_eq_ok read
  exact ⟨graph, read, Graph.sound_ofJson read, fromRecords, direction⟩

end Documents

/-- Node records full of values of other types. -/
def oddNodes : List Json :=
  [.obj [("id", .int 7), ("x", .str "1"), ("parent_id", .bool true)], .str "n",
    .obj [("id", .str "g"), ("type", .arr []), ("label", .obj []), ("y", .int 5)]]

/-- Edge records full of values of other types. The list that stands for an id belongs to an edge
that is dropped before it is looked up. -/
def oddEdges : List Json :=
  [.obj [("source", .str "q"), ("target", .arr [.str "g"])], .null,
    .obj [("from", .str "7"), ("to", .str "g"), ("id", .float 0.0), ("stroke", .int 1)]]

/-- The document of `oddNodes` and `oddEdges`. -/
def oddDocument : Json :=
  .obj [("direction", .arr [.str "TD"]), ("nodes", .arr oddNodes), ("edges", .arr oddEdges)]

/-- The graph of `oddDocument`. -/
def oddGraph : Graph Float where
  nodes := [{ id := "7", kind := .plain, label := "7", x := 0.0, y := 0.0 },
    { id := "g", kind := .plain, label := "g", x := 0.0, y := 5.0 }]
  edges := [{ id := "e7-g-2", source := "7", target := "g" }]
  direction := some "['TD']"

theorem ofJson_loads_oddDocument :
    oddDocument.Lists "nodes" oddNodes ∧ oddDocument.Lists "edges" oddEdges ∧
      documentFaults .standard oddDocument oddNodes oddEdges = [] ∧
      Graph.ofJson .standard oddDocument = .ok oddGraph ∧
      oddGraph.ReadFrom .standard oddNodes oddEdges := by
  have nodes : oddDocument.Lists "nodes" oddNodes := .inl rfl
  have edges : oddDocument.Lists "edges" oddEdges := .inl rfl
  have faultless : documentFaults .standard oddDocument oddNodes oddEdges = [] := by decide
  obtain ⟨graph, read, -, fromRecords, -⟩ := (ofJson_loads rfl nodes edges).1 faultless
  have known : Graph.ofJson .standard oddDocument = .ok oddGraph := rfl
  cases read.symm.trans known
  exact ⟨nodes, edges, faultless, read, fromRecords⟩

/-- A node at a coordinate of 401 digits. -/
def remoteNode : Json :=
  .obj [("id", .str "a"), ("x", .int (Int.ofNat (Nat.pow 10 200 * Nat.pow 10 200)))]

/-- A list as the source of an edge, an object as a parent, and a coordinate that is too large. -/
theorem ofJson_refused :
    Graph.ofJson .standard (.obj [("nodes", .arr [.obj [("id", .str "a")]]),
        ("edges", .arr [.obj [("source", .arr [.str "a"]), ("target", .str "a")]])]) =
      .error (.unhashable "list") ∧
    Graph.ofJson .standard (.obj [("nodes", .arr [.obj [("id", .str "a"),
        ("parent_id", .obj [("id", .str "a")])]])]) = .error (.unhashable "dict") ∧
    Graph.ofJson .standard (.obj [("nodes", .arr [remoteNode])]) = .error .numberTooLarge := by
  refine ⟨rfl, rfl, ?_⟩
  have faults : documentFaults .standard (.obj [("nodes", .arr [remoteNode])]) [remoteNode] [] =
      [.numberTooLarge] := by decide +kernel
  have nodes : (Json.obj [("nodes", .arr [remoteNode])]).Lists "nodes" [remoteNode] := .inl rfl
  have edges : (Json.obj [("nodes", .arr [remoteNode])]).Lists "edges" [] := .inr ⟨rfl, rfl⟩
  rw [(Graph.ofJson_guarded rfl nodes edges).eq_error_iff, faults]
  rfl

end Flowchart
