import Flowchart.Proofs.Graph.Reading

/-!
Ids that one record alone carries.

Ids are made up while later records have not been seen: a record without an id is counted, and one
whose id is in use is numbered. So an id that only one record carries goes to its node, unless an
earlier node got the same one made up. Then it leads to that node, and with it every edge that names
the id.

Main definitions: `Invented`, `Graph.FoundAt`. Main statement: `ofJson_explicit`.
-/

namespace Flowchart

variable {limits : Limits}

/-- The id that a record carries, as a text. -/
def Json.ownId? (limits : Limits) (record : Json) : Option String :=
  ((record.field "id").given?).bind fun id => (id.toText limits).toOption

/-- The ids made up for a record when some are in use. -/
inductive Invented (limits : Limits) (position : Nat) (record : Json) (used : List String) :
    String → Prop where
  /-- A record without an id is counted. -/
  | counted (missing : (record.field "id").given? = none) :
      Invented limits position record used ("n" ++ Decimal.natText (position + 1))
  /-- A record whose id is in use is numbered. -/
  | numbered {wanted id : String} (asked : wantedId limits position record = .ok wanted)
      (taken : wanted ∈ used) (free : FirstFree wanted used id) :
      Invented limits position record used id

/-- A record asks for the id that it carries. -/
theorem wantedId_of_ownId? {record : Json} {id : String} (carries : record.ownId? limits = some id)
    (position : Nat) : wantedId limits position record = .ok id := by
  obtain ⟨given, isGiven, shown⟩ := Option.bind_eq_some_iff.mp carries
  refine Json.textOr_eq_ok.mpr (.inr ⟨given, isGiven, ?_⟩)
  cases text : given.toText limits with
  | error => simp [text, Except.toOption] at shown
  | ok text' =>
      rw [text] at shown
      cases shown
      rfl

namespace Granted

variable {wanted id : String} {used : List String}

theorem congr {used' : List String} (granted : Granted wanted used id)
    (same : ∀ other, other ∈ used ↔ other ∈ used') : Granted wanted used' id := by
  unfold Granted FirstFree at granted ⊢
  simpa only [same] using granted

/-- A granted id is the one that the record carries, or else it is made up. -/
theorem own_or_invented {position : Nat} {record : Json}
    (asked : wantedId limits position record = .ok wanted) (granted : Granted wanted used id) :
    record.ownId? limits = some id ∨ Invented limits position record used id := by
  unfold Granted at granted
  split at granted
  case isTrue taken => exact Or.inr (.numbered asked taken granted)
  case isFalse =>
    subst granted
    rcases Json.textOr_eq_ok.mp asked with ⟨missing, rfl⟩ | ⟨given, isGiven, shown⟩
    · exact Or.inr (.counted missing)
    · left
      rw [Json.ownId?, isGiven, Option.bind_some, shown]
      rfl

end Granted

namespace Allotted

variable {used ids : List String} {entries : List (Json × Nat)}

theorem length_eq (allotted : Allotted limits used entries ids) :
    entries.length = ids.length := by
  induction allotted with
  | nil => rfl
  | cons _ _ _ ih => exact congrArg (· + 1) ih

/-- When an id is granted, the earlier ones are in use. -/
theorem granted_getElem (allotted : Allotted limits used entries ids) {place : Nat} {id : String}
    {entry : Json × Nat} (isEntry : entries[place]? = some entry) (isId : ids[place]? = some id) :
    ∃ wanted, wantedId limits entry.2 entry.1 = .ok wanted ∧
      Granted wanted (used ++ ids.take place) id := by
  induction allotted generalizing place with
  | nil => cases isEntry
  | @cons used ids record position wanted first entries asked granted others ih =>
      cases place with
      | zero =>
          cases isEntry
          cases isId
          exact ⟨wanted, asked, by simpa using granted⟩
      | succ place =>
          obtain ⟨later, isAsked, isGranted⟩ := ih isEntry isId
          refine ⟨later, isAsked, isGranted.congr fun other => ?_⟩
          simp [or_left_comm]

/-- An id that one record alone carries goes to it, unless it was made up for an earlier one. -/
theorem own_or_taken (allotted : Allotted limits [] entries ids) {place : Nat} {record : Json}
    {position : Nat} {id : String} (isEntry : entries[place]? = some (record, position))
    (carries : record.ownId? limits = some id)
    (only : ∀ other entry, entries[other]? = some entry → entry.1.ownId? limits = some id →
      other = place) :
    ids[place]? = some id ∨ ∃ other < place, ids[other]? = some id ∧
      ∃ entry, entries[other]? = some entry ∧
        Invented limits entry.2 entry.1 (ids.take other) id := by
  have inside : place < ids.length := by
    rw [← allotted.length_eq]
    exact (List.getElem?_eq_some_iff.mp isEntry).1
  obtain ⟨wanted, asked, granted⟩ :=
    allotted.granted_getElem isEntry (List.getElem?_eq_getElem inside)
  cases asked.symm.trans (wantedId_of_ownId? carries position)
  unfold Granted at granted
  rw [List.nil_append] at granted
  split at granted
  case isFalse =>
    left
    rw [List.getElem?_eq_getElem inside, granted]
  case isTrue taken =>
    right
    obtain ⟨other, isTaken⟩ := List.getElem?_of_mem taken
    obtain ⟨before, isTaken⟩ : other < place ∧ ids[other]? = some id := by
      rw [List.getElem?_take] at isTaken
      split at isTaken
      case isTrue before => exact ⟨before, isTaken⟩
      case isFalse => cases isTaken
    have inside' : other < entries.length := by
      rw [allotted.length_eq]
      exact before.trans inside
    have isEntry' := List.getElem?_eq_getElem inside'
    refine ⟨other, before, isTaken, _, isEntry', ?_⟩
    obtain ⟨_, asked', granted'⟩ := allotted.granted_getElem isEntry' isTaken
    rw [List.nil_append] at granted'
    rcases granted'.own_or_invented asked' with own | invented
    · exact absurd (only other _ isEntry' own) before.ne
    · exact invented

end Allotted

namespace Graph

/-- An id leads to the node at a place. -/
def FoundAt (graph : Graph Float) (id : String) (place : Nat) : Prop :=
  ∃ node, graph.nodes[place]? = some node ∧ node.id = id ∧ graph.node? id = some node

theorem foundAt_of_getElem? {graph : Graph Float} (distinct : (graph.nodes.map Node.id).Nodup)
    {id : String} {place : Nat} (isId : (graph.nodes.map Node.id)[place]? = some id) :
    graph.FoundAt id place := by
  rw [List.getElem?_map, Option.map_eq_some_iff] at isId
  obtain ⟨node, isNode, rfl⟩ := isId
  exact ⟨node, isNode, rfl, find?_node distinct (List.mem_of_getElem? isNode)⟩

end Graph

/-- An id that one node record alone carries leads to the node of that record, unless the same id
was made up for an earlier one; then it leads to the node of that one. -/
theorem ofJson_explicit {document : Json} {graph : Graph Float}
    (read : Graph.ofJson limits document = .ok graph) :
    ∃ nodeRecords, document.records "nodes" = .ok nodeRecords ∧
      List.Forall₂ (fun entry node => node.ReadFrom limits entry.1) (objectsAt 0 nodeRecords)
        graph.nodes ∧
      ∀ place record position id,
        (objectsAt 0 nodeRecords)[place]? = some (record, position) →
        record.ownId? limits = some id →
        (∀ other entry, (objectsAt 0 nodeRecords)[other]? = some entry →
          entry.1.ownId? limits = some id → other = place) →
        graph.FoundAt id place ∨
          ∃ other < place, graph.FoundAt id other ∧
            ∃ entry, (objectsAt 0 nodeRecords)[other]? = some entry ∧
              Invented limits entry.2 entry.1 ((graph.nodes.take other).map Node.id) id := by
  obtain ⟨nodeRecords, _, areNodes, -, allotted, nodes, -⟩ := Graph.readFrom_ofJson read
  refine ⟨nodeRecords, areNodes, nodes, fun place record position id isEntry carries only => ?_⟩
  rcases allotted.own_or_taken isEntry carries only with own | ⟨other, before, taken, entry, made⟩
  · exact Or.inl (Graph.foundAt_of_getElem? allotted.nodup own)
  · have found := Graph.foundAt_of_getElem? allotted.nodup taken
    rw [← List.map_take] at made
    exact Or.inr ⟨other, before, found, entry, made⟩

/-- Node records of which the second is numbered, and gets the id of the third. -/
def repeatedRecords : List Json :=
  [.obj [("id", .str "a")], .obj [("id", .str "a")], .obj [("id", .str "a_1")],
    .obj [("id", .str "b")]]

theorem ofJson_explicit_repeatedRecords :
    ∃ graph, Graph.ofJson .standard (.obj [("nodes", .arr repeatedRecords)]) = .ok graph ∧
      graph.nodes.map Node.id = ["a", "a_1", "a_1_1", "b"] ∧
      (graph.FoundAt "a_1" 2 ∨
        ∃ other < 2, graph.FoundAt "a_1" other ∧
          ∃ entry, (objectsAt 0 repeatedRecords)[other]? = some entry ∧
            Invented .standard entry.2 entry.1 ((graph.nodes.take other).map Node.id) "a_1") := by
  obtain ⟨graph, read, ids⟩ : ∃ graph,
      Graph.ofJson .standard (.obj [("nodes", .arr repeatedRecords)]) = .ok graph ∧
        graph.nodes.map Node.id = ["a", "a_1", "a_1_1", "b"] := ⟨_, rfl, rfl⟩
  obtain ⟨nodeRecords, areNodes, -, law⟩ := ofJson_explicit read
  cases areNodes
  refine ⟨graph, read, ids, law 2 _ 2 "a_1" rfl rfl fun other entry isEntry carries => ?_⟩
  rcases other with _ | _ | _ | _ | other
  case succ.succ.zero => rfl
  case succ.succ.succ.succ => cases isEntry
  all_goals
    cases isEntry
    exact absurd carries (by decide)

/-- An edge that names the node of the second record, after one that is counted. -/
def countedDocument : Json :=
  .obj [("nodes", .arr [.obj [], .obj [("id", .str "n1")], .obj [("id", .str "a")]]),
    ("edges", .arr [.obj [("source", .str "a"), ("target", .str "n1")]])]

/-- The edge leads to the node that is counted, which carries no id. -/
theorem ofJson_countedDocument :
    ∃ nodeRecords graph, countedDocument.records "nodes" = .ok nodeRecords ∧
      (objectsAt 0 nodeRecords).map (fun entry => entry.1.ownId? .standard) =
        [none, some "n1", some "a"] ∧
      Graph.ofJson .standard countedDocument = .ok graph ∧
      graph.nodes.map Node.id = ["n1", "n1_1", "a"] ∧
      graph.edges.map Edge.target = ["n1"] ∧
      graph.FoundAt "n1" 0 ∧ ¬ graph.FoundAt "n1" 1 := by
  refine ⟨_, _, rfl, rfl, rfl, rfl, rfl, ⟨_, rfl, rfl, rfl⟩, ?_⟩
  rintro ⟨node, isNode, named, -⟩
  cases isNode
  revert named
  decide

end Flowchart
