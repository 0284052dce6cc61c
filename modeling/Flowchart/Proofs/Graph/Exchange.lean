import Flowchart.Proofs.Graph.Portable
import Flowchart.Proofs.Graph.Reading

/-!
Graphs that are written and read again.

A portable graph is read from its document as it was: every step with which reading repairs foreign
documents leaves it alone. Only a coordinate that is the negative zero comes back as zero, which is
the same number.

Main definition: `Graph.Matches`. Main statement: `ofJson_toJson`.
-/

namespace Flowchart

/-! ### Numbers -/

/-- Every double is the same as itself, also the one that is no number. -/
theorem sameFloat_self (x : Float) : sameFloat x x = true := by
  have compared : (x == x) = x.toModel.unpack.beq x.toModel.unpack := rfl
  have isNaN : x.isNaN = x.toModel.unpack.isNaN := rfl
  rw [sameFloat, compared, isNaN]
  cases x.toModel.unpack with
  | notANumber => rfl
  | infinity sign => cases sign <;> rfl
  | zero sign => rfl
  | finite sign mantissa exponent =>
      have same : (compare exponent exponent).then (compare mantissa mantissa) = .eq := by
        have exponents : compare exponent exponent = .eq := Std.ReflCmp.compare_self
        have mantissas : compare mantissa mantissa = .eq := Std.ReflCmp.compare_self
        rw [exponents, mantissas]
        rfl
      cases sign with
      | positive =>
          change (some ((compare exponent exponent).then (compare mantissa mantissa)) == some .eq ||
            _) = true
          rw [same]
          rfl
      | negative =>
          change (some ((compare exponent exponent).then (compare mantissa mantissa)).swap ==
            some .eq || _) = true
          rw [same]
          rfl

/-- A coordinate as it is read. -/
def unsignedZero (x : Float) : Float :=
  if x == 0.0 then 0.0 else x

/-- Taking the sign off a zero gives the same number. -/
theorem sameFloat_unsignedZero (x : Float) : sameFloat x (unsignedZero x) = true := by
  unfold unsignedZero
  split
  case isTrue zero => simp [sameFloat, zero]
  case isFalse => exact sameFloat_self x

/-! ### Values -/

theorem Json.given?_of_shown {value : Json} (shown : value.isVoid = false) :
    value.given? = some value :=
  given?_eq_some.mpr ⟨rfl, shown⟩

theorem Json.given?_str {text : String} (named : text ≠ "") : (str text).given? = some (str text) :=
  given?_of_shown (by simpa [isVoid] using named)

/-- A value that is absent or given comes back. -/
theorem Json.given?_getD {value : Option Json} (shown : ∀ given ∈ value, given.isVoid = false) :
    (value.getD .null).given? = value := by
  cases value with
  | none => rfl
  | some given => exact given?_of_shown (shown given rfl)

variable (limits : Limits)

/-- A text that is not empty is taken as it is. -/
theorem Json.textOr_of_str {value : Json} {text : String} (absent : String)
    (given : value.given? = some (.str text)) : value.textOr limits absent = .ok text := by
  rw [textOr, given]
  rfl

/-- A kind is read back from its name. -/
theorem NodeKind.ofJson_name (kind : NodeKind) :
    NodeKind.ofJson limits (.str kind.name) = .ok kind := by
  cases kind <;> rfl

/-- A category is read back from its name. -/
theorem Category.ofJson_name (category : Category) :
    Category.ofJson limits (.str category.name) = .ok category := by
  cases category <;> rfl

/-- A stroke is read back from its name. -/
theorem Stroke.ofJson_name (stroke : Stroke) :
    Stroke.ofJson limits (.str stroke.name) = .ok stroke := by
  cases stroke <;> rfl

/-- An object that is attached to a node is read back. -/
theorem Json.attached?_toJson (attached : Attached) :
    attached.toJson.attached? = some attached := by
  cases attached <;> rfl

/-! ### Nodes -/

namespace Node

/-- A node as it is read, before its parent is looked up. -/
def loose (node : Node Float) : LooseNode where
  node := { node with parent := none, x := unsignedZero node.x, y := unsignedZero node.y }
  parent := node.parent.map Json.str

/-- A node as it is read once its parent is looked up. -/
def reread (node : Node Float) : Node Float :=
  { node with x := unsignedZero node.x, y := unsignedZero node.y }

/-- A node that was written and read again. -/
structure Matches (node read : Node Float) : Prop where
  rest : read = { node with x := read.x, y := read.y }
  x : sameFloat node.x read.x = true
  y : sameFloat node.y read.y = true

variable (node : Node Float)

/-- The fields that not every document of a node has. -/
theorem field_toJson :
    node.toJson.field "metadata" = (node.metadata.map Attached.toJson).getD .null ∧
      node.toJson.field "color" = (if node.isGroup then node.color.getD .null else .null) ∧
      node.toJson.field "width" = (if node.isGroup then .ofFloat? node.width else .null) ∧
      node.toJson.field "height" = (if node.isGroup then .ofFloat? node.height else .null) := by
  unfold toJson
  cases node.metadata <;> cases node.isGroup <;> exact ⟨rfl, rfl, rfl, rfl⟩

theorem number?_ofFloat? (number : Option Float) :
    (Json.ofFloat? number).number? = .ok number := by
  cases number <;> rfl

/-- The parent of a node is found in its record. -/
theorem eitherField_parent (named : ∀ parent ∈ node.parent, parent ≠ "") :
    node.toJson.eitherField "parent_id" "parentId" = node.parent.map Json.str := by
  have first : node.toJson.field "parent_id" = .ofText? node.parent := rfl
  have second : node.toJson.field "parentId" = .null := by
    unfold toJson
    cases node.metadata <;> cases node.isGroup <;> rfl
  rw [Json.eitherField, first, second]
  cases isParent : node.parent with
  | none => rfl
  | some parent =>
      rw [Json.ofText?, Json.given?_str (named parent isParent)]
      rfl

/-- The document of a node holds the node. -/
theorem ofRecord_toJson (portable : node.Portable) (named : ∀ parent ∈ node.parent, parent ≠ "") :
    LooseNode.ofRecord limits node.id node.toJson = .ok node.loose := by
  obtain ⟨metadata, color, width, height⟩ := node.field_toJson
  have label : (node.toJson.field "label").textOr limits node.id = .ok node.label :=
    Json.textOr_of_str limits node.id (Json.given?_str portable.label)
  have shape : (node.toJson.field "shape").given? = node.shape :=
    Json.given?_getD portable.shape
  have kind : NodeKind.ofJson limits (node.toJson.field "type") = .ok node.kind :=
    NodeKind.ofJson_name limits node.kind
  have category : Category.ofJson limits (node.toJson.field "category") = .ok node.category :=
    Category.ofJson_name limits node.category
  have x : (node.toJson.field "x").coordinate = .ok (unsignedZero node.x) := rfl
  have y : (node.toJson.field "y").coordinate = .ok (unsignedZero node.y) := rfl
  have attached : (node.toJson.field "metadata").attached? = node.metadata := by
    rw [metadata]
    cases node.metadata with
    | none => rfl
    | some attached => exact Json.attached?_toJson attached
  have sizes : (node.toJson.field "color").given? = node.color ∧
      (node.toJson.field "width").number? = .ok node.width ∧
      (node.toJson.field "height").number? = .ok node.height := by
    rw [color, width, height]
    cases isGroup : node.isGroup with
    | true =>
        exact ⟨Json.given?_getD portable.color, number?_ofFloat? _, number?_ofFloat? _⟩
    | false =>
        obtain ⟨colorless, noWidth, noHeight⟩ := portable.plain isGroup
        rw [colorless, noWidth, noHeight]
        exact ⟨rfl, rfl, rfl⟩
  rw [LooseNode.ofRecord, x, y, sizes.2.1, sizes.2.2, label, shape, kind, category, attached,
    sizes.1, eitherField_parent node named]
  rfl

/-- A node matches what is read back from its record. -/
theorem matches_reread : node.Matches node.reread :=
  ⟨rfl, sameFloat_unsignedZero node.x, sameFloat_unsignedZero node.y⟩

end Node

namespace LooseNode

/-- The record of a node wants the id of the node. -/
theorem wantedId_toJson {node : Node Float} (named : node.id ≠ "") (position : Nat) :
    wantedId limits position node.toJson = .ok node.id :=
  Json.textOr_of_str limits _ (Json.given?_str named)

/-- Nodes with ids of their own keep them. -/
theorem ofRecords_toJson {nodes : List (Node Float)} {used : List String}
    (distinct : (nodes.map Node.id).Nodup) (fresh : ∀ node ∈ nodes, node.id ∉ used)
    (named : ∀ node ∈ nodes, node.id ≠ "") (portable : ∀ node ∈ nodes, node.Portable)
    (parents : ∀ node ∈ nodes, ∀ parent ∈ node.parent, parent ≠ "") (position : Nat) :
    ofRecords limits used position (nodes.map Node.toJson) = .ok (nodes.map Node.loose) := by
  induction nodes generalizing used position with
  | nil => rfl
  | cons node nodes ih =>
      rw [List.forall_mem_cons] at fresh named portable parents
      rw [List.map_cons, List.nodup_cons] at distinct
      have own : assignId node.id used = node.id := by
        rw [assignId, if_neg (by simpa using fresh.1)]
      have unused : ∀ other ∈ nodes, other.id ∉ node.id :: used := by
        intro other member inside
        rcases List.mem_cons.mp inside with same | old
        · exact distinct.1 (same ▸ List.mem_map_of_mem member)
        · exact fresh.2 other member old
      have later := ih distinct.2 unused named.2 portable.2 parents.2 (position + 1)
      have first := node.ofRecord_toJson limits portable.1 parents.1
      rw [List.map_cons, List.map_cons]
      refine (ofRecords_cons_eq_ok rfl).mpr
        ⟨node.id, node.loose, _, wantedId_toJson limits named.1 position, ?_, ?_, rfl⟩
      · rw [own]
        exact first
      · rw [own]
        exact later

/-- A node whose parent is one of the groups is attached to it. -/
theorem attach_loose {groupIds : List String} {node : Node Float}
    (parents : ∀ parent ∈ node.parent,
      node.isGroup = false ∧ parent ≠ node.id ∧ parent ∈ groupIds) :
    node.loose.attach groupIds = .ok node.reread := by
  cases isParent : node.parent with
  | none => simp [attach, Node.loose, Node.reread, isParent]
  | some parent =>
      obtain ⟨inner, foreign, listed⟩ := parents parent isParent
      have isPlain : node.loose.node.isGroup = false := inner
      have named : node.loose.parent = some (.str parent) := by simp [Node.loose, isParent]
      have other : parent ≠ node.loose.node.id := foreign
      have same : node.reread = { node.loose.node with parent := some parent } := by
        rw [Node.reread, Node.loose, ← isParent]
      rw [same]
      simp [attach, named, other, Json.isOneOf, listed, isPlain, Json.text?]

end LooseNode

/-! ### Edges -/

/-- The document of an edge between nodes holds the edge. -/
theorem Edge.ofRecord?_toJson {nodeIds : List String} {edge : Edge} (portable : edge.Portable)
    (source : edge.source ∈ nodeIds) (target : edge.target ∈ nodeIds)
    (named : ∀ id ∈ nodeIds, id ≠ "") (position : Nat) :
    Edge.ofRecord? limits nodeIds position edge.toJson = .ok (some edge) := by
  have isSource : edge.toJson.eitherField "source" "from" = some (.str edge.source) := by
    have given : (edge.toJson.field "source").given? = some (.str edge.source) :=
      Json.given?_str (named _ source)
    rw [Json.eitherField, given]
    rfl
  have isTarget : edge.toJson.eitherField "target" "to" = some (.str edge.target) := by
    have given : (edge.toJson.field "target").given? = some (.str edge.target) :=
      Json.given?_str (named _ target)
    rw [Json.eitherField, given]
    rfl
  have id (absent : String) : (edge.toJson.field "id").textOr limits absent = .ok edge.id :=
    Json.textOr_of_str limits absent (Json.given?_str portable.id)
  have label : (edge.toJson.field "label").given? = edge.label :=
    Json.given?_getD portable.label
  have animated : edge.toJson.field "animated" = .bool edge.isDotted := rfl
  have dashed : edge.toJson.field "dashed" = .bool edge.isDotted := rfl
  have stroke : Stroke.ofJson limits (edge.toJson.field "stroke") = .ok edge.stroke :=
    Stroke.ofJson_name limits edge.stroke
  have directed : edge.toJson.field? "directed" = some (.bool edge.directed) := rfl
  have drawn : (if !edge.isDotted && !edge.isDotted then edge.stroke else .dotted) =
      edge.stroke := by
    cases same : edge.stroke <;> simp [Edge.isDotted, same]
  have made : Edge.ofEnds limits position edge.toJson edge.source edge.target = .ok edge := by
    simp only [Edge.ofEnds, stroke, id, label, animated, dashed, directed, Json.isVoid, drawn,
      Bool.not_not, bind, Except.bind]
  simp only [Edge.ofRecord?, isSource, isTarget, Json.isOneOf, List.contains_iff_mem.mpr source,
    List.contains_iff_mem.mpr target, Json.text?, Option.getD_some, made]
  rfl

/-- Edges between nodes that are there are read back from their records. -/
theorem Edge.ofRecords_toJson {nodeIds : List String} {edges : List Edge}
    (portable : ∀ edge ∈ edges, edge.Portable) (sources : ∀ edge ∈ edges, edge.source ∈ nodeIds)
    (targets : ∀ edge ∈ edges, edge.target ∈ nodeIds) (named : ∀ id ∈ nodeIds, id ≠ "")
    (position : Nat) :
    Edge.ofRecords limits nodeIds position (edges.map Edge.toJson) = .ok edges := by
  induction edges generalizing position with
  | nil => rfl
  | cons edge edges ih =>
      rw [List.forall_mem_cons] at portable sources targets
      have first := Edge.ofRecord?_toJson limits portable.1 sources.1 targets.1 named position
      have later := ih portable.2 sources.2 targets.2 (position + 1)
      rw [List.map_cons, Edge.ofRecords_cons_obj rfl, first, later]
      rfl

/-! ### Graphs -/

/-- A graph that was written and read again. -/
structure Graph.Matches (graph read : Graph Float) : Prop where
  /-- The nodes correspond, in their order. -/
  nodes : List.Forall₂ Node.Matches graph.nodes read.nodes
  edges : read.edges = graph.edges
  direction : read.direction = graph.direction

theorem Json.records_arr (key : String) {document : Json} {items : List Json}
    (held : document.field key = .arr items) : document.records key = .ok items := by
  rw [records, held]
  cases items <;> rfl

/-- The direction of a graph is read back from its document. -/
theorem direction_toJson {graph : Graph Float} (named : ∀ word ∈ graph.direction, word ≠ "") :
    (graph.toJson.field "direction").given?.mapM (Json.toText limits) = .ok graph.direction := by
  unfold Graph.toJson Graph.toFields
  cases declared : graph.direction with
  | none => rfl
  | some word =>
      have shown : word.isEmpty = false := by simpa using named word declared
      simp only [shown]
      exact congrArg (Option.mapM (Json.toText limits)) (Json.given?_str (named word declared))

/-- In a sound graph every node finds its parent among the groups. -/
theorem mapM_attach_loose {graph : Graph Float} (sound : graph.Sound) :
    (graph.nodes.map Node.loose).mapM (LooseNode.attach
        (((graph.nodes.map Node.loose).filter fun loose => loose.node.isGroup).map
          fun loose => loose.node.id)) =
      .ok (graph.nodes.map Node.reread) := by
  rw [List.mapM_map]
  refine mapM_eq_pure fun node member => LooseNode.attach_loose fun parent isParent => ?_
  obtain ⟨inner, foreign, group, isNode, isGroup, same⟩ :=
    sound.parents node member parent isParent
  have listed : group.loose ∈ (graph.nodes.map Node.loose).filter
      fun loose => loose.node.isGroup :=
    List.mem_filter.mpr ⟨List.mem_map_of_mem isNode, isGroup⟩
  refine ⟨inner, foreign, ?_⟩
  rw [← same]
  exact List.mem_map_of_mem (f := fun loose : LooseNode => loose.node.id) listed

/-- A portable graph is read from its document with all its nodes and edges. -/
theorem ofJson_toJson_eq {graph : Graph Float} (portable : graph.Portable) :
    Graph.ofJson limits graph.toJson = .ok { graph with nodes := graph.nodes.map Node.reread } := by
  have sound := portable.sound
  have nodeRecords : graph.toJson.records "nodes" = .ok (graph.nodes.map Node.toJson) :=
    Json.records_arr "nodes" rfl
  have edgeRecords : graph.toJson.records "edges" = .ok (graph.edges.map Edge.toJson) :=
    Json.records_arr "edges" rfl
  have direction := direction_toJson limits portable.direction
  have parents : ∀ node ∈ graph.nodes, ∀ parent ∈ node.parent, parent ≠ "" := by
    intro node member parent isParent
    obtain ⟨_, _, group, isNode, _, same⟩ := sound.parents node member parent isParent
    exact same ▸ sound.named group isNode
  have fresh : ∀ node ∈ graph.nodes, node.id ∉ ([] : List String) := by simp
  have loose := LooseNode.ofRecords_toJson limits sound.distinct fresh sound.named portable.nodes
    parents 0
  have attached := mapM_attach_loose sound
  have ids : (graph.nodes.map Node.reread).map Node.id = graph.nodes.map Node.id := by
    rw [List.map_map]
    rfl
  have edges : Edge.ofRecords limits ((graph.nodes.map Node.reread).map Node.id) 0
      (graph.edges.map Edge.toJson) = .ok graph.edges := by
    rw [ids]
    exact Edge.ofRecords_toJson limits portable.edges sound.sources sound.targets
      (List.forall_mem_map.mpr sound.named) 0
  have isObject : graph.toJson.isObject = true := rfl
  simp only [Graph.ofJson, isObject, if_true, nodeRecords, edgeRecords, direction]
  simp only [bind, Except.bind, loose]
  rw [attached]
  simp only [edges]
  rfl

/-- A portable graph survives being written and read. -/
theorem ofJson_toJson {graph : Graph Float} (portable : graph.Portable) :
    ∃ read, Graph.ofJson limits graph.toJson = .ok read ∧ graph.Matches read := by
  refine ⟨_, ofJson_toJson_eq limits portable, ?_, rfl, rfl⟩
  rw [List.forall₂_map_right_iff, List.forall₂_same]
  exact fun node _ => node.matches_reread

end Flowchart
