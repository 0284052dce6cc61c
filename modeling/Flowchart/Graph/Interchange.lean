import Flowchart.Draft.Records
import Flowchart.Graph.Build
import Flowchart.Json.Printer

/-!
Graphs as documents.

Writing is plain. Reading accepts documents from elsewhere: it skips what is no record, takes
defaults for what is missing, gives every node an id of its own, detaches nodes from parents that
are no groups, and drops edges without both ends. Where a text is wanted, any value is shown as
one, as far as it is within the limits.

Main definitions: `Graph.toJson`, `Graph.ofJson`.
-/

namespace Flowchart

/-! ### Writing -/

/-- A number that may be missing. -/
def Json.ofFloat? : Option Float → Json
  | some value => .float value
  | none => .null

/-- A node as a document. Color and size are written for groups only. -/
def Node.toJson (node : Node Float) : Json :=
  .obj ([("id", .str node.id), ("type", .str node.kind.name), ("label", .str node.label),
      ("category", .str node.category.name), ("parent_id", .ofText? node.parent),
      ("shape", node.shape.getD .null), ("x", .float node.x), ("y", .float node.y)] ++
    (match node.metadata with
      | some attached => [("metadata", attached.toJson)]
      | none => []) ++
    (if node.isGroup then
      [("color", node.color.getD .null), ("width", .ofFloat? node.width),
        ("height", .ofFloat? node.height)]
    else []))

/-- An edge as a document. -/
def Edge.toJson (edge : Edge) : Json :=
  .obj [("id", .str edge.id), ("source", .str edge.source), ("target", .str edge.target),
    ("label", edge.label.getD .null), ("stroke", .str edge.stroke.name),
    ("directed", .bool edge.directed), ("animated", .bool edge.isDotted),
    ("dashed", .bool edge.isDotted)]

/-- The fields of a graph's document. An empty direction is left out. -/
def Graph.toFields (graph : Graph Float) : Keyed Json :=
  [("nodes", .arr (graph.nodes.map Node.toJson)), ("edges", .arr (graph.edges.map Edge.toJson))] ++
    match graph.direction with
    | some direction => if direction.isEmpty then [] else [("direction", .str direction)]
    | none => []

/-- A graph as a document. -/
def Graph.toJson (graph : Graph Float) : Json :=
  .obj graph.toFields

/-! ### Reading -/

/-- Why a document is no graph. -/
inductive DocumentError where
  | notObject (typeName : String)
  | notIterable (typeName : String)
  /-- A list or object stands where an id is looked up. -/
  | unhashable (typeName : String)
  | numberTooLarge
  /-- A value that is wanted as a text is beyond the limits. -/
  | excess (cause : Excess)
deriving Repr, Inhabited, DecidableEq

/-- The wording of a document error. -/
def DocumentError.message : DocumentError → String
  | notObject typeName => "'" ++ typeName ++ "' object has no attribute 'get'"
  | notIterable typeName => "'" ++ typeName ++ "' object is not iterable"
  | unhashable typeName => "unhashable type: '" ++ typeName ++ "'"
  | numberTooLarge => "int too large to convert to float"
  | excess cause => cause.message

/-- The number that a value gives, if it is one. -/
def Json.number? : Json → Except DocumentError (Option Float)
  | .int value =>
    let number := Decimal.intToFloat value
    if number.isInf then .error .numberTooLarge else .ok (some number)
  | .float value => .ok (some value)
  | _ => .ok none

/-- A coordinate: zero unless a number is given, and never the negative zero. -/
def Json.coordinate (value : Json) : Except DocumentError Float :=
  match value.number? with
  | .ok (some number) => .ok (if number == 0.0 then 0.0 else number)
  | .ok none => .ok 0.0
  | .error cause => .error cause

/-- The text of a value that is given, or else another one. -/
def Json.textOr (limits : Limits) (absent : String) (value : Json) :
    Except DocumentError String :=
  match value.given? with
  | some given => (given.toText limits).mapError .excess
  | none => .ok absent

/-- The text of a value that may be absent, in small letters. -/
def Json.keyword (limits : Limits) (value : Json) : Except DocumentError String :=
  (value.textOr limits "").map Text.lowerForKeywords

/-- The node kind of a word; older documents call plain nodes processes. -/
def NodeKind.ofWord (word : String) : NodeKind :=
  if word = "process" then plain else (NodeKind.ofName? word).getD plain

/-- The node kind that a value names. -/
def NodeKind.ofJson (limits : Limits) (value : Json) : Except DocumentError NodeKind :=
  (value.keyword limits).map NodeKind.ofWord

/-- The category that a value names. -/
def Category.ofJson (limits : Limits) (value : Json) : Except DocumentError Category :=
  (value.keyword limits).map fun word => (Category.ofName? word).getD other

/-- The stroke that a value names. -/
def Stroke.ofJson (limits : Limits) (value : Json) : Except DocumentError Stroke :=
  (value.keyword limits).map fun word => (Stroke.ofName? word).getD normal

/-- The first of two fields that is given. -/
def Json.eitherField (first second : String) (record : Json) : Option Json :=
  ((record.field first).given?).orElse fun _ => (record.field second).given?

/-- The first id made of a base and a number that is not in use. There are more numbers to try
than ids in use. -/
def freshId (base : String) (used : List String) : String :=
  let candidate := fun (number : Nat) => base ++ "_" ++ Decimal.natText number
  candidate ((((List.range used.length).map (· + 1)).find? fun number =>
    !used.contains (candidate number)).getD (used.length + 1))

/-- The id that the record at a position asks for. -/
def wantedId (limits : Limits) (position : Nat) (record : Json) : Except DocumentError String :=
  (record.field "id").textOr limits ("n" ++ Decimal.natText (position + 1))

/-- The id of the next node: the wanted one, unless it is in use. -/
def assignId (wanted : String) (used : List String) : String :=
  if used.contains wanted then freshId wanted used else wanted

/-- A node with the parent that its record names, which is still to be checked. -/
structure LooseNode where
  node : Node Float
  parent : Option Json
deriving Repr, Inhabited

/-- The node of a record. -/
def LooseNode.ofRecord (limits : Limits) (id : String) (record : Json) :
    Except DocumentError LooseNode := do
  let kind ← NodeKind.ofJson limits (record.field "type")
  let category ← Category.ofJson limits (record.field "category")
  let label ← (record.field "label").textOr limits id
  let x ← (record.field "x").coordinate
  let y ← (record.field "y").coordinate
  let width ← (record.field "width").number?
  let height ← (record.field "height").number?
  .ok
    { node :=
        { id, kind, label, category
          shape := (record.field "shape").given?
          metadata := (record.field "metadata").attached?
          color := (record.field "color").given?
          x, y, width, height }
      parent := record.eitherField "parent_id" "parentId" }

/-- The nodes of the records from a position on. What is no object is skipped but keeps its
position. -/
def LooseNode.ofRecords (limits : Limits) (used : List String) (position : Nat) :
    List Json → Except DocumentError (List LooseNode)
  | [] => .ok []
  | record :: records =>
    if record.isObject then do
      let id := assignId (← wantedId limits position record) used
      let node ← LooseNode.ofRecord limits id record
      let nodes ← LooseNode.ofRecords limits (id :: used) (position + 1) records
      .ok (node :: nodes)
    else LooseNode.ofRecords limits used (position + 1) records

/-- Whether a value is one of the ids. Lists and objects cannot be looked up. -/
def Json.isOneOf (ids : List String) : Json → Except DocumentError Bool
  | .str text => .ok (ids.contains text)
  | .arr items => .error (.unhashable (Json.arr items).typeName)
  | .obj fields => .error (.unhashable (Json.obj fields).typeName)
  | .escaped fields => .error (.unhashable (Json.escaped fields).typeName)
  | _ => .ok false

/-- A node with its parent, if that is a group. Groups have no parent, and no node is its own. -/
def LooseNode.attach (groupIds : List String) (loose : LooseNode) :
    Except DocumentError (Node Float) :=
  match loose.parent with
  | none => .ok loose.node
  | some parent =>
    if parent.text? == some loose.node.id then .ok loose.node
    else match parent.isOneOf groupIds with
      | .error cause => .error cause
      | .ok isGroup =>
        if isGroup && !loose.node.isGroup then .ok { loose.node with parent := parent.text? }
        else .ok loose.node

/-- The edge of a record between two nodes. -/
def Edge.ofEnds (limits : Limits) (position : Nat) (record : Json) (source target : String) :
    Except DocumentError Edge := do
  let stroke ← Stroke.ofJson limits (record.field "stroke")
  let id ← (record.field "id").textOr limits (edgeId source target position)
  .ok
    { id, source, target
      label := (record.field "label").given?
      stroke :=
        if (record.field "animated").isVoid && (record.field "dashed").isVoid then stroke
        else .dotted
      directed := match record.field? "directed" with
        | some directed => !directed.isVoid
        | none => true }

/-- The edge of the record at a position, unless it has not both ends. -/
def Edge.ofRecord? (limits : Limits) (nodeIds : List String) (position : Nat) (record : Json) :
    Except DocumentError (Option Edge) :=
  match record.eitherField "source" "from", record.eitherField "target" "to" with
  | some source, some target =>
    match source.isOneOf nodeIds with
    | .error cause => .error cause
    | .ok false => .ok none
    | .ok true =>
      match target.isOneOf nodeIds with
      | .error cause => .error cause
      | .ok false => .ok none
      | .ok true =>
        (Edge.ofEnds limits position record (source.text?.getD "") (target.text?.getD "")).map some
  | _, _ => .ok none

/-- The edges of the records from a position on. What is no object is skipped but keeps its
position. -/
def Edge.ofRecords (limits : Limits) (nodeIds : List String) (position : Nat) :
    List Json → Except DocumentError (List Edge)
  | [] => .ok []
  | record :: records =>
    if record.isObject then do
      let edge ← Edge.ofRecord? limits nodeIds position record
      let edges ← Edge.ofRecords limits nodeIds (position + 1) records
      .ok (edge.toList ++ edges)
    else Edge.ofRecords limits nodeIds (position + 1) records

/-- The records of a field. -/
def Json.records (key : String) (document : Json) : Except DocumentError (List Json) :=
  match (document.field key).items with
  | .ok items => .ok items
  | .error typeName => .error (.notIterable typeName)

/-- The graph of a document. -/
def Graph.ofJson (limits : Limits) (document : Json) : Except DocumentError (Graph Float) :=
  if document.isObject then do
    let loose ← LooseNode.ofRecords limits [] 0 (← document.records "nodes")
    let groupIds := (loose.filter fun loose => loose.node.isGroup).map fun loose => loose.node.id
    let nodes ← loose.mapM (LooseNode.attach groupIds)
    let edges ← Edge.ofRecords limits (nodes.map Node.id) 0 (← document.records "edges")
    let direction ←
      ((document.field "direction").given?.mapM (Json.toText limits)).mapError .excess
    .ok { nodes, edges, direction }
  else .error (.notObject document.typeName)

/-! ### Comparing -/

/-- Equality of optional values. -/
def sameOption {α : Type} (same : α → α → Bool) : Option α → Option α → Bool
  | none, none => true
  | some x, some y => same x y
  | _, _ => false

/-- Equality of nodes in every field. -/
def Node.same (left right : Node Float) : Bool :=
  left.id == right.id && left.kind == right.kind && left.label == right.label &&
    left.category == right.category && left.parent == right.parent &&
    sameOption Json.same left.shape right.shape &&
    sameOption Attached.same left.metadata right.metadata &&
    sameOption Json.same left.color right.color &&
    sameFloat left.x right.x && sameFloat left.y right.y &&
    sameOption sameFloat left.width right.width && sameOption sameFloat left.height right.height

/-- Equality of edges in every field. -/
def Edge.same (left right : Edge) : Bool :=
  left.id == right.id && left.source == right.source && left.target == right.target &&
    sameOption Json.same left.label right.label && left.stroke == right.stroke &&
    left.directed == right.directed

/-- Equality of lists, item by item. -/
def sameList {α : Type} (same : α → α → Bool) : List α → List α → Bool
  | [], [] => true
  | x :: xs, y :: ys => same x y && sameList same xs ys
  | _, _ => false

/-- Equality of graphs in every field of every node and edge, in their order. -/
def Graph.same (left right : Graph Float) : Bool :=
  sameList Node.same left.nodes right.nodes && sameList Edge.same left.edges right.edges &&
    left.direction == right.direction

end Flowchart
