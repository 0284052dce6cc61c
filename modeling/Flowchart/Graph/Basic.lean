import Flowchart.Geometry.Scalar
import Flowchart.Json.Escaped
import Flowchart.Statement.Basic

/-!
Graphs: typed nodes, some of them groups that hold others, and the edges between them.
-/

namespace Flowchart

/-- What a node stands for. -/
inductive NodeKind where
  | start
  | finish
  | plain
  | decision
  | database
  | client
  | server
  | group
deriving Repr, Inhabited, DecidableEq

/-- What a node is filtered by. -/
inductive Category where
  | client
  | server
  | database
  | group
  | other
deriving Repr, Inhabited, DecidableEq

/-- The name of a node kind. -/
def NodeKind.name : NodeKind → String
  | start => "start"
  | finish => "end"
  | plain => "default"
  | decision => "decision"
  | database => "database"
  | client => "client"
  | server => "server"
  | group => "group"

/-- The name of a category. -/
def Category.name : Category → String
  | client => "client"
  | server => "server"
  | database => "database"
  | group => "group"
  | other => "other"

/-- The node kind of a name. -/
def NodeKind.ofName? (name : String) : Option NodeKind :=
  [start, finish, plain, decision, database, client, server, group].find? fun kind =>
    kind.name == name

/-- The category of a name. -/
def Category.ofName? (name : String) : Option Category :=
  [client, server, database, group, other].find? fun category => category.name == name

/-- The stroke of a name. -/
def Stroke.ofName? (name : String) : Option Stroke :=
  [normal, dotted, thick].find? fun stroke => stroke.name == name

/-- A node. Positions are those of the top left corner; a node inside a group is positioned
relative to it. Shape and color may be any value that a document gives. -/
structure Node (K : Type) where
  id : String
  kind : NodeKind
  label : String
  category : Category := .other
  parent : Option String := none
  shape : Option Json := none
  metadata : Option Attached := none
  color : Option Json := none
  x : K
  y : K
  width : Option K := none
  height : Option K := none
deriving Repr, Inhabited

/-- Whether a node is a group. -/
def Node.isGroup {K : Type} (node : Node K) : Bool :=
  node.kind == .group

/-- A node at another position. -/
def Node.movedTo {K : Type} (node : Node K) (x y : K) : Node K :=
  { node with x := x, y := y }

/-- An edge between two nodes. -/
structure Edge where
  id : String
  source : String
  target : String
  label : Option Json := none
  stroke : Stroke := .normal
  directed : Bool := true
deriving Repr, Inhabited

/-- Dotted edges are drawn dashed and animated. -/
def Edge.isDotted (edge : Edge) : Bool :=
  edge.stroke == .dotted

/-- A graph, with the direction that its diagram declares. -/
structure Graph (K : Type) where
  nodes : List (Node K) := []
  edges : List Edge := []
  direction : Option String := none
deriving Repr, Inhabited

namespace Graph

variable {K : Type}

/-- The groups in order. -/
def groups (graph : Graph K) : List (Node K) :=
  graph.nodes.filter Node.isGroup

/-- The first node with an id. -/
def node? (graph : Graph K) (id : String) : Option (Node K) :=
  graph.nodes.find? fun node => node.id == id

/-- Move the first node with an id. -/
def moveNode (graph : Graph K) (id : String) (x y : K) : Graph K :=
  { graph with nodes := move graph.nodes }
where
  /-- Move the first node with the id in a list. -/
  move : List (Node K) → List (Node K)
    | [] => []
    | node :: nodes => if node.id == id then node.movedTo x y :: nodes else node :: move nodes

end Graph

end Flowchart
