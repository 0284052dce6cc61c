/-!
The statements of the flowchart language: what one line of a diagram can say.
-/

namespace Flowchart

/-- How the line of a link is drawn. -/
inductive Stroke where
  | normal
  | dotted
  | thick
deriving Repr, Inhabited, DecidableEq

/-- The outline that a node is given by its brackets. -/
inductive Shape where
  | cylinder
  | stadium
  | subroutine
  | doublecircle
  | circle
  | hexagon
  | diamond
  | asymmetric
  | square
  | round
deriving Repr, Inhabited, DecidableEq

/-- The name of a stroke. -/
def Stroke.name : Stroke → String
  | normal => "normal"
  | dotted => "dotted"
  | thick => "thick"

/-- The name of a shape. -/
def Shape.name : Shape → String
  | cylinder => "cylinder"
  | stadium => "stadium"
  | subroutine => "subroutine"
  | doublecircle => "doublecircle"
  | circle => "circle"
  | hexagon => "hexagon"
  | diamond => "diamond"
  | asymmetric => "asymmetric"
  | square => "square"
  | round => "round"

/-- The characters before the text of a shape. -/
def Shape.opening : Shape → List Char
  | cylinder => "[(".toList
  | stadium => "([".toList
  | subroutine => "[[".toList
  | doublecircle => "(((".toList
  | circle => "((".toList
  | hexagon => "\x7b\x7b".toList
  | diamond => "\x7b".toList
  | asymmetric => ">".toList
  | square => "[".toList
  | round => "(".toList

/-- The characters after the text of a shape. -/
def Shape.closing : Shape → List Char
  | cylinder => ")]".toList
  | stadium => "])".toList
  | subroutine => "]]".toList
  | doublecircle => ")))".toList
  | circle => "))".toList
  | hexagon => "\x7d\x7d".toList
  | diamond => "\x7d".toList
  | asymmetric => "]".toList
  | square => "]".toList
  | round => ")".toList

/-- A mention of a node, with the shape and text that its brackets give it. -/
structure NodeRef where
  id : String
  body : Option (Shape × String)
deriving Repr, Inhabited, DecidableEq

/-- A connection between two groups of nodes. -/
structure Link where
  stroke : Stroke
  directed : Bool
  text : Option String
deriving Repr, Inhabited, DecidableEq

/-- A link of a chain with the group of nodes it leads to. -/
structure Hop where
  link : Link
  targets : List NodeRef
deriving Repr, Inhabited, DecidableEq

/-- One line of a diagram. -/
inductive Statement where
  /-- The declaration that starts a diagram, with the direction of its flow. -/
  | header (direction : Option String)
  /-- The start of a block, with its id and its title as far as they are given. -/
  | blockStart (id title : Option String)
  /-- The end of the innermost block. -/
  | blockEnd
  /-- A line about styling or interaction, which has no bearing on the graph. -/
  | ignored
  /-- Nodes on their own. -/
  | nodes (refs : List NodeRef)
  /-- A chain of links from a first group of nodes. -/
  | edges (first : List NodeRef) (hops : List Hop)
deriving Repr, Inhabited, DecidableEq

end Flowchart
