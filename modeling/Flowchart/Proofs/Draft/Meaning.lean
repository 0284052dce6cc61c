import Flowchart.Draft.Load

/-!
The meaning of a sequence of statements, without any state that is carried along.

Each part of a draft is described on its own: the vertices by their mentions, the arcs by the
chains, the blocks by the statements that open them, and the members of a block by the mentions at
whose place the block is the innermost open one.

Main definition: `Draft.meaning`.
-/

namespace Flowchart

/-- The statements of lines, in the order of the lines that make them. -/
def Source.statementsOf (lines : List (List Char)) : List Statement :=
  (lines.filter fun line => !Source.isSilent line).filterMap fun line =>
    (Statement.ofLine? line).join

/-- The statements of a source. -/
def Source.statements (source : String) : List Statement :=
  Source.statementsOf (Source.trimmedLines source.toList)

namespace Statement

/-- The nodes that a statement mentions, from left to right. -/
def mentions : Statement → List NodeRef
  | .nodes refs => refs
  | .edges first hops => first ++ hops.flatMap Hop.targets
  | _ => []

/-- The arcs of the hops of a chain. Each hop leads from the group before it, and its arcs go from
every source to every target, source by source. -/
def chainArcs (first : List NodeRef) (hops : List Hop) : List Arc :=
  ((first :: hops.map Hop.targets).zip hops).flatMap fun step =>
    step.1.flatMap fun source => step.2.targets.map fun target =>
      { source := source.id
        target := target.id
        text := step.2.link.text
        stroke := step.2.link.stroke.name
        directed := step.2.link.directed }

/-- The arcs that a statement draws. -/
def arcs : Statement → List Arc
  | .edges first hops => chainArcs first hops
  | _ => []

/-- The id and title that a statement gives to a block it opens. -/
def opening? : Statement → Option (Option String × Option String)
  | .blockStart id title => some (id, title)
  | _ => none

end Statement

namespace Meaning

/-- The nodes that statements mention, in order. -/
def mentions (statements : List Statement) : List NodeRef :=
  statements.flatMap Statement.mentions

/-- The blocks that statements open, in order. -/
def openings (statements : List Statement) : List (Option String × Option String) :=
  statements.filterMap Statement.opening?

/-! ### Vertices -/

/-- The shape and text of the last mention of an id that carries brackets. -/
def lastBody (refs : List NodeRef) (id : String) : Option (Shape × String) :=
  refs.reverse.findSome? fun ref => if ref.id = id then ref.body else none

/-- The vertex that mentions make of an id. -/
def vertex (refs : List NodeRef) (id : String) : Vertex where
  id := id
  text := (lastBody refs id).map Prod.snd
  shape := (lastBody refs id).map fun body => body.1.name

/-- The mentioned ids in the order of their first mentions. -/
def ids (refs : List NodeRef) : List String :=
  (refs.map NodeRef.id).eraseDups

/-! ### Blocks -/

/-- The number of the innermost block that is open after statements, which are given backwards:
the last opening for which no `end` is left. The first argument counts the `end` statements that
still wait for the opening they close. -/
def lastOpen : Nat → List Statement → Option Nat
  | _, [] => none
  | waiting, .blockEnd :: earlier => lastOpen (waiting + 1) earlier
  | 0, .blockStart _ _ :: earlier => some (openings earlier).length
  | waiting + 1, .blockStart _ _ :: earlier => lastOpen waiting earlier
  | waiting, _ :: earlier => lastOpen waiting earlier

/-- The number of the innermost block that is open after statements. -/
def innermost (before : List Statement) : Option Nat :=
  lastOpen 0 before.reverse

/-- The mentions in statements that stand after others, each with the innermost block at its
place. -/
def placed (before : List Statement) : List Statement → List (Option Nat × String)
  | [] => []
  | statement :: statements =>
    statement.mentions.map (fun ref => (innermost before, ref.id)) ++
      placed (before ++ [statement]) statements

/-- The ids mentioned inside the block of a number, in the order of their first mentions there. -/
def members (mentioned : List (Option Nat × String)) (number : Nat) : List String :=
  ((mentioned.filter fun place => place.1 == some number).map Prod.snd).eraseDups

/-- The block of a number. An id of its own is made from the number if it has none, and the id
stands in for a title that is missing or empty. -/
def block (mentioned : List (Option Nat × String)) (number : Nat)
    (opening : Option String × Option String) : Block where
  id := opening.1.getD ("subGraph" ++ toString number)
  title := some ((opening.2.filter fun title => !title.isEmpty).getD
    (opening.1.getD ("subGraph" ++ toString number)))
  members := members mentioned number

/-- The direction that the first statement declares. -/
def direction : List Statement → Option String
  | .header direction :: _ => direction
  | _ => none

end Meaning

/-- The draft that a sequence of statements stands for. -/
def Draft.meaning (statements : List Statement) : Draft where
  direction := Meaning.direction statements
  vertices :=
    (Meaning.ids (Meaning.mentions statements)).map (Meaning.vertex (Meaning.mentions statements))
  arcs := statements.flatMap Statement.arcs
  blocks := (Meaning.openings statements).mapIdx (Meaning.block (Meaning.placed [] statements))

end Flowchart
