/-!
Drafts: the vertices, edges and blocks that a reader finds in a diagram, before anything is
normalized. Shapes and strokes are still plain words.
-/

namespace Flowchart

/-- A vertex as it was read. -/
structure Vertex where
  id : String
  text : Option String := none
  shape : Option String := none
deriving Repr, Inhabited, DecidableEq

/-- An edge as it was read. -/
structure Arc where
  source : String
  target : String
  text : Option String := none
  stroke : String := "normal"
  directed : Bool := true
deriving Repr, Inhabited, DecidableEq

/-- A block as it was read, with the ids of the vertices it lists. -/
structure Block where
  id : String
  title : Option String := none
  members : List String := []
deriving Repr, Inhabited, DecidableEq

/-- What a reader finds in a diagram. -/
structure Draft where
  direction : Option String := none
  vertices : List Vertex := []
  arcs : List Arc := []
  blocks : List Block := []
deriving Repr, Inhabited, DecidableEq

/-- The ids of the blocks. -/
def Draft.blockIds (draft : Draft) : List String :=
  draft.blocks.map Block.id

/-- Whether some vertex is more than a block under another name. -/
def Draft.hasNodes (draft : Draft) : Bool :=
  draft.vertices.any fun vertex => !draft.blockIds.contains vertex.id

end Flowchart
