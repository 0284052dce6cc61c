import Flowchart.Text.Blank
import Flowchart.Text.Uppercase

/-!
Flow directions: the side of the page towards which a drawing grows.
-/

namespace Flowchart

/-- Where a drawing grows. -/
inductive Direction where
  | down
  | up
  | right
  | left
deriving Repr, Inhabited, DecidableEq

namespace Direction

/-- The short name of a direction. -/
def name : Direction → String
  | down => "TB"
  | up => "BT"
  | right => "LR"
  | left => "RL"

/-- The direction with exactly this short name. -/
def ofName? (name : String) : Option Direction :=
  [down, up, right, left].find? fun direction => direction.name == name

/-- The direction in which boxes are placed under a name. Any other text means down. -/
def ofName (name : String) : Direction :=
  (ofName? name).getD down

/-- The direction that a text names. Blanks around the name and the case of its letters do not
matter, and `TD` is a second name for down. -/
def ofText? (text : String) : Option Direction :=
  let name := Text.uppercase (Text.strip text)
  if name = "TD" then some down else ofName? name

/-- Whether the drawing grows sideways. -/
def isHorizontal : Direction → Bool
  | right | left => true
  | down | up => false

end Direction

end Flowchart
