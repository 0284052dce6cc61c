import Flowchart.Log.Basic
import Flowchart.Text.Quoted
import Flowchart.Text.Uppercase

/-!
Logging as a state machine: it is configured at most once, and a message is written if its level
reaches the threshold in force.
-/

namespace Flowchart.Log

/-- The state of logging: how records are written, once that has been decided, and the least level
that is written. -/
structure Logging where
  style : Option Style := none
  threshold : Int := warning
deriving Repr, Inhabited, DecidableEq

/-- A level that has no such name. -/
structure UnknownLevel where
  name : String
deriving Repr, Inhabited, DecidableEq

/-- The wording of an unknown level. -/
def UnknownLevel.message (unknown : UnknownLevel) : String :=
  "Unknown level: " ++ Text.quoted unknown.name

namespace Logging

/-- Decide how records are written and from which level on. Only the first decision counts. The
style is decided before the level is looked at, so that it stays when the level is unknown. -/
def configure (logging : Logging) (level : String) (style : Style) :
    Logging × Option UnknownLevel :=
  if logging.style.isSome then (logging, none)
  else
    let name := Text.uppercase level
    match levelOfName? name with
    | some threshold => (⟨some style, threshold⟩, none)
    | none => ({ logging with style := some style }, some ⟨name⟩)

/-- The name of a logger; the one without a name is the root. -/
def loggerName (name : String) : String :=
  if name.isEmpty then "root" else name

/-- Whether messages of a level are written. -/
def accepts (logging : Logging) (level : Int) : Bool :=
  decide (0 < level) && decide (logging.threshold ≤ level)

/-- What is written for a message. Before any decision only warnings and worse are, and bare. -/
def write (logging : Logging) (logger : String) (level : Int) (message : String) : String :=
  if logging.accepts level then
    match logging.style with
    | some style => style.write ⟨levelName level, loggerName logger, message, [], none⟩ ++ "\n"
    | none => if warning ≤ level then message ++ "\n" else ""
  else ""

end Logging

end Flowchart.Log
