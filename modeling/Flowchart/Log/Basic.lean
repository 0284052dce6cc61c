import Flowchart.Json.Printer
import Flowchart.Keyed

/-!
Log records and the two ways in which they are written: as a line of text and as a document.
-/

namespace Flowchart.Log

/-! ### Levels -/

/-- The levels that have a name of their own. -/
def namedLevels : List (Int × String) :=
  [(50, "CRITICAL"), (40, "ERROR"), (30, "WARNING"), (20, "INFO"), (10, "DEBUG"), (0, "NOTSET")]

/-- The name of a level. -/
def levelName (level : Int) : String :=
  (namedLevels.lookup level).getD ("Level " ++ Decimal.intText level)

/-- The level of a name. Two levels have a second name. -/
def levelOfName? (name : String) : Option Int :=
  if name = "FATAL" then some 50
  else if name = "WARN" then some 30
  else (namedLevels.find? fun entry => entry.2 == name).map Prod.fst

/-- The level of warnings. -/
def warning : Int := 30

/-! ### Records -/

/-- What is logged: a message under the name of a level and of a logger, further fields, and the
report of an error that caused it. -/
structure Record where
  levelName : String
  logger : String
  message : String
  extra : Keyed Json := []
  cause : Option String := none
deriving Repr, Inhabited

/-- The fields that records keep for themselves. -/
def reservedFields : List String :=
  ["name", "msg", "args", "levelname", "levelno", "pathname", "filename", "module", "exc_info",
    "exc_text", "stack_info", "lineno", "funcName", "created", "msecs", "relativeCreated", "thread",
    "threadName", "processName", "process", "taskName"]

/-- Whether a further field is written. Names that start with an underscore are private. -/
def isPublic (field : String) : Bool :=
  !(field.toList.head? == some '_') && !reservedFields.contains field

/-- The fields of a record as it is written. A further field that has the name of an earlier one
takes its place. -/
def Record.fields (record : Record) : Keyed Json :=
  let own : Keyed Json :=
    [("level", .str record.levelName), ("logger", .str record.logger),
      ("message", .str record.message)]
  let further := record.extra.filter fun entry => isPublic entry.1
  let cause : Keyed Json := match record.cause with
    | some report => [("exc_info", .str report)]
    | none => []
  (further ++ cause).foldl (fun fields entry => Keyed.put entry.1 entry.2 fields) own

/-- How records are written. -/
inductive Style where
  | plain
  | document
deriving Repr, Inhabited, DecidableEq

/-- A record as it is written. -/
def Style.write (style : Style) (record : Record) : String :=
  match style with
  | plain => record.levelName ++ " " ++ record.logger ++ " " ++ record.message
  | document => Json.render none (.obj record.fields)

end Flowchart.Log
