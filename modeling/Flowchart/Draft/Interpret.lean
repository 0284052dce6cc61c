import Flowchart.Draft.Load
import Flowchart.Draft.Records

/-!
Interpreters: readers of diagrams that may be put in the place of the standard one. Whatever an
interpreter hands over is checked before it is used.

Main definition: `Draft.interpret`.
-/

namespace Flowchart

/-- How an interpreter can fail. -/
inductive InterpreterFault where
  /-- The diagram cannot be read strictly. -/
  | parse (cause : ParseError)
  /-- Anything else, with a description. -/
  | other (description : String)
deriving Repr, Inhabited, DecidableEq

/-- An interpreter reads a cleaned source. -/
abbrev Interpreter := String → Except InterpreterFault Interpretation

/-- The interpreter of the statement language. -/
def Interpreter.standard : Interpreter := fun source =>
  match Draft.load source with
  | .ok draft => .ok draft.toInterpretation
  | .error cause => .error (.parse cause)

/-- An interpreter that always gives the same answer. -/
def Interpreter.answering (interpretation : Interpretation) : Interpreter := fun _ =>
  .ok interpretation

/-- An interpreter that always fails. -/
def Interpreter.failing (fault : InterpreterFault) : Interpreter := fun _ =>
  .error fault

/-- Edges need nodes to attach to. -/
def Draft.checkStructure (draft : Draft) : Except InterpretationError Draft :=
  if !draft.arcs.isEmpty && !draft.hasNodes then
    .error (.rejected (.edgesWithoutNodes draft.arcs.length))
  else .ok draft

/-- The checked draft that an interpreter reads from a source. -/
def Draft.interpret (interpreter : Interpreter) (source : String) :
    Except InterpretationError Draft :=
  match interpreter source with
  | .error (.parse cause) => .error (.rejected cause)
  | .error (.other description) => .error (.rejected (.interpreterFailed description))
  | .ok interpretation =>
    match interpretation.toDraft with
    | .ok draft => draft.checkStructure
    | .error cause => .error cause

end Flowchart
