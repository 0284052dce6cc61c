import Flowchart.Compile
import Flowchart.Log.Logging
import Flowchart.Log.Template

/-!
What is logged about parsing and laying out a diagram.

Main definitions: `Message`, a template with its arguments, and `Logging.log`, which fills it.
-/

namespace Flowchart.Log

/-- Something to log: under which logger, at which level, and how it is worded. -/
structure Message where
  logger : String
  level : Int
  template : String
  arguments : List Json
deriving Repr, Inhabited

/-- The message for an event of a parse. -/
def ofDiagramEvent (event : Diagram.Event) : Message :=
  let builder := "flowgraph.diagram.builder"
  match event with
  | .strictReadingFailed cause =>
    ⟨builder, 30, "Grammar interpreter failed, falling back to heuristic parser: %s",
      [.str cause.toFailure.describe]⟩
  | .malformedMetadata payload =>
    ⟨"flowgraph.diagram.text", 10, "Ignoring malformed metadata comment: %s", [.str payload]⟩
  | .skippedVertex id => ⟨builder, 10, "Skipping vertex %s: id already used", [.str id]⟩
  | .danglingArc source target =>
    ⟨builder, 10, "Dropping dangling edge %s -> %s", [.str source, .str target]⟩
  | .strictCount nodes edges =>
    ⟨builder, 20, "Grammar interpreter: %d nodes, %d edges", [.int nodes, .int edges]⟩
  | .forgivingCount nodes edges =>
    ⟨builder, 20, "Fallback parser: %d nodes, %d edges", [.int nodes, .int edges]⟩

/-- The message for an event of a layout. -/
def ofLayoutEvent (event : Graph.LayoutEvent) : Message :=
  let orchestrator := "flowgraph.layout.orchestrator"
  match event with
  | .resolverStopped passes =>
    ⟨orchestrator, 20, "Overlap resolver stopped after %d passes", [.int passes]⟩
  | .lanes groups orphans =>
    ⟨orchestrator, 10, "Laid out %d groups and %d orphans", [.int groups, .int orphans]⟩

/-- What is written for a message. Nothing is if its template cannot be filled. -/
def Logging.log (limits : Limits) (logging : Logging) (message : Message) : String :=
  match fill limits message.template message.arguments with
  | .ok text => logging.write message.logger message.level text
  | .error _ => ""

/-- What is written for messages, one after the other. -/
def Logging.logAll (limits : Limits) (logging : Logging) (messages : List Message) : String :=
  String.join (messages.map (logging.log limits))

end Flowchart.Log
