import Flowchart.Draft.Interpret
import Flowchart.Draft.Scan
import Flowchart.Graph.Build

/-!
Diagrams to graphs: an interpreter reads the cleaned source strictly, and where it cannot, the
forgiving reader takes its place.

Main definitions: `Diagram.parse`, `Diagram.parseForgiving`, and `Diagram.events`, which says what
there is to report about a parse.
-/

namespace Flowchart

/-- Mistakes of a caller, and sizes, that no reader of diagrams can make up for. -/
inductive DiagramError where
  /-- Groups need a color, and there is none. -/
  | noColor
  | notIterable (typeName : String)
  | directionNotText
  /-- A metadata comment goes beyond the limits. -/
  | excess (cause : Excess)
deriving Repr, Inhabited, DecidableEq

/-- The wording of a mistake. -/
def DiagramError.message : DiagramError → String
  | noColor => "integer modulo by zero"
  | notIterable typeName => "'" ++ typeName ++ "' object is not iterable"
  | directionNotText => "direction is not a text"
  | excess cause => cause.message

namespace Diagram

open Flowchart.Source (Metadata)

variable {K : Type} [Scalar K]

/-- The graph of a draft read from a cleaned source, with the metadata of that source. -/
def build (limits : Limits) (cleaned : String) (colors : List String) (draft : Draft) :
    Except DiagramError (Graph K) :=
  match Source.metadata limits cleaned with
  | .error cause => .error (.excess cause)
  | .ok metadata =>
    match Graph.ofDraft? draft metadata colors with
    | some graph => .ok graph
    | none => .error .noColor

/-- The graph of a source, read forgivingly. An empty source has an empty graph. -/
def parseForgiving (limits : Limits) (source : String) (colors : List String) :
    Except DiagramError (Graph K) :=
  let cleaned := Source.clean source
  if cleaned.isEmpty then .ok {} else build limits cleaned colors (Draft.scan cleaned)

/-- The graph of a source, read by an interpreter or else forgivingly. -/
def parse (limits : Limits) (interpreter : Interpreter) (source : String) (colors : List String) :
    Except DiagramError (Graph K) :=
  let cleaned := Source.clean source
  if cleaned.isEmpty then .ok {}
  else match Draft.interpret interpreter cleaned with
    | .ok draft => build limits cleaned colors draft
    | .error (.rejected _) => parseForgiving limits source colors
    | .error (.notIterable typeName) => .error (.notIterable typeName)
    | .error .directionNotText => .error .directionNotText

/-! ### Events -/

/-- What there is to report about a parse. -/
inductive Event where
  | strictReadingFailed (cause : ParseError)
  | malformedMetadata (payload : String)
  | skippedVertex (id : String)
  | danglingArc (source target : String)
  | strictCount (nodes edges : Nat)
  | forgivingCount (nodes edges : Nat)
deriving Repr, Inhabited, DecidableEq

/-- What there is to report about a graph built from a draft. Metadata adds nothing to it. -/
def buildEvents (limits : Limits) (cleaned : String) (draft : Draft)
    (count : Nat → Nat → Event) : List Event :=
  let graph : Graph Rat := Graph.ofDraft draft [] .standard
  (Source.malformedComments limits cleaned).map Event.malformedMetadata ++
    draft.skippedVertices.map (fun vertex => Event.skippedVertex vertex.id) ++
    draft.danglingArcs.map (fun arc => Event.danglingArc arc.source arc.target) ++
    [count graph.nodes.length graph.edges.length]

/-- What there is to report about a forgiving parse. -/
def forgivingEvents (limits : Limits) (source : String) : List Event :=
  let cleaned := Source.clean source
  if cleaned.isEmpty then []
  else buildEvents limits cleaned (Draft.scan cleaned) .forgivingCount

/-- What there is to report about a parse. -/
def events (limits : Limits) (interpreter : Interpreter) (source : String) : List Event :=
  let cleaned := Source.clean source
  if cleaned.isEmpty then []
  else match Draft.interpret interpreter cleaned with
    | .ok draft => buildEvents limits cleaned draft .strictCount
    | .error (.rejected cause) => .strictReadingFailed cause :: forgivingEvents limits source
    | .error _ => []

end Diagram

end Flowchart
