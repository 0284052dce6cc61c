import Flowchart.CommandLine.Arguments
import Flowchart.CommandLine.Files
import Flowchart.CommandLine.Print
import Flowchart.Graph.Interchange
import Flowchart.Layout.Swimlane
import Flowchart.Layout.Metrics
import Flowchart.Log.Report
import Flowchart.Settings.Basic
import Flowchart.Settings.File
import Flowchart.Text.Lines

/-!
The program: from arguments, settings and a diagram to a document with the positioned graph.

Main definition: `run`.
-/

namespace Flowchart.CommandLine

open Layout (ComponentLayout)
open Log (Logging)

/-- All that a run depends on. -/
structure Call where
  arguments : List String
  /-- The variables that are set. -/
  environment : Keyed String
  /-- The text of the settings file, empty if there is none. -/
  settingsFile : String
  standardInput : String
  fileText : String → Except ReadError String
  limits : Limits := .standard

/-- What a run leaves behind: its exit code, and what it has written to its two outputs. -/
structure Outcome where
  exitCode : Nat
  output : String
  errors : String
deriving Repr, Inhabited, DecidableEq

/-- What stops a run without an outcome. -/
inductive Breakdown where
  | unknownLevel (level : Log.UnknownLevel)
  /-- The path of the diagram file has the character with the number zero in it. -/
  | nulInPath
  | diagram (cause : DiagramError)
  /-- A spacing without a number has been compared with zero. -/
  | blankSpacing
  | unprintable (cause : PrintError)
deriving Repr, Inhabited, DecidableEq

/-- The wording of a breakdown. -/
def Breakdown.message : Breakdown → String
  | unknownLevel level => level.message
  | nulInPath => "embedded null byte"
  | diagram cause => cause.message
  | blankSpacing => "'<' not supported between instances of 'list' and 'int'"
  | unprintable cause => cause.message

/-- The outcome of a call that is refused with the usage. -/
def refusal (message : String) : Outcome :=
  ⟨2, "", usage ++ programName ++ ": error: " ++ message ++ "\n"⟩

/-! ### Layout options -/

/-- The direction to lay out in: that of the arguments, or else that of the graph. -/
def chosenDirection (arguments : Arguments) (graph : Graph Float) : Option String :=
  (arguments.direction.filter fun text => !text.isEmpty).orElse fun _ => graph.direction

/-- Why there are no layout options. -/
inductive LayoutRefusal where
  | options (cause : OptionsError Float)
  | blankSpacing
deriving Repr, Inhabited

/-- The layout options: settings give the defaults, the direction that the graph declares comes
before them, and arguments before both. -/
def layoutOptions (arguments : Arguments) (settings : Settings) (graph : Graph Float) :
    Except LayoutRefusal (LayoutOptions Float) :=
  match settings.layoutOptions.bind fun options =>
      options.withDirection (chosenDirection arguments graph) with
  | .error cause => .error (.options cause)
  | .ok options =>
    match arguments.nodeSpacing.over? options.nodeSpacing,
        arguments.rankSpacing.over? options.rankSpacing with
    | some nodeSpacing, some rankSpacing =>
      (LayoutOptions.check (some options.direction.name) nodeSpacing rankSpacing
        (options.resolveOverlaps && !arguments.noOverlap)).mapError .options
    | _, _ => .error .blankSpacing

/-! ### Output -/

/-- Diagnostics of a graph. Only a positioned one has more than counts. -/
def statistics (graph : Graph Float) (positioned : Bool) : Json :=
  .obj ([("nodes", .int graph.nodes.length), ("edges", .int graph.edges.length),
      ("groups", .int graph.groups.length)] ++
    if positioned then
      [("edge_crossings", .int (Metrics.edgeCrossings graph)),
        ("crowded_nodes",
          .arr ((Metrics.crowdedNodes Metrics.crowdingDistance graph).map Json.str))]
    else [])

/-- The document that is printed for a graph. -/
def document (arguments : Arguments) (graph : Graph Float) : Json :=
  .obj (graph.toFields ++
    if arguments.stats then [("stats", statistics graph !arguments.parseOnly)] else [])

/-- The outcome with the document of a graph on the output. -/
def printDocument (limits : Limits) (arguments : Arguments) (graph : Graph Float)
    (errors : String) : Except Breakdown Outcome :=
  match Json.print limits arguments.indent (document arguments graph) with
  | .ok text => .ok ⟨0, text ++ "\n", errors⟩
  | .error cause => .error (.unprintable cause)

/-! ### Running -/

/-- The logger of the program itself. -/
def logger : String := "flowgraph.cli"

/-- The level of errors. -/
def errorLevel : Int := 40

/-- The faults of settings, as far as they are told. -/
def faultsText (faults : List Fault) : String :=
  String.intercalate "; " (faults.map fun fault =>
    String.intercalate "." (fault.path.map Place.text) ++ ": " ++
      fault.kind.code)

/-- The outcome for a graph, with what has been logged up to here. -/
def conclude (limits : Limits) (layout : ComponentLayout Float) (arguments : Arguments)
    (settings : Settings) (logging : Logging) (graph : Graph Float) (parseLog : String) :
    Except Breakdown Outcome :=
  if arguments.parseOnly then printDocument limits arguments graph parseLog
  else
    match layoutOptions arguments settings graph with
    | .error .blankSpacing => .error .blankSpacing
    | .error (.options cause) =>
      .ok ⟨2, "", parseLog ++ logging.log limits
        ⟨logger, errorLevel, "Invalid layout options: %s", [.str cause.toFailure.describe]⟩⟩
    | .ok options =>
      let layoutLog := logging.logAll limits
        ((graph.layoutEvents layout options).map Log.ofLayoutEvent)
      printDocument limits arguments (graph.layout layout options) (parseLog ++ layoutLog)

/-- The outcome for a diagram. -/
def compile (limits : Limits) (layout : ComponentLayout Float) (arguments : Arguments)
    (settings : Settings) (logging : Logging) (source : String) : Except Breakdown Outcome :=
  match Diagram.parse limits .standard source Palette.standard.colors with
  | .error cause => .error (.diagram cause)
  | .ok graph =>
    conclude limits layout arguments settings logging graph
      (logging.logAll limits ((Diagram.events limits .standard source).map Log.ofDiagramEvent))

/-- The text of the diagram. Line ends of all kinds are the same. -/
def readSource (call : Call) (file : String) : Except ReadError String :=
  (if file = "-" then .ok call.standardInput else call.fileText file).map fun text =>
    String.ofList (Text.normalizeLineEnds text.toList)

/-- The outcome of a call. -/
def run (layout : ComponentLayout Float) (call : Call) : Except Breakdown Outcome :=
  match Arguments.read call.limits call.arguments with
  | .help => .ok ⟨0, helpPage, ""⟩
  | .refused cause => .ok (refusal cause.message)
  | .run arguments =>
    match Settings.read call.environment
        (SettingsFile.read call.environment call.settingsFile) with
    | .error faults =>
      .ok ⟨2, "", Logging.log call.limits {}
        ⟨logger, errorLevel, "Invalid settings: %s", [.str (faultsText faults)]⟩⟩
    | .ok settings =>
      match Logging.configure {} settings.logLevel
          (if settings.jsonLogs then .document else .plain) with
      | (_, some level) => .error (.unknownLevel level)
      | (logging, none) =>
        if arguments.file.toList.contains (Char.ofNat 0) then .error .nulInPath
        else
          match readSource call arguments.file with
          | .error cause =>
            .ok (refusal ("cannot read " ++ arguments.file ++ ": " ++
              cause.message (normalizePath arguments.file)))
          | .ok source => compile call.limits layout arguments settings logging source

end Flowchart.CommandLine
