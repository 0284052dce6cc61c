import Flowchart.Json.Printer

/-!
Failures as they are reported: a kind, a message and the values that belong to it.
-/

namespace Flowchart

/-- The kinds of failure. Those about reading a diagram are recoverable: a more forgiving reader
takes over. -/
inductive FailureKind where
  | general
  | configuration
  | parse
  | grammar
  | structural
deriving Repr, Inhabited, DecidableEq

/-- The name under which a kind is reported. -/
def FailureKind.name : FailureKind → String
  | general => "FlowgraphException"
  | configuration => "ConfigurationError"
  | parse => "DiagramParseError"
  | grammar => "GrammarError"
  | structural => "StructuralInconsistencyError"

/-- The name of a kind with the place where failures are declared. -/
def FailureKind.qualifiedName (kind : FailureKind) : String :=
  "flowgraph.core.exceptions." ++ kind.name

/-- Whether a failure of this kind only means that a diagram could not be read strictly. -/
def FailureKind.recoverable : FailureKind → Bool
  | parse | grammar | structural => true
  | general | configuration => false

/-- A failure with its message and the values that explain it. -/
structure Failure where
  kind : FailureKind
  message : String
  context : Keyed Json := []
deriving Repr, Inhabited

/-- A failure as one line of text. -/
def Failure.describe (failure : Failure) : String :=
  if failure.context.isEmpty then failure.message
  else failure.message ++ " | context=" ++ (Json.obj failure.context).display

/-- A failure without context, as a value in running text. -/
def Failure.display (failure : Failure) : String :=
  failure.kind.name ++ "(message=" ++ Text.quoted failure.message ++ ", context=None)"

end Flowchart
