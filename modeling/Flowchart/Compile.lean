import Flowchart.Diagram
import Flowchart.Layout.Swimlane

/-!
Compilation: from the source of a diagram to a graph with positions.
-/

namespace Flowchart

open Layout (ComponentLayout)

/-- Why a source cannot be compiled. With the standard interpreter and palette only a metadata
comment beyond the limits is a cause. -/
inductive CompileError (K : Type) where
  | diagram (cause : DiagramError)
  | options (cause : OptionsError K)
deriving Repr, Inhabited, DecidableEq

variable {K : Type} [Scalar K]

/-- The options to lay out a graph with: those given, or else the standard ones with the direction
that the graph declares. -/
def Graph.layoutOptions (graph : Graph K) (options : Option (LayoutOptions K)) :
    Except (OptionsError K) (LayoutOptions K) :=
  match options with
  | some options => .ok options
  | none => LayoutOptions.standard.withDirection graph.direction

/-- Parse a source and lay out its graph. -/
def Diagram.compile (limits : Limits) (layout : ComponentLayout K) (source : String)
    (options : Option (LayoutOptions K)) : Except (CompileError K) (Graph K) :=
  match Diagram.parse limits .standard source Palette.standard.colors with
  | .error cause => .error (.diagram cause)
  | .ok graph =>
    match graph.layoutOptions options with
    | .error cause => .error (.options cause)
    | .ok options => .ok (graph.layout layout options)

end Flowchart
