import Flowchart.Failure
import Flowchart.Graph.Basic
import Flowchart.Layout.Direction

/-!
Layout options, the measures of the page, and the space that a node takes.
-/

namespace Flowchart

/-! ### Measures -/

namespace Page

variable {K : Type} [Scalar K]

/-- The free space at the left and upper edges of the page. -/
def margin : K := Scalar.ofNat 60

/-- The space between the edges of a group and its members. -/
def groupPadding : K := Scalar.ofNat 40

/-- The space for the title of a group. -/
def groupTitle : K := Scalar.ofNat 50

/-- The space between a group and the next one below. -/
def groupGap : K := Scalar.ofNat 60

/-- The least size of a group. -/
def groupLeast : Size K := ⟨Scalar.ofNat 300, Scalar.ofNat 200⟩

/-- The space between the widest group and the nodes outside of all groups. -/
def orphanGap : K := Scalar.ofNat 100

end Page

/-- The space that a node of a kind takes. -/
def NodeKind.footprint {K : Type} [Scalar K] : NodeKind → Size K
  | decision => ⟨Scalar.ofNat 140, Scalar.ofNat 90⟩
  | _ => ⟨Scalar.ofNat 180, Scalar.ofNat 60⟩

/-- The space that a node takes. -/
def Node.footprint {K : Type} [Scalar K] (node : Node K) : Size K :=
  node.kind.footprint

/-! ### Options -/

/-- How to lay out a graph. -/
structure LayoutOptions (K : Type) where
  direction : Direction
  nodeSpacing : K
  rankSpacing : K
  /-- Whether colliding nodes are pushed apart where there are no groups. -/
  resolveOverlaps : Bool
deriving Repr, Inhabited, DecidableEq

/-- Why options are refused. -/
inductive OptionsError (K : Type) where
  | unknownDirection (given : Option String)
  | negativeSpacing (nodeSpacing rankSpacing : K)
deriving Repr, Inhabited, DecidableEq

/-- A refusal as it is reported. -/
def OptionsError.toFailure : OptionsError Float → Failure
  | unknownDirection given =>
    ⟨.configuration, "Unknown layout direction", [("direction", Json.ofText? given)]⟩
  | negativeSpacing nodeSpacing rankSpacing =>
    ⟨.configuration, "Spacing must be non-negative",
      [("node_spacing", .float nodeSpacing), ("rank_spacing", .float rankSpacing)]⟩

/-- The direction that a text names, or the refusal of the text. -/
def Direction.ofText {K : Type} (text : String) : Except (OptionsError K) Direction :=
  match Direction.ofText? text with
  | some direction => .ok direction
  | none => .error (.unknownDirection (some text))

namespace LayoutOptions

variable {K : Type} [Scalar K]

/-- The options when none are given. -/
def standard : LayoutOptions K where
  direction := .down
  nodeSpacing := Scalar.ofNat 40
  rankSpacing := Scalar.ofNat 60
  resolveOverlaps := true

/-- Checked options. The direction is looked at before the spacings. -/
def check (direction : Option String) (nodeSpacing rankSpacing : K) (resolveOverlaps : Bool) :
    Except (OptionsError K) (LayoutOptions K) :=
  match direction.bind Direction.ofText? with
  | none => .error (.unknownDirection direction)
  | some named =>
    if nodeSpacing < Scalar.zero ∨ rankSpacing < Scalar.zero then
      .error (.negativeSpacing nodeSpacing rankSpacing)
    else .ok ⟨named, nodeSpacing, rankSpacing, resolveOverlaps⟩

/-- The options with another direction, if one is given. -/
def withDirection (options : LayoutOptions K) (direction : Option String) :
    Except (OptionsError K) (LayoutOptions K) :=
  match direction with
  | none => .ok options
  | some text =>
    if text.isEmpty then .ok options
    else check (some text) options.nodeSpacing options.rankSpacing options.resolveOverlaps

/-- Options as a value. -/
def toJson (options : LayoutOptions Float) : Json :=
  .obj [("direction", .str options.direction.name), ("node_spacing", .float options.nodeSpacing),
    ("rank_spacing", .float options.rankSpacing),
    ("resolve_overlaps", .bool options.resolveOverlaps)]

end LayoutOptions

end Flowchart
