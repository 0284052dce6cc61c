import Flowchart.Layout.Layered.Columns
import Flowchart.Layout.Placement

/-!
Layered drawings: the component layout that ranks the boxes, orders the ranks and aligns them in
columns.
-/

namespace Flowchart.Layout

variable {K : Type} [Scalar K]

open Layered

/-- The centers of the boxes of a component, drawn in ranks. -/
def layered : ComponentLayout K := fun component nodeSpacing rankSpacing =>
  let layering := Layered.layering component.sizes component.edges
  let arrangement := layering.ordered
  let conflicts := Layered.conflicts layering arrangement
  let alignments := Sweep.all.map fun sweep =>
    Compaction.columns
      ⟨layering, arrangement, Layered.blocks layering arrangement conflicts sweep, sweep,
        nodeSpacing⟩
  let heightOf := fun vertex =>
    (layering.vertices[vertex]?.map fun entry => entry.size.height).getD Scalar.zero
  let centers := (rowCenters rankSpacing Scalar.zero
    (arrangement.rows.toList.map fun row => row.map heightOf)).toArray
  (List.range component.sizes.length).map fun vertex =>
    let rank := (layering.vertices[vertex]?.map Vertex.rank).getD 0
    ⟨middleMean (alignments.map fun columns => columns.getD vertex Scalar.zero),
      centers.getD rank Scalar.zero⟩

end Flowchart.Layout
