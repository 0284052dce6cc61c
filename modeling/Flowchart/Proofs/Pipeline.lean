import Flowchart.Compile
import Flowchart.Geometry.Double
import Flowchart.Proofs.Graph.Exchange

/-!
Graphs that come out of the pipeline.

Whatever source they are parsed from and whatever geometry is applied to them afterwards, graphs
survive being written as a document and read again.

Main definitions: `Produced`, `Graph.Drafted`. Main statement: `Produced.roundTrip`.
-/

namespace Flowchart

open Layout (ComponentLayout)

/-- The graphs that can be produced with the given colors: those of sources, laid out, cleared of
overlaps and changed by moves of single nodes any number of times, in any order. -/
inductive Produced (colors : List String) : Graph Float → Prop where
  | parsed {limits : Limits} {source : String} {graph : Graph Float}
    (made : Diagram.parse limits .standard source colors = .ok graph) : Produced colors graph
  | parsedForgiving {limits : Limits} {source : String} {graph : Graph Float}
    (made : Diagram.parseForgiving limits source colors = .ok graph) : Produced colors graph
  /-- A compiled graph has the standard colors. -/
  | compiled {limits : Limits} {layout : ComponentLayout Float} {source : String}
    {options : Option (LayoutOptions Float)} {graph : Graph Float}
    (made : Diagram.compile limits layout source options = .ok graph) : Produced colors graph
  | laidOut (layout : ComponentLayout Float) (options : LayoutOptions Float) {graph : Graph Float}
    (produced : Produced colors graph) : Produced colors (graph.layout layout options)
  | resolved (settings : Overlap.Settings Float) {graph : Graph Float}
    (produced : Produced colors graph) :
    Produced colors { graph with nodes := (Overlap.resolve settings graph.nodes).value }
  | moved (id : String) (x y : Float) {graph : Graph Float} (produced : Produced colors graph) :
    Produced colors (graph.moveNode id x y)

/-! ### Sources -/

/-- What the graph of a source can be: empty, or that of a draft with the metadata in the comments.
Its palette has the given colors, or is the standard one. -/
inductive Graph.Drafted {K : Type} [Scalar K] (limits : Limits) (source : String)
    (colors : List String) : Graph K → Prop where
  | empty : Drafted limits source colors {}
  | ofDraft {draft : Draft} {metadata : Source.Metadata} {palette : Palette}
      (spelled : draft.Spelled)
      (attached : Source.metadata limits (Source.clean source) = .ok metadata)
      (colored : palette.colors = colors ∨ palette = .standard) :
      Drafted limits source colors (Graph.ofDraft draft metadata palette)

section Sources

variable {K : Type} [Scalar K] {limits : Limits} {source : String} {colors : List String}
  {graph : Graph K}

/-- A graph that is built has been made from a draft in which everything has a spelling. -/
theorem drafted_of_build {draft : Draft} (spelled : draft.Spelled)
    (made : Diagram.build limits (Source.clean source) colors draft = .ok graph) :
    graph.Drafted limits source colors := by
  unfold Diagram.build Graph.ofDraft? at made
  split at made
  case h_1 => cases made
  case h_2 metadata attached =>
    cases colors with
    | cons first others =>
        cases made
        exact .ofDraft spelled attached (.inl rfl)
    | nil =>
        dsimp only [Palette.ofList?] at made
        split at made
        case h_2 => cases made
        case h_1 found blockless =>
          split at blockless
          case isFalse => cases blockless
          case isTrue =>
            cases blockless
            cases made
            exact .ofDraft spelled attached (.inr rfl)

/-- A graph of the forgiving reader is empty or made from such a draft. -/
theorem drafted_of_parseForgiving
    (made : Diagram.parseForgiving limits source colors = .ok graph) :
    graph.Drafted limits source colors := by
  unfold Diagram.parseForgiving at made
  dsimp only at made
  split at made
  case isTrue =>
    cases made
    exact .empty
  case isFalse => exact drafted_of_build (Scan.spelled_scan _) made

/-- Whichever reader has read it, a source has the graph of a draft. -/
theorem drafted_of_parse
    (made : Diagram.parse limits .standard source colors = .ok graph) :
    graph.Drafted limits source colors := by
  unfold Diagram.parse at made
  dsimp only at made
  split at made
  case isTrue =>
    cases made
    exact .empty
  case isFalse =>
    split at made
    case h_1 draft read => exact drafted_of_build (spelled_of_interpret read) made
    case h_2 => exact drafted_of_parseForgiving made
    case h_3 | h_4 => cases made

/-- A graph that has been made from a draft can be written and read back. -/
theorem Graph.Drafted.portable (drafted : graph.Drafted limits source colors)
    (shown : ∀ color ∈ colors, color ≠ "") : graph.Portable := by
  cases drafted with
  | empty => exact Graph.portable_empty
  | ofDraft spelled _ colored =>
      refine portable_ofDraft _ _ _ spelled ?_
      rcases colored with rfl | rfl
      · exact shown
      · decide

/-- A graph that has been compiled can be written and read back. -/
theorem portable_of_compile {layout : ComponentLayout K} {options : Option (LayoutOptions K)}
    (made : Diagram.compile limits layout source options = .ok graph) : graph.Portable := by
  unfold Diagram.compile at made
  split at made
  case h_1 => cases made
  case h_2 parsed read =>
    have portable := (drafted_of_parse read).portable (by decide)
    split at made
    case h_1 => cases made
    case h_2 =>
      cases made
      exact (Graph.rearranged_layout _ _ portable.sound.distinct).portable portable

end Sources

/-! ### The pipeline -/

/-- Every graph that the program can come to can be written and read back. -/
theorem Produced.portable {colors : List String} {graph : Graph Float}
    (produced : Produced colors graph) (colored : ∀ color ∈ colors, color ≠ "") :
    graph.Portable := by
  induction produced with
  | parsed made => exact (drafted_of_parse made).portable colored
  | parsedForgiving made => exact (drafted_of_parseForgiving made).portable colored
  | compiled made => exact portable_of_compile made
  | laidOut layout options _ ih =>
      exact (Graph.rearranged_layout layout options ih.sound.distinct).portable ih
  | resolved settings _ ih => exact (Graph.rearranged_resolve settings _).portable ih
  | moved id x y _ ih => exact (Graph.rearranged_moveNode _ id x y).portable ih

/-- A graph that the pipeline produces reads back from its document as it is. -/
theorem Produced.roundTrip {colors : List String} {graph : Graph Float}
    (produced : Produced colors graph) (colored : ∀ color ∈ colors, color ≠ "")
    (limits : Limits) :
    ∃ read, Graph.ofJson limits graph.toJson = .ok read ∧ graph.Matches read :=
  Flowchart.ofJson_toJson limits (produced.portable colored)

/-- A diagram with a block, a dotted link inside it, and a link to it. -/
def blockSource : String :=
  "flowchart LR\nsubgraph g\nA -.-> B((Cache))\nend\nB --> g"

theorem Produced.roundTrip_blockSource :
    (∀ color ∈ ["#111"], color ≠ "") ∧
      ∃ graph : Graph Float, Diagram.parse .standard .standard blockSource ["#111"] = .ok graph ∧
        graph.nodes.map Node.id = ["g", "A", "B"] ∧
        ∃ read, Graph.ofJson .standard
            (((graph.layout (fun _ _ _ => []) .standard).moveNode "A" (-0.0) 3.5).toJson) =
              .ok read ∧
          ((graph.layout (fun _ _ _ => []) .standard).moveNode "A" (-0.0) 3.5).Matches read := by
  have colored : ∀ color ∈ ["#111"], color ≠ "" := by decide
  have parsed : (match Diagram.parse (K := Float) .standard .standard blockSource ["#111"] with
      | .ok graph => graph.nodes.map Node.id
      | .error _ => []) = ["g", "A", "B"] := by decide +kernel
  cases made : Diagram.parse (K := Float) .standard .standard blockSource ["#111"] with
  | error cause =>
      rw [made] at parsed
      cases parsed
  | ok graph =>
      rw [made] at parsed
      have produced := ((Produced.parsed made).laidOut (fun _ _ _ => []) .standard).moved "A"
        (-0.0) 3.5
      exact ⟨colored, graph, rfl, parsed, produced.roundTrip colored .standard⟩

end Flowchart
