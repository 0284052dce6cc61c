import Flowchart.Compile
import Flowchart.Geometry.Double
import Flowchart.Proofs.Draft.Spelled
import Flowchart.Proofs.Graph.Total
import Flowchart.Proofs.Layout.Total
import Flowchart.Proofs.Recovery
import Flowchart.Proofs.Scan.Entries

/-!
No text stops a compilation.

Both readers are run here with everything that could stop them: the comments are held against the
limits, the records are checked, the graph and its layout are made with lookups that may find
nothing, and the options with the direction of the graph are checked. As soon as the comments are
within the limits, there is a color, and the layout of a component gives every box a center, every
text has a graph all the same, and it is that of the readers.

Main definitions: `Diagram.parse?`, `Diagram.compile?`, `Graph.Oriented`. Main statement:
`compile_total`.
-/

namespace Flowchart

open Layout (ComponentLayout)

/-! ### Readers that can be stopped -/

namespace Diagram

variable {K : Type} [Scalar K]

/-- The graph of a source, read forgivingly, if the records found in it pass their checks and its
graph can be made. -/
def parseForgiving? (limits : Limits) (source : String) (colors : List String) :
    Option (Graph K) :=
  let cleaned := Source.clean source
  if cleaned.isEmpty then some {}
  else do
    let draft ← (Draft.scan cleaned).toInterpretation.toDraft.toOption
    let metadata ← (Source.metadata limits cleaned).toOption
    draft.graph? metadata colors

/-- The graph of a source. A refusal by the standard interpreter leads to the forgiving reader,
anything else that goes wrong to no graph. -/
def parse? (limits : Limits) (source : String) (colors : List String) : Option (Graph K) :=
  let cleaned := Source.clean source
  if cleaned.isEmpty then some {}
  else match Draft.interpret .standard cleaned with
    | .ok draft => do
      let metadata ← (Source.metadata limits cleaned).toOption
      draft.graph? metadata colors
    | .error (.rejected _) => parseForgiving? limits source colors
    | .error _ => none

/-- The graph of a source with all nodes positioned, if its direction is accepted and nothing is
missing on the way. -/
def compile? (limits : Limits) (layout : ComponentLayout K) (source : String)
    (options : Option (LayoutOptions K)) : Option (Graph K) := do
  let graph ← parse? limits source Palette.standard.colors
  let options ← (graph.layoutOptions options).toOption
  graph.layout? layout options

end Diagram

/-! ### Directions -/

/-- A graph whose direction, if it has one, is one of the four, so that layout options take it. -/
structure Graph.Oriented (graph : Graph Float) : Prop where
  known : ∀ word ∈ graph.direction, word ∈ ["TB", "BT", "LR", "RL"]
  accepted : (LayoutOptions.standard : LayoutOptions Float).withDirection graph.direction =
    .ok { LayoutOptions.standard with direction := .ofName (graph.direction.getD "TB") }

/-- The four directions are accepted. -/
theorem withDirection_standard {word : String} (known : word ∈ ["TB", "BT", "LR", "RL"]) :
    (LayoutOptions.standard : LayoutOptions Float).withDirection (some word) =
      .ok { LayoutOptions.standard with direction := .ofName word } := by
  have read : ∀ word ∈ ["TB", "BT", "LR", "RL"],
      word.isEmpty = false ∧ Direction.ofText? word = some (.ofName word) := by
    decide +kernel
  have spaced : ¬ ((LayoutOptions.standard : LayoutOptions Float).nodeSpacing < Scalar.zero ∨
      (LayoutOptions.standard : LayoutOptions Float).rankSpacing < Scalar.zero) := by
    decide
  obtain ⟨given, named⟩ := read word known
  rw [LayoutOptions.withDirection, given]
  simp only [LayoutOptions.check, Option.bind_some, named, if_neg spaced]
  rfl

/-- Whatever word a declaration gives, its graph has one of the four directions. -/
theorem mem_graphDirection {direction : Option String}
    (declared : ∀ word ∈ direction, word ∈ ["TB", "TD", "BT", "RL", "LR"]) :
    ∀ word ∈ graphDirection direction, word ∈ ["TB", "BT", "LR", "RL"] := by
  have capitals : ∀ word ∈ ["TB", "TD", "BT", "RL", "LR"],
      ∀ final ∈ graphDirection (some word), final ∈ ["TB", "BT", "LR", "RL"] := by
    decide +kernel
  cases direction with
  | none => simp [graphDirection]
  | some word => exact capitals word (declared word rfl)

/-- A graph whose direction is one of the four, or none, is oriented. -/
theorem Graph.oriented_of_known {graph : Graph Float}
    (known : ∀ word ∈ graph.direction, word ∈ ["TB", "BT", "LR", "RL"]) : graph.Oriented where
  known := known
  accepted := by
    cases given : graph.direction with
    | none => rfl
    | some word => exact withDirection_standard (known word given)

theorem Graph.oriented_empty : Graph.Oriented {} :=
  Graph.oriented_of_known (by simp)

namespace Scan

open Flowchart.Plain (connectedArc)

/-- A diagram has no direction but one that a declaration can give. -/
theorem direction_mem_scan (source : String) :
    ∀ word ∈ (Draft.scan source).direction, word ∈ ["TB", "TD", "BT", "RL", "LR"] := by
  intro word found
  rw [direction_scan] at found
  obtain ⟨line, -, declares⟩ := List.exists_of_findSome?_eq_some found
  unfold direction? at declares
  split at declares
  case isTrue => cases declares
  case isFalse =>
    split at declares
    case isFalse => cases declares
    case isTrue =>
      obtain ⟨rest, -, named⟩ := Option.bind_eq_some_iff.mp declares
      obtain ⟨name, listed, isName⟩ := List.exists_of_findSome?_eq_some named
      obtain ⟨_, _, rfl⟩ := Option.map_eq_some_iff.mp isName
      exact listed

/-- The records of a diagram that is read forgivingly have names. -/
theorem named_scan (source : String) : (Draft.scan source).Named where
  vertices := by
    intro vertex member
    simpa using ((spelled_scan source).vertices vertex member).id
  arcs := by
    intro arc member
    obtain ⟨line, -, link, found, rfl⟩ := exists_link_of_mem_arcs member
    simpa [connectedArc] using named_of_mem_connections found
  blocks := by
    intro block member
    simpa using (spelled_scan source).blocks block member

end Scan

/-! ### No text stops a reader -/

/-- The standard interpreter makes no mistakes. -/
theorem not_mistaken_standard (cleaned : String) (cause : DiagramError) :
    ¬Interpreter.standard.Mistaken cleaned cause := by
  rw [← interpret_mistake_iff]
  rintro ⟨error, refused, surfaces⟩
  rcases interpret_standard_cases cleaned with ⟨draft, -, read⟩ | ⟨reason, rejected⟩
  · cases read.symm.trans refused
  · cases rejected.symm.trans refused
    cases surfaces

/-- What stops the reading of a source is only what is beyond the limits in its comments. -/
theorem parse_standard_eq_error_iff {K : Type} [Scalar K] {limits : Limits} {colors : List String}
    (colored : colors ≠ []) {source : String} {cause : DiagramError} :
    (Diagram.parse limits .standard source colors : Except DiagramError (Graph K)) =
      .error cause ↔ Source.Exceeds limits source cause := by
  simp [parse_eq_error_iff colored, not_mistaken_standard]

section Readers

variable {limits : Limits} {colors : List String} {source : String}

/-- With a color at hand a draft has a graph, and both ways of making it agree. -/
theorem exists_graph (colored : colors ≠ []) {cleaned : String} {metadata : Source.Metadata}
    (within : Source.metadata limits cleaned = .ok metadata) {draft : Draft}
    (declared : ∀ word ∈ draft.direction, word ∈ ["TB", "TD", "BT", "RL", "LR"]) :
    ∃ graph : Graph Float, draft.graph? metadata colors = some graph ∧
      Diagram.build limits cleaned colors draft = .ok graph ∧ graph.Oriented := by
  cases colors with
  | nil => exact absurd rfl colored
  | cons first others =>
      refine ⟨_, graph?_eq_ofDraft? draft _ _, ?_, ?_⟩
      · rw [Diagram.build, within]
        rfl
      · exact Graph.oriented_of_known (mem_graphDirection declared)

/-- No step of the forgiving reader fails on a source with comments within the limits. -/
theorem parseForgiving?_eq_some (colored : colors ≠ []) (within : Source.Within limits source) :
    ∃ graph : Graph Float, Diagram.parseForgiving? limits source colors = some graph ∧
      Diagram.parseForgiving limits source colors = .ok graph ∧ graph.Oriented := by
  obtain ⟨metadata, within⟩ := within
  rw [Diagram.parseForgiving?, Diagram.parseForgiving]
  split
  case isTrue => exact ⟨_, rfl, rfl, Graph.oriented_empty⟩
  case isFalse =>
    rw [toDraft_toInterpretation (Scan.named_scan _), within]
    exact exists_graph colored within (Scan.direction_mem_scan _)

/-- No step of a parse fails on it. -/
theorem parse?_eq_some (colored : colors ≠ []) (within : Source.Within limits source) :
    ∃ graph : Graph Float, Diagram.parse? limits source colors = some graph ∧
      Diagram.parse limits .standard source colors = .ok graph ∧ graph.Oriented := by
  rw [Diagram.parse?, Diagram.parse]
  split
  case isTrue => exact ⟨_, rfl, rfl, Graph.oriented_empty⟩
  case isFalse =>
    rcases interpret_standard_cases (Source.clean source) with
      ⟨draft, loaded, read⟩ | ⟨cause, refused⟩
    · obtain ⟨metadata, within⟩ := within
      rw [read, within]
      exact exists_graph colored within (meaning_of_load loaded).2.direction
    · rw [refused]
      exact parseForgiving?_eq_some colored within

/-- No step of compiling such a source fails, if the layout is complete. -/
theorem compile?_eq_some {layout : ComponentLayout Float} (complete : layout.Complete)
    (within : Source.Within limits source) (options : Option (LayoutOptions Float)) :
    ∃ graph, Diagram.compile? limits layout source options = some graph ∧
      Diagram.compile limits layout source options = .ok graph := by
  have colored : Palette.standard.colors ≠ [] := by simp [Palette.colors]
  obtain ⟨graph, parsed?, parsed, oriented⟩ := parse?_eq_some colored within
  obtain ⟨chosen, checked⟩ : ∃ chosen, graph.layoutOptions options = .ok chosen := by
    cases options with
    | some options => exact ⟨options, rfl⟩
    | none => exact ⟨_, oriented.accepted⟩
  refine ⟨graph.layout layout chosen, ?_, ?_⟩
  · rw [Diagram.compile?, parsed?]
    simp only [Option.bind_eq_bind, Option.bind_some, checked, Except.toOption]
    exact Graph.layout?_eq_some complete chosen graph
  · simp only [Diagram.compile, parsed, checked]

/-- Every text with comments within the limits has a graph, whichever reader is asked, and can be
compiled: nothing that could stop the readers or the layout does so, and the direction of the graph
is always accepted. -/
theorem compile_total (colored : colors ≠ []) (within : Source.Within limits source) :
    (∃ graph : Graph Float, Diagram.parse? limits source colors = some graph ∧
        Diagram.parse limits .standard source colors = .ok graph ∧ graph.Oriented) ∧
      (∃ graph : Graph Float, Diagram.parseForgiving? limits source colors = some graph ∧
        Diagram.parseForgiving limits source colors = .ok graph ∧ graph.Oriented) ∧
      ∀ layout : ComponentLayout Float, layout.Complete → ∀ options,
        ∃ graph, Diagram.compile? limits layout source options = some graph ∧
          Diagram.compile limits layout source options = .ok graph :=
  ⟨parse?_eq_some colored within, parseForgiving?_eq_some colored within,
    fun _ complete => compile?_eq_some complete within⟩

end Readers

/-- A source with a group and nothing in it. -/
def bareGroupSource : String :=
  "flowchart td\nsubgraph g\nend"

theorem compile_total_bareGroup :
    ["#111"] ≠ [] ∧ Source.Within .standard bareGroupSource ∧
      (Layout.layered : ComponentLayout Float).Complete ∧
      (∃ graph : Graph Float,
        Diagram.parse .standard .standard bareGroupSource ["#111"] = .ok graph ∧
        graph.nodes.map Node.id = ["g"] ∧ graph.direction = some "TB" ∧ graph.Oriented) ∧
      ∃ graph : Graph Float,
        Diagram.compile? .standard Layout.layered bareGroupSource none = some graph ∧
        Diagram.compile .standard Layout.layered bareGroupSource none = .ok graph := by
  have colored : ["#111"] ≠ [] := by decide
  have commentless : Source.commentObjects (Source.clean bareGroupSource) = [] := by
    decide +kernel
  have within : Source.Within .standard bareGroupSource :=
    ⟨[], Source.metadata_of_commentless commentless .standard⟩
  have evaluated : (match Diagram.parse (K := Float) .standard .standard bareGroupSource
        ["#111"] with
      | .ok graph => (graph.nodes.map Node.id, graph.direction)
      | .error _ => ([], none)) = (["g"], some "TB") := by decide +kernel
  obtain ⟨⟨graph, -, parsed, oriented⟩, -, compiled⟩ := compile_total colored within
  rw [parsed] at evaluated
  obtain ⟨ids, direction⟩ := Prod.mk.inj evaluated
  exact ⟨colored, within, Layout.complete_layered, ⟨graph, parsed, ids, direction, oriented⟩,
    compiled Layout.layered Layout.complete_layered none⟩

end Flowchart
