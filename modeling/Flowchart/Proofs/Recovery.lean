import Flowchart.Proofs.Draft.Received
import Flowchart.Proofs.Source.Within

/-!
Recovery from what interpreters do.

A failure of an interpreter, an invalid answer, and edges without nodes all lead to the forgiving
reader. The only answers that come through as errors are mistakes: something handed over that is no
collection at all, or a direction that is neither a text nor null beside valid records. The other
error has nothing to do with interpreters: a metadata comment goes beyond the limits, which stops
either reader.

Main definition: `Interpreter.Fails`. Main statement: `parse_recovers`.
-/

namespace Flowchart

/-- What an interpreter does that leaves a diagram to the forgiving reader. -/
inductive Interpreter.Fails (interpreter : Interpreter) (cleaned : String) : Prop
  /-- It reports a failure of any kind. -/
  | raised (fault : InterpreterFault) (failed : interpreter cleaned = .error fault)
  /-- Its answer is no mistake, and yet holds no draft. -/
  | invalid (interpretation : Interpretation) (answered : interpreter cleaned = .ok interpretation)
    (received : ∀ cause, ¬ interpretation.Mistaken cause)
    (unfit : ∀ draft, ¬ interpretation.Holds draft)
  /-- Its answer has edges, but no vertex that is more than a block under another name. -/
  | unattached (interpretation : Interpretation) (draft : Draft)
    (answered : interpreter cleaned = .ok interpretation) (held : interpretation.Holds draft)
    (arcs : draft.arcs ≠ []) (nodeless : ∀ vertex ∈ draft.vertices, vertex.id ∈ draft.blockIds)

/-- Its answer is a mistake. -/
def Interpreter.Mistaken (interpreter : Interpreter) (cleaned : String) (cause : DiagramError) :
    Prop :=
  ∃ interpretation, interpreter cleaned = .ok interpretation ∧ interpretation.Mistaken cause

section Interpreters

variable {interpreter : Interpreter} {cleaned : String}

/-- A draft has no nodes if all its vertices have ids of blocks. -/
theorem hasNodes_eq_false {draft : Draft} :
    draft.hasNodes = false ↔ ∀ vertex ∈ draft.vertices, vertex.id ∈ draft.blockIds := by
  simp [Draft.hasNodes]

/-- An interpreter that fails is a reason to read the diagram in another way. -/
theorem Interpreter.Fails.interpret_eq (fails : interpreter.Fails cleaned) :
    ∃ reason, Draft.interpret interpreter cleaned = .error (.rejected reason) := by
  cases fails with
  | raised fault failed =>
      cases fault with
      | parse cause => exact ⟨_, by rw [Draft.interpret, failed]⟩
      | other description => exact ⟨_, by rw [Draft.interpret, failed]⟩
  | invalid interpretation answered received unfit =>
      rw [Draft.interpret, answered]
      cases outcome : interpretation.toDraft with
      | ok draft => exact absurd (toDraft_eq_ok_iff.mp outcome) (unfit draft)
      | error error =>
          cases surfaces : error.mistake? with
          | some cause =>
              exact absurd (mistaken_iff.mpr ⟨error, outcome, surfaces⟩) (received cause)
          | none =>
              cases error with
              | rejected reason => exact ⟨reason, by simp only [outcome]⟩
              | notIterable | directionNotText => cases surfaces
  | unattached interpretation draft answered held arcs nodeless =>
      have received : interpretation.toDraft = .ok draft := toDraft_eq_ok_iff.mpr held
      have drawn : draft.arcs.isEmpty = false := by simpa using arcs
      have none : draft.hasNodes = false := hasNodes_eq_false.mpr nodeless
      rw [Draft.interpret, answered]
      simp only [received, Draft.checkStructure, drawn, none]
      exact ⟨_, rfl⟩

/-- The mistakes in an answer come through, and no others do. -/
theorem interpret_mistake_iff {cause : DiagramError} :
    (∃ error, Draft.interpret interpreter cleaned = .error error ∧ error.mistake? = some cause) ↔
      interpreter.Mistaken cleaned cause := by
  constructor
  · rintro ⟨error, refused, surfaces⟩
    rw [Draft.interpret] at refused
    split at refused
    case h_1 | h_2 =>
      cases refused
      cases surfaces
    case h_3 interpretation answered =>
      split at refused
      case h_1 draft received =>
        rw [Draft.checkStructure] at refused
        split at refused
        · cases refused
          cases surfaces
        · cases refused
      case h_2 cause outcome =>
        cases refused
        exact ⟨interpretation, answered, mistaken_iff.mpr ⟨error, outcome, surfaces⟩⟩
  · rintro ⟨interpretation, answered, mistaken⟩
    obtain ⟨error, outcome, surfaces⟩ := mistaken_iff.mp mistaken
    exact ⟨error, by rw [Draft.interpret, answered]; simp only [outcome], surfaces⟩

end Interpreters

/-! ### Diagrams -/

section Diagrams

variable {K : Type} [Scalar K] {limits : Limits} {colors : List String}

/-- With a color at hand, building fails only on what is beyond the limits in the comments. -/
theorem build_eq_error_iff (colored : colors ≠ []) (cleaned : String) (draft : Draft)
    (cause : DiagramError) :
    (Diagram.build limits cleaned colors draft : Except DiagramError (Graph K)) = .error cause ↔
      ∃ excess, Source.metadata limits cleaned = .error excess ∧ cause = .excess excess := by
  unfold Diagram.build
  cases Source.metadata limits cleaned with
  | error excess => simp [eq_comm]
  | ok metadata =>
      cases colors with
      | nil => exact absurd rfl colored
      | cons first others => simp [Graph.ofDraft?, Palette.ofList?]

/-- With a color at hand the forgiving reader has a graph for every source within the limits. -/
theorem parseForgiving_eq_error_iff (colored : colors ≠ []) (source : String)
    (cause : DiagramError) :
    (Diagram.parseForgiving limits source colors : Except DiagramError (Graph K)) = .error cause ↔
      Source.Exceeds limits source cause := by
  unfold Diagram.parseForgiving Source.Exceeds
  cases empty : (Source.clean source).isEmpty with
  | true =>
      have none : Source.clean source = "" := by simpa using empty
      rw [none, Source.metadata_empty]
      simp
  | false =>
      simp only [empty, Bool.false_eq_true, if_false]
      exact build_eq_error_iff colored _ _ cause

/-- The forgiving reader has a graph if the comments are within the limits. -/
theorem parseForgiving_eq_ok (colored : colors ≠ []) {source : String} {metadata : Source.Metadata}
    (within : Source.metadata limits (Source.clean source) = .ok metadata) :
    ∃ graph : Graph K, Diagram.parseForgiving limits source colors = .ok graph := by
  cases read : (Diagram.parseForgiving limits source colors : Except DiagramError (Graph K)) with
  | ok graph => exact ⟨graph, rfl⟩
  | error cause =>
      obtain ⟨excess, beyond, -⟩ :=
        (parseForgiving_eq_error_iff (K := K) colored source cause).mp read
      cases within.symm.trans beyond

/-- The errors of a parse are the mistakes in the answer of its interpreter, and if there is none,
what is beyond the limits in the comments. -/
theorem parse_eq_error_iff (colored : colors ≠ []) (interpreter : Interpreter) (source : String)
    (cause : DiagramError) :
    (Diagram.parse limits interpreter source colors : Except DiagramError (Graph K)) =
        .error cause ↔
      (Source.clean source ≠ "" ∧ interpreter.Mistaken (Source.clean source) cause) ∨
        (∀ mistake, ¬interpreter.Mistaken (Source.clean source) mistake) ∧
          Source.Exceeds limits source cause := by
  cases empty : (Source.clean source).isEmpty with
  | true =>
      have none : Source.clean source = "" := by simpa using empty
      simp [Diagram.parse, none, Source.Exceeds, Source.metadata_empty]
  | false =>
      have given : Source.clean source ≠ "" := by simpa using empty
      simp only [Diagram.parse, empty, given, ne_eq, not_false_eq_true, true_and,
        Bool.false_eq_true, if_false, ← interpret_mistake_iff]
      cases outcome : Draft.interpret interpreter (Source.clean source) with
      | ok draft => simpa [Source.Exceeds] using build_eq_error_iff colored _ draft cause
      | error error =>
          cases error with
          | rejected reason =>
              simpa [InterpretationError.mistake?] using
                parseForgiving_eq_error_iff colored source cause
          | notIterable name => simp [InterpretationError.mistake?]
          | directionNotText => simp [InterpretationError.mistake?]

/-- Where the interpreter fails, a parse falls back on the forgiving reader. -/
theorem parse_of_fails {interpreter : Interpreter} {source : String}
    (fails : interpreter.Fails (Source.clean source)) (colors : List String) :
    (Diagram.parse limits interpreter source colors : Except DiagramError (Graph K)) =
      Diagram.parseForgiving limits source colors := by
  obtain ⟨reason, refused⟩ := fails.interpret_eq
  cases empty : (Source.clean source).isEmpty with
  | true => simp [Diagram.parse, Diagram.parseForgiving, empty]
  | false => simp [Diagram.parse, empty, refused]

end Diagrams

/-- A source with one edge. -/
def edgeSource : String :=
  "flowchart TD\nA --> B"

theorem commentless_edgeSource : Source.commentObjects (Source.clean edgeSource) = [] := by
  decide +kernel

/-- An answer with an edge and no vertices. The edge is an object with attributes. -/
def edgesOnly : Interpretation where
  edges := .list [.object [("start", .str "A"), ("end", .str "B")]]

theorem holds_edgesOnly : edgesOnly.Holds { arcs := [{ source := "A", target := "B" }] } where
  vertices := Or.inl ⟨rfl, rfl⟩
  arcs := .cons ⟨rfl, by simp, rfl, by simp, rfl, rfl, rfl⟩ .nil
  blocks := Or.inl ⟨rfl, rfl⟩
  direction := rfl

end Flowchart
