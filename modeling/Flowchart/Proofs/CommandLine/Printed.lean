import Flowchart.CommandLine.Run
import Flowchart.Proofs.Json.Documents
import Flowchart.Proofs.Pipeline

/-!
What is printed.

A document is printed if it is within the limits and its strings can be encoded. What a program
prints for the graph of a diagram can be encoded as soon as the metadata in its comments can, and
that holds of every object without half of a surrogate pair in it.

Main definitions: `Json.Fits`, `Graph.Encodable`, `Outcome.Prints`. Main statements:
`Json.print_eq_ok_iff`, `encodable_document`, `prints_of_printDocument`.
-/

namespace Flowchart

/-! ### Printing -/

namespace Json

/-- A value and an indent that are within the limits. -/
structure Fits (limits : Limits) (indent : Int) (value : Json) : Prop where
  counted : isCount limits indent = true
  indented : exceeds limits.characters indent.toNat = false
  nested : value.excess? limits .printed limits.printing = none
  short : exceeds limits.characters (value.render (indentWidth indent)).length = false

/-- A value is printed if and only if it is within the limits and can be encoded. -/
theorem print_eq_ok_iff {limits : Limits} {indent : Int} {value : Json} {text : String} :
    print limits indent value = .ok text ↔
      value.Fits limits indent ∧ value.encodable = true ∧
        text = value.render (indentWidth indent) := by
  rw [print]
  constructor
  · intro printed
    split at printed
    case isTrue => cases printed
    case isFalse counted =>
      split at printed
      case isTrue => cases printed
      case isFalse indented =>
        split at printed
        case h_1 => cases printed
        case h_2 nested =>
          dsimp only at printed
          split_ifs at printed with long encodable
          cases printed
          simp only [Bool.not_eq_true, Bool.not_eq_false'] at counted indented long
          exact ⟨⟨counted, indented, nested, long⟩, encodable, rfl⟩
  · rintro ⟨fits, encodable, rfl⟩
    simp [fits.counted, fits.indented, fits.nested, fits.short, encodable]

mutual

/-- Without limits nothing is beyond them. -/
theorem excess?_unlimited (kind : Nesting) :
    ∀ value : Json, value.excess? .unlimited kind none = none
  | null | bool _ | float _ | str _ => rfl
  | int _ => rfl
  | arr items => itemsExcess?_unlimited kind items
  | obj fields | escaped fields => fieldsExcess?_unlimited kind fields

theorem itemsExcess?_unlimited (kind : Nesting) :
    ∀ items : List Json, itemsExcess? .unlimited kind none items = none
  | [] => rfl
  | item :: items => by
      rw [itemsExcess?, excess?_unlimited kind item, itemsExcess?_unlimited kind items]
      rfl

theorem fieldsExcess?_unlimited (kind : Nesting) :
    ∀ fields : List (String × Json), fieldsExcess? .unlimited kind none fields = none
  | [] => rfl
  | (_, value) :: fields => by
      rw [fieldsExcess?, excess?_unlimited kind value, fieldsExcess?_unlimited kind fields]
      rfl

end

/-- Every value can be printed on a machine without limits. -/
theorem fits_unlimited (indent : Int) (value : Json) : value.Fits .unlimited indent :=
  ⟨rfl, rfl, excess?_unlimited .printed value, rfl⟩

end Json

/-! ### Encoding -/

namespace Json

theorem itemsEncodable_iff {items : List Json} :
    itemsEncodable items = true ↔ ∀ item ∈ items, item.encodable = true := by
  induction items with
  | nil => simp [itemsEncodable]
  | cons item items ih => simp [itemsEncodable, ih]

theorem fieldsEncodable_iff {fields : List (String × Json)} :
    fieldsEncodable fields = true ↔ ∀ field ∈ fields, field.2.encodable = true := by
  induction fields with
  | nil => simp [fieldsEncodable]
  | cons field fields ih => simp [fieldsEncodable, ih]

/-- An object can be encoded if all its values can. -/
@[simp]
theorem encodable_obj {fields : List (String × Json)} :
    (obj fields).encodable = true ↔ ∀ field ∈ fields, field.2.encodable = true :=
  fieldsEncodable_iff

/-- An array can be encoded if all its items can. -/
@[simp]
theorem encodable_arr {items : List Json} :
    (arr items).encodable = true ↔ ∀ item ∈ items, item.encodable = true :=
  itemsEncodable_iff

@[simp]
theorem encodable_ofText? (text : Option String) : (ofText? text).encodable = true := by
  cases text <;> rfl

@[simp]
theorem encodable_ofFloat? (value : Option Float) : (ofFloat? value).encodable = true := by
  cases value <;> rfl

mutual

/-- A value with the strings themselves can be encoded. -/
theorem encodable_of_plain? : ∀ {value plain : Json}, value.plain? = some plain →
    plain.encodable = true
  | null, _, same | bool _, _, same | int _, _, same | float _, _, same => by
      cases same
      rfl
  | str text, plain, same => by
      obtain ⟨_, -, rfl⟩ := Option.map_eq_some_iff.mp same
      rfl
  | arr items, plain, same => by
      obtain ⟨plains, areItems, rfl⟩ := Option.map_eq_some_iff.mp same
      exact itemsEncodable_of_plainItems? areItems
  | obj fields, plain, same => by
      obtain ⟨plains, areFields, rfl⟩ := Option.map_eq_some_iff.mp same
      exact fieldsEncodable_of_plainFields? areFields
  | escaped _, _, same => by cases same

theorem itemsEncodable_of_plainItems? : ∀ {items plains : List Json},
    plainItems? items = some plains → itemsEncodable plains = true
  | [], _, same => by
      cases same
      rfl
  | item :: items, plains, same => by
      rw [plainItems?] at same
      split at same
      case h_1 plain others isItem areItems =>
        cases same
        rw [itemsEncodable, encodable_of_plain? isItem, itemsEncodable_of_plainItems? areItems]
        rfl
      case h_2 => cases same

theorem fieldsEncodable_of_plainFields? : ∀ {fields plains : List (String × Json)},
    plainFields? fields = some plains → fieldsEncodable plains = true
  | [], _, same => by
      cases same
      rfl
  | (key, value) :: fields, plains, same => by
      obtain ⟨name, plain, others, -, isValue, areFields, rfl⟩ := plainFields?_cons.mp same
      rw [fieldsEncodable, encodable_of_plain? isValue, fieldsEncodable_of_plainFields? areFields]
      rfl

end

end Json

/-- Metadata that can be encoded. -/
def Attached.Encodable (attached : Attached) : Prop :=
  attached.toJson.encodable = true

/-- Metadata from a comment can be encoded if and only if its strings are whole. -/
theorem Attached.encodable_ofEscaped {fields : Keyed Json} :
    (Attached.ofEscaped fields).Encodable ↔ (Json.plainFields? fields).isSome = true := by
  unfold Attached.ofEscaped
  cases areFields : Json.plainFields? fields with
  | none => simp [Attached.Encodable, Attached.toJson, Json.encodable]
  | some plains =>
      have encodable := Json.fieldsEncodable_of_plainFields? areFields
      simpa [Attached.Encodable, Attached.toJson, Json.fieldsEncodable_iff] using encodable

section Graphs

variable {K : Type}

/-- A node of which all values can be encoded. -/
structure Node.Encodable (node : Node K) : Prop where
  shape : ∀ shape ∈ node.shape, shape.encodable = true
  color : ∀ color ∈ node.color, color.encodable = true
  metadata : ∀ attached ∈ node.metadata, attached.Encodable

/-- A graph of which all values can be encoded. -/
structure Graph.Encodable (graph : Graph K) : Prop where
  nodes : ∀ node ∈ graph.nodes, node.Encodable
  edges : ∀ edge ∈ graph.edges, ∀ label ∈ edge.label, label.encodable = true

/-- What geometry does to a graph makes no difference to encoding it. -/
theorem Graph.Rearranged.encodable [Scalar K] {before after : Graph K}
    (arranged : before.Rearranged after) (encodable : before.Encodable) : after.Encodable where
  nodes := by
    intro node member
    obtain ⟨old, listed, same⟩ := Node.exists_still arranged.nodes member
    have before := encodable.nodes old listed
    have shape : node.shape = old.shape := (congrArg Node.shape same :)
    have color : node.color = old.color := (congrArg Node.color same :)
    have metadata : node.metadata = old.metadata := (congrArg Node.metadata same :)
    exact ⟨shape ▸ before.shape, color ▸ before.color, metadata ▸ before.metadata⟩
  edges := by
    rw [arranged.edges]
    exact encodable.edges

/-- The graph of a draft can be encoded if the metadata can. -/
theorem Graph.encodable_ofDraft [Scalar K] (draft : Draft) {metadata : Source.Metadata}
    (encodable : ∀ entry ∈ metadata, entry.2.Encodable) (palette : Palette) :
    (Graph.ofDraft draft metadata palette : Graph K).Encodable where
  nodes := by
    have attached {id : String} : ∀ attached ∈ Keyed.find? id metadata, attached.Encodable :=
      fun attached found => encodable (id, attached) (Keyed.mem_of_find? found)
    intro node member
    rcases mem_nodes_ofDraft draft metadata palette member with
      ⟨position, block, -, rfl⟩ | ⟨vertex, -, -, rfl⟩
    · refine ⟨?_, ?_, attached⟩
      · rintro _ ⟨⟩
      · rintro _ ⟨⟩
        rfl
    · refine ⟨?_, ?_, attached⟩
      · intro shape isShape
        obtain ⟨word, -, rfl⟩ := Option.map_eq_some_iff.mp isShape
        rfl
      · rintro _ ⟨⟩
  edges := by
    intro edge member label isLabel
    obtain ⟨arc, -, rfl⟩ := List.mem_map.mp member
    rw [Edge.ofArc] at isLabel
    dsimp only at isLabel
    split at isLabel
    · cases isLabel
    · cases isLabel
      rfl

/-- The graph of a source can be encoded if the metadata in its comments can. -/
theorem Graph.Drafted.encodable [Scalar K] {limits : Limits} {source : String}
    {colors : List String} {graph : Graph K} (drafted : graph.Drafted limits source colors)
    {metadata : Source.Metadata}
    (attached : Source.metadata limits (Source.clean source) = .ok metadata)
    (encodable : ∀ entry ∈ metadata, entry.2.Encodable) : graph.Encodable := by
  cases drafted with
  | empty => exact ⟨by simp, by simp⟩
  | @ofDraft draft other palette _ attached' _ =>
      cases attached.symm.trans attached'
      exact Graph.encodable_ofDraft draft encodable palette

end Graphs

/-- The record of a node can be encoded if its shape, color and metadata can. -/
theorem Node.Encodable.toJson {node : Node Float} (encodable : node.Encodable) :
    node.toJson.encodable = true := by
  have shape : (node.shape.getD .null).encodable = true := by
    cases given : node.shape with
    | none => rfl
    | some shape => exact encodable.shape shape given
  have color : (node.color.getD .null).encodable = true := by
    cases given : node.color with
    | none => rfl
    | some color => exact encodable.color color given
  rw [Node.toJson, Json.encodable_obj, List.forall_mem_append, List.forall_mem_append]
  refine ⟨⟨by simp [Json.encodable, shape], ?_⟩, ?_⟩
  · cases given : node.metadata with
    | none => simp
    | some attached => simpa [Attached.Encodable] using encodable.metadata attached given
  · split <;> simp [color]

/-- The record of an edge can be encoded if its label can. -/
theorem Edge.encodable_toJson {edge : Edge}
    (encodable : ∀ label ∈ edge.label, label.encodable = true) :
    edge.toJson.encodable = true := by
  have label : (edge.label.getD .null).encodable = true := by
    cases given : edge.label with
    | none => rfl
    | some label => exact encodable label given
  simp [Edge.toJson, Json.encodable, Json.fieldsEncodable, label]

namespace CommandLine

variable {limits : Limits} {arguments : Arguments} {graph : Graph Float} {errors : String}

/-- The diagnostics can always be encoded, and so can the document of a graph if the graph can. -/
theorem encodable_document (encodable : graph.Encodable) :
    (document arguments graph).encodable = true := by
  have nodes : ∀ node ∈ graph.nodes, node.toJson.encodable = true :=
    fun node member => (encodable.nodes node member).toJson
  have edges : ∀ edge ∈ graph.edges, edge.toJson.encodable = true :=
    fun edge member => Edge.encodable_toJson (encodable.edges edge member)
  rw [document, Json.encodable_obj, List.forall_mem_append, Graph.toFields, List.forall_mem_append]
  refine ⟨⟨by simpa using ⟨nodes, edges⟩, ?_⟩, ?_⟩
  · split
    · split <;> simp [Json.encodable]
    · simp
  · split
    · rw [List.forall_mem_singleton, statistics, Json.encodable_obj, List.forall_mem_append]
      have crowded : (Json.arr ((Metrics.crowdedNodes Metrics.crowdingDistance graph).map
          Json.str)).encodable = true :=
        Json.encodable_arr.mpr (List.forall_mem_map.mpr fun _ _ => rfl)
      refine ⟨by simp [Json.encodable], ?_⟩
      split
      · simpa [Json.encodable] using crowded
      · simp
    · simp

/-- The document of a graph is on the output, and nothing else is. It is read back if all numbers in
it are finite; if not, it is no document, since other numbers have no spelling. -/
structure Outcome.Prints (outcome : Outcome) (arguments : Arguments) (graph : Graph Float) :
    Prop where
  exitCode : outcome.exitCode = 0
  output : outcome.output =
    (document arguments graph).render (Json.indentWidth arguments.indent) ++ "\n"
  reads : Json.read .strict outcome.output =
    if (document arguments graph).isFinite then .ok (some (document arguments graph).reread)
    else .error .malformed

/-- A document that has been printed is on the output, with exit code 0. -/
theorem prints_of_printDocument {outcome : Outcome}
    (printed : printDocument limits arguments graph errors = .ok outcome) :
    outcome.Prints arguments graph := by
  unfold printDocument at printed
  split at printed
  case h_1 text isText =>
    obtain ⟨-, encodable, rfl⟩ := Json.print_eq_ok_iff.mp isText
    cases printed
    exact ⟨rfl, rfl, Json.read_render _ encodable⟩
  case h_2 => cases printed

/-- Printing fails exactly where the document of the graph cannot be printed. -/
theorem printDocument_eq_error_iff {cause : Breakdown} :
    printDocument limits arguments graph errors = .error cause ↔
      ∃ reason, Json.print limits arguments.indent (document arguments graph) = .error reason ∧
        cause = .unprintable reason := by
  unfold printDocument
  cases Json.print limits arguments.indent (document arguments graph) <;> simp [eq_comm]

end CommandLine

end Flowchart
