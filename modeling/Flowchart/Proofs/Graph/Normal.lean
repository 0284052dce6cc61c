import Flowchart.Proofs.Graph.Exchange

/-!
Documents in normal form.

A document that is read and written again is in normal form: all ids, parents and edges are
repaired, and doing it once more changes nothing. The graph of a normal form differs from the one
that it was written from only where writing leaves something out, the colors and sizes of plain
nodes.

Main definitions: `Json.normalize`, `Graph.written`. Main statement: `normalize_settled`.
-/

namespace Flowchart

/-- A document as it is written after it was read. -/
def Json.normalize (limits : Limits) (document : Json) : Except DocumentError Json :=
  (Graph.ofJson limits document).map Graph.toJson

variable {limits : Limits}

/-! ### What is written -/

/-- A node as its document describes it: only groups have a color and a size. -/
def Node.written (node : Node Float) : Node Float :=
  if node.isGroup then node else { node with color := none, width := none, height := none }

/-- A graph as its document describes it. -/
def Graph.written (graph : Graph Float) : Graph Float :=
  { graph with nodes := graph.nodes.map Node.written }

namespace Node

variable (node : Node Float)

/-- Writing a node down changes at most its color and its size. -/
theorem written_eq : ∃ color width height,
    node.written = { node with color := color, width := width, height := height } := by
  unfold written
  split
  · exact ⟨node.color, node.width, node.height, rfl⟩
  · exact ⟨none, none, none, rfl⟩

@[simp]
theorem id_written : node.written.id = node.id := by
  obtain ⟨_, _, _, same⟩ := node.written_eq
  rw [same]

@[simp]
theorem parent_written : node.written.parent = node.parent := by
  obtain ⟨_, _, _, same⟩ := node.written_eq
  rw [same]

@[simp]
theorem isGroup_written : node.written.isGroup = node.isGroup := by
  obtain ⟨_, _, _, same⟩ := node.written_eq
  rw [same]
  rfl

/-- The record of a node is the same after it has been written down. -/
theorem toJson_written : node.written.toJson = node.toJson := by
  cases isGroup : node.isGroup with
  | true => rw [written, if_pos isGroup]
  | false =>
      have plain : ({ node with color := none, width := none, height := none } :
          Node Float).isGroup = false := isGroup
      rw [written, isGroup, if_neg Bool.false_ne_true]
      simp only [toJson, plain, isGroup, Bool.false_eq_true, if_false]

end Node

/-- A graph has the same document after it has been written down. -/
theorem Graph.toJson_written (graph : Graph Float) : graph.written.toJson = graph.toJson := by
  have nodes : (graph.nodes.map Node.written).map Node.toJson = graph.nodes.map Node.toJson := by
    rw [List.map_map]
    exact List.map_congr_left fun node _ => node.toJson_written
  simp only [Graph.toJson, Graph.toFields, Graph.written, nodes]

/-- Writing a sound graph down keeps it sound. -/
theorem Graph.Sound.written {graph : Graph Float} (sound : graph.Sound) :
    graph.written.Sound := by
  have ids : graph.written.nodes.map Node.id = graph.nodes.map Node.id := by
    rw [Graph.written, List.map_map]
    exact List.map_congr_left fun node _ => node.id_written
  constructor
  case distinct =>
    rw [ids]
    exact sound.distinct
  case named =>
    refine List.forall_mem_map.mpr fun node member => ?_
    rw [node.id_written]
    exact sound.named node member
  case parents =>
    refine List.forall_mem_map.mpr fun node member => ?_
    rw [node.parent_written, node.isGroup_written, node.id_written]
    intro parent isParent
    obtain ⟨inner, foreign, group, isNode, isGroup, same⟩ :=
      sound.parents node member parent isParent
    refine ⟨inner, foreign, group.written, List.mem_map_of_mem isNode, ?_, ?_⟩
    · rw [group.isGroup_written]
      exact isGroup
    · rw [group.id_written]
      exact same
  case sources =>
    rw [ids]
    exact sound.sources
  case targets =>
    rw [ids]
    exact sound.targets

/-! ### What was read -/

/-- A coordinate that was read is never the negative zero. -/
theorem Json.unsignedZero_coordinate {value : Json} {x : Float}
    (read : value.coordinate = .ok x) : unsignedZero x = x := by
  have settled : ∀ number, unsignedZero (unsignedZero number) = unsignedZero number := by
    intro number
    by_cases zero : number == 0.0 <;> simp [unsignedZero, zero]
  unfold coordinate at read
  split at read
  case h_1 number _ =>
    cases read
    exact settled number
  case h_2 =>
    cases read
    exact settled 0.0
  case h_3 => cases read

/-- The label is that of the record, or the id; shape and color are values that are not void. -/
theorem LooseNode.fields_ofRecord {id : String} {record : Json} {loose : LooseNode}
    (read : ofRecord limits id record = .ok loose) :
    (record.field "label").textOr limits id = .ok loose.node.label ∧
      loose.node.shape = (record.field "shape").given? ∧
      loose.node.color = (record.field "color").given? ∧
      (record.field "x").coordinate = .ok loose.node.x ∧
      (record.field "y").coordinate = .ok loose.node.y := by
  simp only [ofRecord, bind_eq_ok] at read
  obtain ⟨_, _, _, _, label, isLabel, x, isX, y, isY, _, _, _, _, made⟩ := read
  cases made
  exact ⟨isLabel, rfl, rfl, isX, isY⟩

/-- A direction that is given is not empty. -/
theorem Json.direction_ne_empty {value : Json} {direction : Option String}
    (read : value.given?.mapM (toText limits) = .ok direction) :
    ∀ word ∈ direction, word ≠ "" := by
  cases isGiven : value.given? with
  | none =>
      rw [isGiven] at read
      cases read
      simp
  | some given =>
      rw [isGiven, Option.mapM_some] at read
      cases shown : given.toText limits with
      | error cause =>
          rw [shown] at read
          cases read
      | ok text =>
          rw [shown] at read
          cases read
          rintro word ⟨⟩
          exact toText_ne_empty (given?_eq_some.mp isGiven).2 shown

namespace Node.ReadFrom

variable {record : Json} {node : Node Float} (read : node.ReadFrom limits record)

include read

/-- A node with an id that has been written down comes back from its record. -/
theorem portable_written (named : node.id ≠ "") : node.written.Portable := by
  obtain ⟨⟨loose, fromRecord, same⟩, -⟩ := read
  obtain ⟨isLabel, isShape, isColor, -, -⟩ := LooseNode.fields_ofRecord fromRecord
  have label : node.label ≠ "" := by
    rw [same]
    exact Json.textOr_ne_empty isLabel named
  have shape : ∀ shape ∈ node.shape, shape.isVoid = false := by
    rw [same, isShape]
    exact fun shape given => (Json.given?_eq_some.mp given).2
  have color : ∀ color ∈ node.color, color.isVoid = false := by
    rw [same, isColor]
    exact fun color given => (Json.given?_eq_some.mp given).2
  unfold written
  split
  case isTrue isGroup =>
    exact ⟨label, shape, color, fun plain => absurd isGroup (by rw [plain]; decide)⟩
  case isFalse => exact ⟨label, shape, by simp, fun _ => ⟨rfl, rfl, rfl⟩⟩

theorem reread_written : node.written.reread = node.written := by
  obtain ⟨⟨loose, fromRecord, same⟩, -⟩ := read
  obtain ⟨-, -, -, isX, isY⟩ := LooseNode.fields_ofRecord fromRecord
  have x : unsignedZero node.x = node.x := by
    rw [same]
    exact Json.unsignedZero_coordinate isX
  have y : unsignedZero node.y = node.y := by
    rw [same]
    exact Json.unsignedZero_coordinate isY
  obtain ⟨_, _, _, written⟩ := node.written_eq
  rw [written, reread]
  dsimp only
  rw [x, y]

end Node.ReadFrom

/-- An edge that has been read from a record comes back from the record that it makes. -/
theorem Edge.ReadFrom.portable {position : Nat} {record : Json} {edge : Edge}
    (read : edge.ReadFrom limits position record) : edge.Portable := by
  constructor
  case id => exact Json.textOr_ne_empty read.id (edgeId_ne_empty _ _ _)
  case label =>
    rw [read.label]
    exact fun label given => (Json.given?_eq_some.mp given).2

/-! ### Normal forms -/

section Normal

variable {document : Json} {graph : Graph Float} (read : Graph.ofJson limits document = .ok graph)

include read

/-- What is written of a graph that was read gets lost nowhere. -/
theorem Graph.portable_written : graph.written.Portable := by
  obtain ⟨_, _, -, -, fromRecords⟩ := Graph.readFrom_ofJson read
  have sound := Graph.sound_ofJson read
  constructor
  case sound => exact sound.written
  case nodes =>
    refine List.forall_mem_map.mpr fun node member => ?_
    obtain ⟨_, -, isNode⟩ := exists_left_of_mem fromRecords.nodes member
    exact isNode.portable_written (sound.named node member)
  case edges =>
    intro edge member
    obtain ⟨_, -, isEdge⟩ := exists_left_of_mem fromRecords.edges member
    exact isEdge.portable
  case direction =>
    obtain ⟨_, _, _, _, _, _, _, _, direction⟩ := Graph.ofJson_eq_ok read
    exact Json.direction_ne_empty direction

/-- A graph that was read comes back from its document as far as it was written. -/
theorem Graph.ofJson_toJson_written : Graph.ofJson limits graph.toJson = .ok graph.written := by
  obtain ⟨_, _, -, -, fromRecords⟩ := Graph.readFrom_ofJson read
  have settled : graph.written.nodes.map Node.reread = graph.written.nodes := by
    rw [Graph.written, List.map_map]
    refine List.map_congr_left fun node member => ?_
    obtain ⟨_, -, isNode⟩ := exists_left_of_mem fromRecords.nodes member
    exact isNode.reread_written
  rw [← graph.toJson_written, ofJson_toJson_eq limits (Graph.portable_written read), settled]

end Normal

/-- Normalizing a document once is enough. -/
theorem normalize_settled {document normal : Json}
    (normalized : document.normalize limits = .ok normal) :
    normal.normalize limits = .ok normal := by
  unfold Json.normalize at normalized
  cases read : Graph.ofJson limits document with
  | error cause =>
      rw [read] at normalized
      cases normalized
  | ok graph =>
      rw [read] at normalized
      cases normalized
      rw [Json.normalize, Graph.ofJson_toJson_written read, Except.map, graph.toJson_written]

/-- Two nodes with one id, a plain node with a color and a width, a parent that is no group, an edge
that leads nowhere, and a direction that is a number. -/
def foreignDocument : Json :=
  .obj [("direction", .int 5),
    ("nodes", .arr [.obj [("id", .str "a"), ("color", .str "red"), ("width", .int 90),
        ("x", .float (-0.0)), ("parentId", .str "b")], .bool true,
      .obj [("id", .str "a"), ("label", .int 7), ("parent_id", .str "g")],
      .obj [("id", .str "g"), ("type", .str "Group"), ("height", .float 40.0)]]),
    ("edges", .arr [.obj [("source", .str "a"), ("target", .str "b")],
      .obj [("from", .str "a"), ("to", .str "a_1"), ("animated", .int 1)]])]

/-- The normal form of `foreignDocument`. -/
def foreignNormal : Json :=
  Graph.toJson
    { nodes := [{ id := "a", kind := .plain, label := "a", x := 0.0, y := 0.0 },
        { id := "a_1", kind := .plain, label := "7", parent := some "g", x := 0.0, y := 0.0 },
        { id := "g", kind := .group, label := "g", x := 0.0, y := 0.0, height := some 40.0 }]
      edges := [{ id := "ea-a_1-1", source := "a", target := "a_1", stroke := .dotted }]
      direction := some "5" }

theorem normalize_settled_foreignDocument :
    foreignDocument.normalize .standard = .ok foreignNormal ∧
      foreignNormal.normalize .standard = .ok foreignNormal := by
  have normalized : foreignDocument.normalize .standard = .ok foreignNormal := rfl
  exact ⟨normalized, normalize_settled normalized⟩

end Flowchart
