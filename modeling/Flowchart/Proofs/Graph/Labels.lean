import Flowchart.Proofs.Graph.Agreement
import Flowchart.Proofs.Scan.Entries
import Flowchart.Proofs.Text.Labels

/-!
Labels of graphs.

A graph cleans the texts of its draft, and the forgiving reader has already cleaned the titles of
blocks and the labels of links. Because cleaning fixes clean labels, it makes no difference whether
the texts of a draft have been cleaned before, and the labels that the forgiving reader has cleaned
are those of the graph.

Main definition: `Draft.cleaned`. Main statements: `ofDraft_cleaned`, `label_of_mem_arcs_scan`,
`label_of_mem_blocks_scan`.
-/

namespace Flowchart

open Flowchart.Source (Metadata)
open Flowchart.Text

/-! ### Drafts with cleaned texts -/

def Vertex.cleaned (vertex : Vertex) : Vertex :=
  { vertex with text := vertex.text.map cleanLabel }

def Arc.cleaned (arc : Arc) : Arc :=
  { arc with text := arc.text.map cleanLabel }

def Block.cleaned (block : Block) : Block :=
  { block with title := block.title.map cleanLabel }

/-- A draft with every text that becomes a label cleaned. -/
def Draft.cleaned (draft : Draft) : Draft :=
  { draft with
    vertices := draft.vertices.map Vertex.cleaned
    arcs := draft.arcs.map Arc.cleaned
    blocks := draft.blocks.map Block.cleaned }

namespace Text

/-- Cleaning leaves exactly the clean labels as they are. -/
theorem cleanLabel_eq_self {label : String} : cleanLabel label = label ↔ IsClean label.toList := by
  rw [cleanLabel, ← cleanLabelChars_eq_self, ← String.toList_inj, String.toList_ofList]

/-- A label that has been cleaned is clean. -/
theorem isClean_cleanLabel (text : String) : IsClean (cleanLabel text).toList := by
  rw [cleanLabel, String.toList_ofList]
  exact isClean_cleanLabelChars text.toList

/-- Cleaning twice is cleaning once. -/
theorem cleanLabel_cleanLabel (text : String) : cleanLabel (cleanLabel text) = cleanLabel text :=
  cleanLabel_eq_self.mpr (isClean_cleanLabel text)

/-- No text counts as an empty one, whether it is cleaned or not. -/
theorem cleanLabel_getD_map (text : Option String) :
    cleanLabel ((text.map cleanLabel).getD "") = cleanLabel (text.getD "") := by
  cases text with
  | none => rfl
  | some text => exact cleanLabel_cleanLabel text

end Text

/-- A label is cleaned when it is taken over, so it may have been cleaned before. -/
theorem labelOr_map_cleanLabel (id : String) (text : Option String) :
    labelOr id (text.map cleanLabel) = labelOr id text := by
  rw [labelOr, labelOr, cleanLabel_getD_map]

namespace Draft

variable (draft : Draft)

theorem blockIds_cleaned : draft.cleaned.blockIds = draft.blockIds :=
  List.map_map.trans rfl

/-- Cleaning keeps which blocks come first under their ids. -/
theorem distinctBlocks_cleaned :
    draft.cleaned.distinctBlocks = draft.distinctBlocks.map Block.cleaned :=
  firstByKey_map Block.cleaned (fun _ => rfl) [] draft.blocks

theorem distinctVertices_cleaned :
    draft.cleaned.distinctVertices = draft.distinctVertices.map Vertex.cleaned := by
  rw [distinctVertices, blockIds_cleaned]
  exact firstByKey_map Vertex.cleaned (fun _ => rfl) draft.blockIds draft.vertices

theorem map_id_blockOf?_cleaned (id : String) :
    (draft.cleaned.blockOf? id).map Block.id = (draft.blockOf? id).map Block.id := by
  rw [blockOf?, cleaned, List.find?_map, Option.map_map]
  rfl

theorem groupLabel_cleaned : draft.cleaned.groupLabel = draft.groupLabel := by
  funext id
  have title : (draft.cleaned.blocks.find? fun block => block.id == id).bind Block.title =
      ((draft.blocks.find? fun block => block.id == id).bind Block.title).map cleanLabel := by
    rw [cleaned, List.find?_map]
    change ((draft.blocks.find? fun block => block.id == id).map Block.cleaned).bind Block.title =
      _
    cases draft.blocks.find? fun block => block.id == id <;> rfl
  rw [groupLabel, groupLabel, title, labelOr_map_cleanLabel]

theorem keeps_cleaned (arc : Arc) : draft.cleaned.keeps arc.cleaned = draft.keeps arc := by
  have ids : draft.cleaned.nodeIds = draft.nodeIds := by
    rw [nodeIds, nodeIds, distinctBlocks_cleaned, distinctVertices_cleaned, List.map_map,
      List.map_map]
    rfl
  rw [keeps, keeps, ids]
  rfl

end Draft

section Graphs

variable {K : Type} [Scalar K]

/-- A block that has been cleaned makes the same group. -/
theorem ofBlock_cleaned (metadata : Metadata) (palette : Palette) (position : Nat)
    (block : Block) :
    (Node.ofBlock metadata palette position block.cleaned : Node K) =
      Node.ofBlock metadata palette position block := by
  simp only [Node.ofBlock, Block.cleaned, labelOr_map_cleanLabel]

/-- A vertex that has been cleaned makes the same node. -/
theorem ofVertex_cleaned (draft : Draft) (metadata : Metadata) (vertex : Vertex) :
    (Node.ofVertex draft.cleaned metadata vertex.cleaned : Node K) =
      Node.ofVertex draft metadata vertex := by
  simp only [Node.ofVertex, Vertex.cleaned, labelOr_map_cleanLabel, draft.map_id_blockOf?_cleaned,
    draft.groupLabel_cleaned]

/-- An arc that has been cleaned makes the same edge. -/
theorem ofArc_cleaned (position : Nat) (arc : Arc) :
    Edge.ofArc position arc.cleaned = Edge.ofArc position arc := by
  simp only [Edge.ofArc, Arc.cleaned, cleanLabel_getD_map]

/-- Cleaning the texts of a draft beforehand does not change its graph. -/
theorem ofDraft_cleaned (draft : Draft) (metadata : Metadata) (palette : Palette) :
    (Graph.ofDraft draft.cleaned metadata palette : Graph K) =
      Graph.ofDraft draft metadata palette := by
  have blocks : draft.cleaned.distinctBlocks.mapIdx (Node.ofBlock (K := K) metadata palette) =
      draft.distinctBlocks.mapIdx (Node.ofBlock metadata palette) := by
    apply List.ext_getElem?
    intro position
    rw [draft.distinctBlocks_cleaned, List.getElem?_mapIdx, List.getElem?_mapIdx, List.getElem?_map,
      Option.map_map]
    exact congrArg (Option.map · draft.distinctBlocks[position]?)
      (funext fun block => ofBlock_cleaned metadata palette position block)
  have vertices :
      draft.cleaned.distinctVertices.map (Node.ofVertex (K := K) draft.cleaned metadata) =
        draft.distinctVertices.map (Node.ofVertex draft metadata) := by
    rw [draft.distinctVertices_cleaned, List.map_map]
    exact List.map_congr_left fun vertex _ => ofVertex_cleaned draft metadata vertex
  have arcs : (draft.cleaned.arcs.zipIdx.filter fun arc => draft.cleaned.keeps arc.1).map
      (fun arc => Edge.ofArc arc.2 arc.1) =
        (draft.arcs.zipIdx.filter fun arc => draft.keeps arc.1).map
          fun arc => Edge.ofArc arc.2 arc.1 := by
    have kept : (fun arc : Arc × Nat => draft.cleaned.keeps arc.1) ∘ Prod.map Arc.cleaned id =
        fun arc => draft.keeps arc.1 :=
      funext fun arc => draft.keeps_cleaned arc.1
    have zipped : draft.cleaned.arcs.zipIdx = draft.arcs.zipIdx.map (Prod.map Arc.cleaned id) :=
      List.zipIdx_map
    rw [zipped, List.filter_map, List.map_map, kept]
    exact List.map_congr_left fun arc _ => ofArc_cleaned arc.2 arc.1
  rw [Graph.ofDraft, Graph.ofDraft, blocks, vertices, arcs]
  rfl

end Graphs

/-! ### Forgiving reading -/

namespace Scan

/-- A name holds neither blanks nor angles, so it is a clean label. -/
theorem isClean_name {name : List Char} (inside : ∀ c ∈ name, isNameChar c = true) :
    IsClean name := by
  have visible : ∀ c ∈ name, isBlank c = false := by
    intro c member
    cases blank : isBlank c with
    | false => rfl
    | true =>
        have outside := isNameChar_of_isBlank blank
        rw [inside c member] at outside
        cases outside
  constructor
  case untagged =>
    intro angles
    have outside : isNameChar '<' = false := by decide
    rw [inside '<' (angles.subset (by simp))] at outside
    cases outside
  case spaced =>
    rintro before c after rfl blank
    rw [visible c (by simp)] at blank
    cases blank
  case first => exact fun c first => visible c (List.mem_of_mem_head? first)
  case last =>
    exact fun c first => visible c (List.mem_reverse.mp (List.mem_of_mem_head? first))

/-- The title of a block is clean, be it a text or the id in its place. -/
theorem title_of_blockOfLine? {line : List Char} {block : Block}
    (opened : blockOfLine? line = some block) :
    ∃ title, block.title = some title ∧ title ≠ "" ∧ cleanLabel title = title := by
  simp only [blockOfLine?, Option.bind_eq_bind, Option.bind_eq_some_iff] at opened
  obtain ⟨_, _, ⟨word, rest⟩, read, made⟩ := opened
  cases made
  generalize ((quotedTitle rest).orElse fun _ => plainTitle rest).getD word = title
  refine ⟨_, rfl, ?_⟩
  split
  case isTrue =>
    obtain ⟨nonempty, run⟩ := run1_eq_some.mp read
    obtain ⟨rfl, -⟩ := Prod.mk.inj run
    refine ⟨mt String.ofList_eq_empty_iff.mp nonempty, ?_⟩
    rw [cleanLabel_eq_self, String.toList_ofList]
    exact isClean_name fun c member => List.mem_takeWhile_imp member
  case isFalse named =>
    refine ⟨fun empty => named (by rw [empty]; rfl), ?_⟩
    rw [cleanLabel_eq_self, String.toList_ofList]
    exact isClean_cleanLabelChars title

/-- The label of a link is clean. -/
theorem label_of_mem_connections {line : List Char} {connection : Connection}
    (member : connection ∈ connections line) :
    ∀ label ∈ connection.label, label ≠ "" ∧ cleanLabel label = label := by
  obtain ⟨connector, -, found⟩ := candidate_of_mem_connections member
  obtain ⟨⟨span, source, target, raw⟩, -, rfl⟩ := List.mem_map.mp found
  intro label given
  change labelText? raw = some label at given
  rw [labelText?] at given
  split at given
  case h_1 c rest cleaned =>
    cases given
    obtain ⟨text, _, same⟩ := Option.map_eq_some_iff.mp cleaned
    refine ⟨mt String.ofList_eq_empty_iff.mp (List.cons_ne_nil c rest), ?_⟩
    rw [cleanLabel_eq_self, String.toList_ofList, ← same]
    exact isClean_cleanLabelChars text
  case h_2 => cases given

/-- Entering an id leaves ids and titles of blocks as they are. -/
theorem outline_register (blockIds : List String) (state : Scanning) (vertex : Vertex) :
    (register blockIds state vertex).blocks.map Block.outline =
      state.blocks.map Block.outline := by
  rw [register]
  split
  case isTrue => rfl
  case isFalse =>
    dsimp only
    split
    case isFalse => rfl
    case isTrue =>
      obtain none | ⟨front, last, split⟩ := List.eq_nil_or_concat state.blocks
      · simp [none, addToLast]
      · rw [List.concat_eq_append] at split
        rw [split, Plain.addToLast_append]
        simp [Block.outline]

theorem outline_enter (blockIds : List String) (state : Scanning) (vertices : List Vertex) :
    (Plain.enter blockIds state vertices).blocks.map Block.outline =
      state.blocks.map Block.outline := by
  induction vertices generalizing state with
  | nil => rfl
  | cons vertex vertices ih =>
      exact (ih (register blockIds state vertex)).trans (outline_register blockIds state vertex)

/-- A line adds the block that it opens and leaves titles alone. -/
theorem outline_scanLine (blockIds : List String) (state : Scanning) (line : List Char) :
    (scanLine blockIds state line).blocks.map Block.outline =
      state.blocks.map Block.outline ++ (blockOfLine? line).toList := by
  have effect := scanLine_effect blockIds state line
  rw [← join_boundary?]
  generalize scanLine blockIds state line = next at effect ⊢
  cases effect with
  | quiet direction registers inside =>
      rw [inside]
      exact (List.append_nil _).symm
  | opens block registers opened empty =>
      rw [opened, List.map_append]
      simp [Block.outline, ← empty]
  | closes registers closed =>
      rw [closed]
      exact (List.append_nil _).symm
  | body registers inside =>
      rw [inside]
      exact (outline_enter blockIds state (bodyVertices line)).trans (List.append_nil _).symm

/-- The blocks of a diagram, members apart, are those that its lines open. -/
theorem outlines_scan (source : String) :
    (Draft.scan source).blocks.map Block.outline =
      (scannedLines source).filterMap blockOfLine? := by
  have after : ∀ (blockIds : List String) (lines : List (List Char)),
      (lines.foldl (scanLine blockIds) {}).blocks.map Block.outline =
        lines.filterMap blockOfLine? := by
    intro blockIds lines
    induction lines using List.reverseRecOn with
    | nil => rfl
    | append_singleton before line ih =>
        rw [List.foldl_append, List.foldl_cons, List.foldl_nil, outline_scanLine, ih,
          List.filterMap_append]
        cases opened : blockOfLine? line <;> simp [opened]
  exact after _ (scannedLines source)

/-- The title that the forgiving reader gives a block is the label of its group. -/
theorem label_of_mem_blocks_scan {source : String} {block : Block}
    (member : block ∈ (Draft.scan source).blocks) :
    block.title = some (labelOr block.id block.title) := by
  have listed : block.outline ∈ (scannedLines source).filterMap blockOfLine? := by
    rw [← outlines_scan]
    exact List.mem_map_of_mem member
  obtain ⟨line, _, opened⟩ := List.mem_filterMap.mp listed
  obtain ⟨title, isTitle, named, clean⟩ := title_of_blockOfLine? opened
  have given : block.title = some title := isTitle
  rw [given, labelOr, Option.getD_some, clean]
  simp [named]

/-- A clean label is the label of the edge. -/
theorem label_ofArc (position : Nat) {arc : Arc}
    (clean : ∀ text ∈ arc.text, text ≠ "" ∧ cleanLabel text = text) :
    (Edge.ofArc position arc).label = arc.text.map Json.str := by
  rw [Edge.ofArc]
  cases given : arc.text with
  | none =>
      have empty : cleanLabel "" = "" := cleanLabel_eq_self.mpr (isClean_name (by simp))
      simp [empty]
  | some text =>
      obtain ⟨named, same⟩ := clean text given
      simp [same, named]

/-- The text that the forgiving reader gives an arc is the label of its edge. -/
theorem label_of_mem_arcs_scan {source : String} {arc : Arc}
    (member : arc ∈ (Draft.scan source).arcs) (position : Nat) :
    (Edge.ofArc position arc).label = arc.text.map Json.str := by
  obtain ⟨line, -, connection, found, rfl⟩ := exists_link_of_mem_arcs member
  exact label_ofArc position (label_of_mem_connections found)

end Scan

/-! ### Cleaning once -/

section Graphs

variable {K : Type} [Scalar K] (source : String) (metadata : Metadata) (palette : Palette)

/-- The labels of links that are found forgivingly are those of the edges. -/
theorem edgeLabels_scan :
    (Graph.ofDraft (Draft.scan source) metadata palette : Graph K).edges.map Edge.label =
      (Draft.scan source).arcs.map fun arc => arc.text.map Json.str := by
  have attached : (Draft.scan source).Attached :=
    (Scan.AfterLines.foldl_scanLine _ (Scan.scannedLines source)).draft_scoped.attached
  have texts : (Draft.scan source).arcs.map (fun arc => arc.text.map Json.str) =
      (Draft.scan source).arcs.zipIdx.map fun arc => arc.1.text.map Json.str := by
    conv_lhs => rw [← List.zipIdx_map_fst 0 (Draft.scan source).arcs]
    rw [List.map_map]
    rfl
  rw [attached.edges_ofDraft, List.map_map, texts]
  exact List.map_congr_left fun arc member =>
    Scan.label_of_mem_arcs_scan (List.fst_mem_of_mem_zipIdx member) arc.2

/-- The titles of blocks that are found forgivingly are the labels of the groups. -/
theorem groupLabels_scan :
    (Graph.ofDraft (Draft.scan source) metadata palette : Graph K).groups.map
        (fun group => some group.label) =
      (Draft.scan source).distinctBlocks.map Block.title := by
  rw [groups_ofDraft]
  apply List.ext_getElem?
  intro position
  rw [List.getElem?_map, List.getElem?_mapIdx, List.getElem?_map, Option.map_map]
  apply Option.map_congr
  intro block at_
  have kept := find?_of_mem_firstByKey (List.mem_of_getElem? at_)
  exact (Scan.label_of_mem_blocks_scan (List.mem_of_find?_eq_some kept.1)).symm

end Graphs

/-- Cleaning gives the clean labels and leaves exactly these as they are, so cleaning twice is
cleaning once. It makes no difference to a graph whether the texts of its draft are cleaned
beforehand, and what the forgiving reader has cleaned becomes a label as it is. -/
theorem labels_cleaned_once {K : Type} [Scalar K] :
    (∀ text : String, IsClean (cleanLabel text).toList) ∧
      (∀ label : String, cleanLabel label = label ↔ IsClean label.toList) ∧
      (∀ text : String, cleanLabel (cleanLabel text) = cleanLabel text) ∧
      ∀ (metadata : Metadata) (palette : Palette),
        (∀ draft : Draft, (Graph.ofDraft draft.cleaned metadata palette : Graph K) =
          Graph.ofDraft draft metadata palette) ∧
        ∀ source : String,
          (Graph.ofDraft (Draft.scan source) metadata palette : Graph K).edges.map Edge.label =
              (Draft.scan source).arcs.map (fun arc => arc.text.map Json.str) ∧
            (Graph.ofDraft (Draft.scan source) metadata palette : Graph K).groups.map
                (fun group => some group.label) =
              (Draft.scan source).distinctBlocks.map Block.title :=
  ⟨isClean_cleanLabel, fun _ => cleanLabel_eq_self, cleanLabel_cleanLabel, fun metadata palette =>
    ⟨fun draft => ofDraft_cleaned draft metadata palette, fun source =>
      ⟨edgeLabels_scan source metadata palette, groupLabels_scan source metadata palette⟩⟩⟩

end Flowchart
