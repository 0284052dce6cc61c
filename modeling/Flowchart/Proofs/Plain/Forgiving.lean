import Flowchart.Proofs.Distinct
import Flowchart.Proofs.Plain.Connections
import Flowchart.Proofs.Plain.Lines
import Flowchart.Proofs.Plain.Meaning

/-!
Plain diagrams are read forgivingly.

The forgiving reader enters vertices line by line: first the nodes with brackets, then the ends of
the links. An entry counts if it is the first one of its id and the id is not that of a block, and
it belongs to the block that is open then.

Main statement: `scan_text`.
-/

namespace Flowchart.Plain

open Flowchart.Text Flowchart.Scan
open Flowchart.Source (isDeclaration)

/-! ### The entries of a chain -/

/-- The vertex as which a node with brackets is entered. -/
def Mention.declared? (mention : Mention) : Option Vertex :=
  mention.bracket.map fun bracket =>
    ⟨mention.name.id, some (String.ofList bracket.text.text), some bracket.shape.name⟩

/-- The vertices as which the ends of an arc are entered. -/
def arcEnds (arc : Arc) : List Vertex :=
  [⟨arc.source, none, none⟩, ⟨arc.target, none, none⟩]

/-- The vertices that are entered for a chain. -/
def Chain.entries (links : Chain) : List Vertex :=
  links.mentions.filterMap Mention.declared? ++ links.arcs.flatMap arcEnds

/-- The vertex of a node that was found with its brackets. -/
def declaredVertex (declaration : Declaration) : Vertex :=
  ⟨declaration.id, some declaration.text, some declaration.shape.name⟩

/-- The arc of a link that was found. -/
def connectedArc (connection : Connection) : Arc :=
  ⟨connection.source, connection.target, connection.label, connection.stroke.name,
    connection.directed⟩

/-- Without quotes only the blanks around a text are taken away. -/
theorem unquoteOnce_of_notMem {text : List Char} (unquoted : '"' ∉ trim text) :
    unquoteOnce text = String.ofList (trim text) := by
  rw [unquoteOnce]
  split
  · rename_i starts
    exact absurd (starts ▸ List.mem_cons_self) unquoted
  · rfl

theorem unquoteOnce_phrase (phrase : Phrase) :
    unquoteOnce phrase.text = String.ofList phrase.text := by
  have trimmed := trim_of_isTrimmed phrase.isPhrase.isTrimmed
  have unquoted : '"' ∉ phrase.text := phrase.isPhrase.notMem (by decide) (by decide)
  rw [unquoteOnce_of_notMem (trimmed.symm ▸ unquoted), trimmed]

/-- A node with brackets is declared with its text and shape. -/
theorem Mention.declaredVertex_sites (mention : Mention) (position : Nat) :
    (mention.sites position).map (fun site => declaredVertex site.declaration) =
      mention.declared?.toList := by
  obtain ⟨name, bracketed⟩ := mention
  cases bracketed with
  | none => rfl
  | some bracket =>
      have text := unquoteOnce_phrase bracket.text
      simp [Mention.sites, Mention.declared?, declaredVertex, Site.declaration, bracketSurvey,
        Site.found, text]

/-- The targets with brackets are declared in their order. -/
theorem declaredVertex_sitesFrom (position : Nat) (steps : List Step) :
    (sitesFrom position steps).map (fun site => declaredVertex site.declaration) =
      (steps.map Step.target).filterMap Mention.declared? := by
  induction steps generalizing position with
  | nil => rfl
  | cons step steps ih =>
      rw [sitesFrom, List.map_append, step.target.declaredVertex_sites, ih, List.map_cons,
        List.filterMap_cons]
      cases step.target.declared? <;> rfl

/-- The nodes with brackets of a chain, as vertices. -/
theorem Chain.declaredVertex_declarations (links : Chain) :
    (declarations links.chars).map declaredVertex =
      links.mentions.filterMap Mention.declared? := by
  rw [links.declarations_chars, List.map_map, Chain.sites, List.map_append]
  refine (congrArg₂ (· ++ ·) (links.first.declaredVertex_sites 0)
    (declaredVertex_sitesFrom links.first.chars.length links.steps)).trans ?_
  rw [Chain.mentions, List.filterMap_cons]
  cases links.first.declared? <;> rfl

/-- Every step makes its arc. -/
theorem connectedArc_hingesFrom (position : Nat) (source : Mention) (steps : List Step) :
    (hingesFrom position source.name steps).map (fun hinge => connectedArc hinge.connection) =
      arcsFrom source steps := by
  induction steps generalizing position source with
  | nil => rfl
  | cons step steps ih =>
      rw [hingesFrom, List.map_cons, ih, arcsFrom]
      rfl

/-- The links of a chain, as arcs. -/
theorem Chain.connectedArc_connections (links : Chain) :
    (connections links.bare).map connectedArc = links.arcs := by
  rw [links.connections_bare, List.map_map]
  exact connectedArc_hingesFrom 0 links.first links.steps

/-! ### Entering vertices -/

/-- Enter several vertices. -/
def enter (blockIds : List String) (state : Scanning) (vertices : List Vertex) : Scanning :=
  vertices.foldl (register blockIds) state

theorem register_arcs (blockIds : List String) (state : Scanning) (arcs : List Arc)
    (vertex : Vertex) :
    register blockIds { state with arcs := arcs } vertex =
      { register blockIds state vertex with arcs := arcs } := by
  rw [register, register]
  split <;> rfl

/-- Entering a vertex leaves arcs, direction and the open block. -/
theorem register_preserves (blockIds : List String) (state : Scanning) (vertex : Vertex) :
    (register blockIds state vertex).arcs = state.arcs ∧
      (register blockIds state vertex).direction = state.direction ∧
        (register blockIds state vertex).inBlock = state.inBlock := by
  rw [register]
  split <;> exact ⟨rfl, rfl, rfl⟩

theorem enter_arcs (blockIds : List String) (state : Scanning) (arcs : List Arc)
    (vertices : List Vertex) :
    enter blockIds { state with arcs := arcs } vertices =
      { enter blockIds state vertices with arcs := arcs } := by
  induction vertices generalizing state with
  | nil => rfl
  | cons vertex vertices ih =>
      rw [enter, List.foldl_cons, register_arcs]
      exact ih _

theorem arcs_enter (blockIds : List String) (state : Scanning) (vertices : List Vertex) :
    (enter blockIds state vertices).arcs = state.arcs := by
  induction vertices generalizing state with
  | nil => rfl
  | cons vertex vertices ih => exact (ih _).trans (register_preserves blockIds state vertex).1

/-- Links enter their arcs, and the ends of the arcs. -/
theorem foldl_addConnection (blockIds : List String) (state : Scanning)
    (found : List Connection) :
    found.foldl (addConnection blockIds) state =
      { enter blockIds state ((found.map connectedArc).flatMap arcEnds) with
        arcs := state.arcs ++ found.map connectedArc } := by
  induction found generalizing state with
  | nil =>
      rw [List.map_nil, List.append_nil]
      rfl
  | cons connection found ih =>
      have here : addConnection blockIds state connection =
          { enter blockIds state (arcEnds (connectedArc connection)) with
            arcs := state.arcs ++ [connectedArc connection] } :=
        enter_arcs blockIds state (state.arcs ++ [connectedArc connection])
          (arcEnds (connectedArc connection))
      rw [List.foldl_cons, here, ih, enter_arcs, List.map_cons, List.flatMap_cons,
        List.append_assoc]
      simp only [enter, List.foldl_append]
      rfl

/-- The effect of a line of nodes and links: the nodes with brackets are entered, then the ends of
the links. -/
theorem scanBody_eq (blockIds : List String) (state : Scanning) (line : List Char) :
    scanBody blockIds state line =
      { enter blockIds state ((declarations line).map declaredVertex ++
          ((connections (collapse 0 line (declarations line))).map connectedArc).flatMap
            arcEnds) with
        arcs := state.arcs ++
          (connections (collapse 0 line (declarations line))).map connectedArc } := by
  have declared : (declarations line).foldl (fun state declaration =>
      register blockIds state (declaredVertex declaration)) state =
        enter blockIds state ((declarations line).map declaredVertex) := by
    rw [enter, List.foldl_map]
  have connected := foldl_addConnection blockIds
    (enter blockIds state ((declarations line).map declaredVertex))
    (connections (collapse 0 line (declarations line)))
  have split : ∀ earlier later, enter blockIds state (earlier ++ later) =
      enter blockIds (enter blockIds state earlier) later := fun _ _ => List.foldl_append
  rw [arcs_enter, ← declared] at connected
  rw [split, ← declared, ← connected]
  rfl

/-- The effect of a chain. -/
theorem Chain.scanBody_chars (links : Chain) (blockIds : List String) (state : Scanning) :
    scanBody blockIds state links.chars =
      { enter blockIds state links.entries with arcs := state.arcs ++ links.arcs } := by
  rw [scanBody_eq, links.collapse_chars, links.connectedArc_connections,
    links.declaredVertex_declarations]
  rfl

/-- The line of a chain enters its nodes and adds its arcs. -/
theorem Chain.scanLine_chars (links : Chain) (blockIds : List String) (state : Scanning) :
    scanLine blockIds state links.chars =
      { enter blockIds state links.entries with arcs := state.arcs ++ links.arcs } := by
  have body := links.isContent_chars
  rw [scanLine, links.isLine.isSilent, body.undeclared, body.unopened, body.unclosed]
  exact links.scanBody_chars blockIds state

/-! ### What has been found -/

/-- A vertex that is entered, with the number of the block that is open. -/
abbrev Entry := Option Nat × Vertex

/-- The entries that count: the first one of each id, unless it is the id of a block. -/
def kept (blockIds : List String) (entries : List Entry) : List Entry :=
  firstByKey (fun entry => entry.2.id) blockIds entries

/-- The members of the block of a number: the ids that were entered in it and count. -/
def keptIn (blockIds : List String) (entries : List Entry) (number : Nat) : List String :=
  ((kept blockIds entries).filter fun entry => entry.1 == some number).map fun entry => entry.2.id

/-- The block of a number. -/
def foundBlock (blockIds : List String) (entries : List Entry) (number : Nat)
    (opening : Name × Option Phrase) : Block :=
  { openedBlock opening with members := keptIn blockIds entries number }

/-- What the lines up to some point have given: the direction, the blocks that were opened, the
number of the one that is open, and what has been entered. -/
structure History where
  direction : Option String
  openings : List (Name × Option Phrase)
  place : Option Nat
  entries : List Entry
  arcs : List Arc

/-- A state holds what a history has given. -/
structure Found (blockIds : List String) (history : History) (state : Scanning) : Prop where
  direction : state.direction = history.direction
  vertices : state.vertices = (kept blockIds history.entries).map Prod.snd
  arcs : state.arcs = history.arcs
  blocks : state.blocks = history.openings.mapIdx (foundBlock blockIds history.entries)
  inBlock : state.inBlock = history.place.isSome
  /-- The block that is open is the last one. -/
  last : ∀ number ∈ history.place, number + 1 = history.openings.length
  /-- Vertices are entered only in blocks that have been opened. -/
  bounded : ∀ entry ∈ history.entries, ∀ number ∈ entry.1, number < history.openings.length

theorem addToLast_append (id : String) (blocks : List Block) (block : Block) :
    addToLast id (blocks ++ [block]) =
      blocks ++ [{ block with members := block.members ++ [id] }] := by
  induction blocks with
  | nil => rfl
  | cons first blocks ih =>
      cases blocks with
      | nil => rfl
      | cons second blocks => exact congrArg (first :: ·) ih

/-- An entry that does not count changes nothing. -/
theorem kept_of_known {blockIds : List String} {entries : List Entry} {place : Option Nat}
    {vertex : Vertex}
    (known : vertex.id ∈ blockIds ∨ vertex.id ∈ entries.map fun entry => entry.2.id) :
    kept blockIds (entries ++ [(place, vertex)]) = kept blockIds entries :=
  firstByKey_append_of_known known

/-- A new entry counts if its id is that of no block. -/
theorem kept_of_new {blockIds : List String} {entries : List Entry} {place : Option Nat}
    {vertex : Vertex} (foreign : vertex.id ∉ blockIds)
    (absent : vertex.id ∉ entries.map fun entry => entry.2.id) :
    kept blockIds (entries ++ [(place, vertex)]) = kept blockIds entries ++ [(place, vertex)] :=
  firstByKey_append_of_new foreign absent

/-- An entry that counts becomes a member of the block that is open. -/
theorem keptIn_of_new {blockIds : List String} {entries : List Entry} {place : Option Nat}
    {vertex : Vertex} (foreign : vertex.id ∉ blockIds)
    (absent : vertex.id ∉ entries.map fun entry => entry.2.id) (number : Nat) :
    keptIn blockIds (entries ++ [(place, vertex)]) number =
      keptIn blockIds entries number ++ if place = some number then [vertex.id] else [] := by
  rw [keptIn, kept_of_new foreign absent, List.filter_append, List.map_append, keptIn]
  by_cases here : place = some number <;> simp [here]

namespace Found

variable {blockIds : List String} {history : History} {state : Scanning}

/-- A vertex is known when its id is that of a block or has been entered. -/
theorem known_iff (found : Found blockIds history state) (id : String) :
    ((state.vertices.any fun known => known.id == id) || blockIds.contains id) = true ↔
      id ∈ blockIds ∨ id ∈ history.entries.map fun entry => entry.2.id := by
  have listed : (state.vertices.any fun known => known.id == id) = true ↔
      id ∈ (kept blockIds history.entries).map fun entry => entry.2.id := by
    rw [found.vertices, List.any_map, List.any_eq_true, List.mem_map]
    simp
  rw [Bool.or_eq_true, listed, kept, mem_map_firstByKey, List.contains_iff_mem]
  by_cases block : id ∈ blockIds <;> simp [block]

/-- The blocks after entering a vertex that counts. -/
theorem blocks_of_new (found : Found blockIds history state) {vertex : Vertex}
    (foreign : vertex.id ∉ blockIds)
    (absent : vertex.id ∉ history.entries.map fun entry => entry.2.id) :
    (if state.inBlock then addToLast vertex.id state.blocks else state.blocks) =
      history.openings.mapIdx
        (foundBlock blockIds (history.entries ++ [(history.place, vertex)])) := by
  have block : ∀ number opening,
      foundBlock blockIds (history.entries ++ [(history.place, vertex)]) number opening =
        { openedBlock opening with
          members := keptIn blockIds history.entries number ++
            if history.place = some number then [vertex.id] else [] } := by
    intro number opening
    rw [foundBlock, keptIn_of_new foreign absent]
  have elsewhere : ∀ number opening, history.place ≠ some number →
      foundBlock blockIds history.entries number opening =
        foundBlock blockIds (history.entries ++ [(history.place, vertex)]) number opening := by
    intro number opening other
    rw [block, if_neg other, List.append_nil]
    rfl
  rw [found.blocks, found.inBlock]
  cases place : history.place with
  | none =>
      rw [place] at elsewhere
      exact List.mapIdx_eq_mapIdx_iff.mpr fun number _ => elsewhere number _ (by simp)
  | some number =>
      have last := found.last number place
      rw [place] at block elsewhere
      obtain empty | ⟨front, opening, split⟩ := List.eq_nil_or_concat history.openings
      · rw [empty] at last
        cases last
      · rw [List.concat_eq_append] at split
        have length : front.length = number := by
          rw [split, List.length_append, List.length_singleton] at last
          omega
        have earlier : front.mapIdx (foundBlock blockIds history.entries) =
            front.mapIdx (foundBlock blockIds (history.entries ++ [(some number, vertex)])) := by
          refine List.mapIdx_eq_mapIdx_iff.mpr fun other inside => elsewhere other _ ?_
          intro same
          rw [Option.some.inj same] at length
          omega
        rw [split, List.mapIdx_concat, List.mapIdx_concat, Option.isSome_some, if_pos rfl,
          addToLast_append, earlier, length, block, if_pos rfl]
        rfl

/-- Entering a vertex. -/
theorem register (found : Found blockIds history state) (vertex : Vertex) :
    Found blockIds { history with entries := history.entries ++ [(history.place, vertex)] }
      (Scan.register blockIds state vertex) := by
  have bounded : ∀ entry ∈ history.entries ++ [(history.place, vertex)],
      ∀ number ∈ entry.1, number < history.openings.length := by
    intro entry member number inside
    rcases List.mem_append.mp member with old | isNew
    · exact found.bounded entry old number inside
    · rw [List.mem_singleton.mp isNew] at inside
      have last := found.last number inside
      omega
  rw [Scan.register]
  by_cases known : vertex.id ∈ blockIds ∨ vertex.id ∈ history.entries.map fun entry => entry.2.id
  · have same : kept blockIds (history.entries ++ [(history.place, vertex)]) =
        kept blockIds history.entries := kept_of_known known
    rw [if_pos ((found.known_iff vertex.id).mpr known)]
    refine ⟨found.direction, ?_, found.arcs, ?_, found.inBlock, found.last, bounded⟩
    · rw [found.vertices, same]
    · have blocks : foundBlock blockIds (history.entries ++ [(history.place, vertex)]) =
          foundBlock blockIds history.entries := by
        funext number opening
        rw [foundBlock, foundBlock, keptIn, same, keptIn]
      rw [found.blocks, blocks]
  · have unknown := known
    rw [not_or] at unknown
    obtain ⟨foreign, absent⟩ := unknown
    rw [if_neg (fun taken => known ((found.known_iff vertex.id).mp taken))]
    refine ⟨found.direction, ?_, found.arcs, ?_, found.inBlock, found.last, bounded⟩
    · rw [kept_of_new foreign absent, List.map_append, found.vertices]
      rfl
    · exact found.blocks_of_new foreign absent

/-- Entering several vertices. -/
theorem enter (found : Found blockIds history state) (vertices : List Vertex) :
    Found blockIds
      { history with
        entries := history.entries ++ vertices.map fun vertex => (history.place, vertex) }
      (Plain.enter blockIds state vertices) := by
  induction vertices generalizing history state with
  | nil =>
      rw [List.map_nil, List.append_nil]
      exact found
  | cons vertex vertices ih =>
      have rest := ih (found.register vertex)
      rw [List.append_assoc] at rest
      exact rest

end Found

/-! ### Lines -/

/-- A history after a chain. -/
def History.addChain (history : History) (links : Chain) : History :=
  { history with
    entries := history.entries ++ links.entries.map fun vertex => (history.place, vertex)
    arcs := history.arcs ++ links.arcs }

/-- A history after the line that opens a block. -/
def History.openBlock (history : History) (name : Name) (title : Option Phrase) : History :=
  { history with
    openings := history.openings ++ [(name, title)]
    place := some history.openings.length }

/-- A history after the line that closes a block. -/
def History.closeBlock (history : History) : History :=
  { history with place := none }

/-- A history after several chains. -/
def History.addChains (history : History) (chains : List Chain) : History :=
  { history with
    entries := history.entries ++
      (chains.flatMap Chain.entries).map fun vertex => (history.place, vertex)
    arcs := history.arcs ++ chains.flatMap Chain.arcs }

namespace Found

variable {blockIds : List String} {history : History} {state : Scanning}

/-- What has been found stays right over a chain. -/
theorem chain (found : Found blockIds history state) (links : Chain) :
    Found blockIds (history.addChain links) (scanLine blockIds state links.chars) := by
  have entered := found.enter links.entries
  rw [links.scanLine_chars]
  exact ⟨entered.direction, entered.vertices, congrArg (· ++ links.arcs) found.arcs, entered.blocks,
    entered.inBlock, entered.last, entered.bounded⟩

theorem chains (found : Found blockIds history state) (chains : List Chain) :
    Found blockIds (history.addChains chains)
      ((chains.map Chain.chars).foldl (scanLine blockIds) state) := by
  induction chains generalizing history state with
  | nil =>
      rw [History.addChains]
      simpa using found
  | cons links chains ih =>
      have rest := ih (found.chain links)
      have same : (history.addChain links).addChains chains =
          history.addChains (links :: chains) := by
        simp [History.addChain, History.addChains]
      rw [same] at rest
      exact rest

/-- A block is opened. -/
theorem openBlock (found : Found blockIds history state) (name : Name) (title : Option Phrase) :
    Found blockIds (history.openBlock name title)
      (scanLine blockIds state (openingLine name title)) := by
  have fresh : keptIn blockIds history.entries history.openings.length = [] := by
    rw [keptIn, List.map_eq_nil_iff, List.filter_eq_nil_iff]
    intro entry member here
    have entered := List.mem_of_find?_eq_some (mem_firstByKey.mp member).1
    have bound := found.bounded entry entered history.openings.length (by simpa using here)
    exact Nat.lt_irrefl _ bound
  have opened : scanLine blockIds state (openingLine name title) =
      { state with blocks := state.blocks ++ [openedBlock (name, title)], inBlock := true } := by
    rw [scanLine, (isLine_openingLine name title).isSilent, isDeclaration_openingLine,
      blockOfLine?_openingLine]
    rfl
  rw [opened]
  refine ⟨found.direction, found.vertices, found.arcs, ?_, rfl, ?_, ?_⟩
  · rw [History.openBlock, List.mapIdx_concat, ← found.blocks, foundBlock, fresh]
    rfl
  · intro number same
    rw [History.openBlock, List.length_append, List.length_singleton, Option.some.inj same]
  · intro entry member number inside
    have bound := found.bounded entry member number inside
    rw [History.openBlock, List.length_append, List.length_singleton]
    omega

/-- A block is closed. -/
theorem closeBlock (found : Found blockIds history state) :
    Found blockIds history.closeBlock (scanLine blockIds state "end".toList) := by
  have closed : scanLine blockIds state "end".toList = { state with inBlock := false } := by
    rw [scanLine, isLine_end.isSilent, isDeclaration_end, blockOfLine?_end, closesBlock_end]
    rfl
  rw [closed]
  exact ⟨found.direction, found.vertices, found.arcs, found.blocks, rfl,
    by simp [History.closeBlock], found.bounded⟩

end Found

/-! ### Items -/

/-- The entries of items, whose blocks are counted from a given number. -/
def entriesFrom : Nat → List Item → List Entry
  | _, [] => []
  | number, .chain links :: items =>
    links.entries.map (fun vertex => (none, vertex)) ++ entriesFrom number items
  | number, .block _ _ chains :: items =>
    (chains.flatMap Chain.entries).map (fun vertex => (some number, vertex)) ++
      entriesFrom (number + 1) items

/-- A history outside all blocks after several items. -/
def History.addItems (history : History) (items : List Item) : History :=
  { history with
    openings := history.openings ++ items.filterMap Item.opening?
    place := none
    entries := history.entries ++ entriesFrom history.openings.length items
    arcs := history.arcs ++ arcsOf items }

/-- What has been found stays right over items, inside of blocks and outside. -/
theorem Found.items {blockIds : List String} {history : History} {state : Scanning}
    (found : Found blockIds history state) (outside : history.place = none) (items : List Item) :
    Found blockIds (history.addItems items)
      ((items.flatMap Item.lines).foldl (scanLine blockIds) state) := by
  induction items generalizing history state with
  | nil =>
      have same : history.addItems [] = history := by
        obtain ⟨direction, openings, place, entries, arcs⟩ := history
        cases outside
        simp [History.addItems, entriesFrom, arcsOf]
      rw [same]
      exact found
  | cons item items ih =>
      rw [List.flatMap_cons, List.foldl_append]
      cases item with
      | chain links =>
          have rest := ih (found.chain links) outside
          have same : (history.addChain links).addItems items =
              history.addItems (.chain links :: items) := by
            simp [History.addChain, History.addItems, entriesFrom, arcsOf, List.filterMap_cons,
              Item.opening?, Item.chains, outside]
          rw [same] at rest
          exact rest
      | block name title chains =>
          have rest := ih ((found.openBlock name title).chains chains).closeBlock rfl
          have same : ((history.openBlock name title).addChains chains).closeBlock.addItems items =
              history.addItems (.block name title chains :: items) := by
            simp [History.openBlock, History.addChains, History.closeBlock, History.addItems,
              entriesFrom, arcsOf, Item.opening?, Item.chains]
          have lines : (Item.block name title chains).lines.foldl (scanLine blockIds) state =
              scanLine blockIds ((chains.map Chain.chars).foldl (scanLine blockIds)
                (scanLine blockIds state (openingLine name title))) "end".toList := by
            rw [Item.lines, List.foldl_cons, List.foldl_append]
            rfl
          rw [same] at rest
          rw [lines]
          exact rest

/-! ### The draft -/

/-- The entries of a diagram. -/
def Diagram.entries (diagram : Diagram) : List Entry :=
  entriesFrom 0 diagram.items

/-- The draft of a plain diagram, as the forgiving reader finds it. -/
def Diagram.scanDraft (diagram : Diagram) : Draft where
  direction := some diagram.direction
  vertices := (kept diagram.blockIds diagram.entries).map Prod.snd
  arcs := arcsOf diagram.items
  blocks := diagram.openings.mapIdx (foundBlock diagram.blockIds diagram.entries)

/-- The forgiving reader finds the draft of a plain diagram. -/
theorem scan_text (diagram : Diagram) : Draft.scan diagram.text = diagram.scanDraft := by
  have cleaned : Source.cleanChars diagram.text.toList = diagram.text.toList := by
    have clean := congrArg String.toList (clean_text diagram)
    rwa [Source.clean, String.toList_ofList] at clean
  have start : Found diagram.blockIds ⟨some diagram.direction, [], none, [], []⟩
      { direction := some diagram.direction } :=
    ⟨rfl, rfl, rfl, rfl, rfl, by simp, by simp⟩
  have found := start.items rfl diagram.items
  have declared : scanLine diagram.blockIds {} diagram.declaration =
      { direction := some diagram.direction } := by
    rw [scanLine, diagram.isLine_declaration.isSilent, diagram.declared.1, diagram.declared.2.1]
    rfl
  have state : scanLines diagram.lines =
      (diagram.items.flatMap Item.lines).foldl (scanLine diagram.blockIds)
        { direction := some diagram.direction } := by
    have lines : diagram.lines = diagram.declaration :: diagram.items.flatMap Item.lines := rfl
    rw [scanLines, blockIds_lines, lines, List.foldl_cons, declared]
  rw [Draft.scan, cleaned, trimmedLines_text, state]
  simp only [found.direction, found.vertices, found.arcs, found.blocks]
  simp [Diagram.scanDraft, History.addItems, Diagram.entries, Diagram.openings]

end Flowchart.Plain
