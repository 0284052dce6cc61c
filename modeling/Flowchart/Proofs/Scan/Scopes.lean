import Flowchart.Proofs.Graph.Attached
import Flowchart.Proofs.Scan.Lines

/-!
Scopes of vertices that are found forgivingly.

A vertex is entered once, under an id that no block has, and into the block that is open then. This
holds after every line, whatever the lines look like, so that in the end each vertex lies in at
most one block, namely the one that was open when its id was first registered.

Main definitions: `Draft.Scoped`, `FirstRegistered`. Main statement: `scan_scoped`.
-/

namespace Flowchart

open Flowchart.Source (Metadata)

/-- A draft with distinct vertices, each of them listed by at most one block. -/
structure Draft.Scoped (draft : Draft) : Prop where
  distinct : (draft.vertices.map Vertex.id).Nodup
  named : ∀ vertex ∈ draft.vertices, vertex.id ≠ ""
  /-- No vertex shares its id with a block. -/
  foreign : ∀ vertex ∈ draft.vertices, vertex.id ∉ draft.blockIds
  attached : draft.Attached
  /-- Blocks list vertices. -/
  members : ∀ block ∈ draft.blocks, ∀ id ∈ block.members, id ∈ draft.vertices.map Vertex.id
  /-- Over all blocks together no id is listed twice. -/
  once : (draft.blocks.flatMap Block.members).Nodup

namespace Scan

open Flowchart.Plain (addToLast_append enter)

/-- An id is first registered by one of several lines, where the block with the given id is open,
or none. -/
def FirstRegistered (lines : List (List Char)) (id : String) (scope : Option String) : Prop :=
  ∃ before line after, lines = before ++ line :: after ∧ id ∈ registered line ∧
    (∀ earlier ∈ before, id ∉ registered earlier) ∧ scope = (openBlock? before).map Block.id

/-! ### Blocks and their members -/

/-- The id of the first block that lists an id. -/
def homeIn (blocks : List Block) (id : String) : Option String :=
  (blocks.find? fun block => block.members.contains id).map Block.id

/-- The id of the block that is open. -/
def Scanning.scope? (state : Scanning) : Option String :=
  if state.inBlock then (state.blocks.map Block.id).getLast? else none

/-- The blocks after an id has been entered into the one that is open. -/
def Scanning.blocksWith (state : Scanning) (id : String) : List Block :=
  if state.inBlock then addToLast id state.blocks else state.blocks

section Blocks

variable {blocks : List Block} {id : String}

/-- What is a member of no block has no home. -/
theorem homeIn_eq_none (absent : id ∉ blocks.flatMap Block.members) : homeIn blocks id = none := by
  rw [homeIn, Option.map_eq_none_iff, List.find?_eq_none]
  intro block member listed
  exact absent (List.mem_flatMap_of_mem member (List.contains_iff_mem.mp listed))

/-- The first block with the id among its members is its home. -/
theorem homeIn_append (front back : List Block) (id : String) :
    homeIn (front ++ back) id = (homeIn front id).or (homeIn back id) := by
  rw [homeIn, homeIn, homeIn, List.find?_append]
  cases front.find? fun block => block.members.contains id <;> rfl

theorem homeIn_singleton (block : Block) (id : String) :
    homeIn [block] id = if id ∈ block.members then some block.id else none := by
  by_cases listed : id ∈ block.members <;> simp [homeIn, listed]

/-- Either no block is open and the blocks stay as they are, or the last one is open and lists the
id as well. -/
theorem Scanning.blocksWith_cases (state : Scanning) (id : String) :
    state.scope? = none ∧ state.blocksWith id = state.blocks ∨
      ∃ front last, state.blocks = front ++ [last] ∧ state.scope? = some last.id ∧
        state.blocksWith id = front ++ [{ last with members := last.members ++ [id] }] := by
  rw [Scanning.blocksWith, Scanning.scope?]
  cases state.inBlock with
  | false => exact .inl ⟨rfl, rfl⟩
  | true =>
      obtain none | ⟨front, last, split⟩ := List.eq_nil_or_concat state.blocks
      · exact .inl (by simp [none, addToLast])
      · rw [List.concat_eq_append] at split
        exact .inr ⟨front, last, split, by simp [split], by simp [split, addToLast_append]⟩

/-- Entering an id into the open block changes the home of this id only. -/
theorem homeIn_blocksWith {state : Scanning} (absent : id ∉ state.blocks.flatMap Block.members)
    (other : String) :
    homeIn (state.blocksWith id) other =
      if other = id then state.scope? else homeIn state.blocks other := by
  rcases state.blocksWith_cases id with ⟨closed, same⟩ | ⟨front, last, split, opened, listing⟩
  · rw [closed, same]
    split
    case isTrue isId => rw [isId, homeIn_eq_none absent]
    case isFalse => rfl
  · rw [split] at absent
    rw [listing, opened, split, homeIn_append, homeIn_append, homeIn_singleton, homeIn_singleton]
    by_cases isId : other = id
    · have elsewhere : homeIn front id = none :=
        homeIn_eq_none fun listed => absent (by
          rw [List.flatMap_append]
          exact List.mem_append_left _ listed)
      simp [isId, elsewhere]
    · simp [isId]

theorem members_blocksWith (state : Scanning) (id : String) :
    (state.blocksWith id).flatMap Block.members =
      state.blocks.flatMap Block.members ++ if state.scope?.isSome then [id] else [] := by
  rcases state.blocksWith_cases id with ⟨closed, same⟩ | ⟨front, last, split, opened, listing⟩
  · simp [closed, same]
  · simp [listing, split, opened]

theorem map_id_blocksWith (state : Scanning) (id : String) :
    (state.blocksWith id).map Block.id = state.blocks.map Block.id := by
  rcases state.blocksWith_cases id with ⟨-, same⟩ | ⟨front, last, split, -, listing⟩
  · rw [same]
  · simp [listing, split]

end Blocks

/-! ### Entering vertices -/

/-- An id is known when it is that of a vertex or of a block. -/
def Scanning.Knows (state : Scanning) (blockIds : List String) (id : String) : Prop :=
  id ∈ state.vertices.map Vertex.id ∨ id ∈ blockIds

/-- A state holds vertices with homes, where `origin` says which home an id may have. -/
structure Sound (blockIds : List String) (origin : String → Option String → Prop)
    (state : Scanning) : Prop where
  distinct : (state.vertices.map Vertex.id).Nodup
  named : ∀ vertex ∈ state.vertices, vertex.id ≠ ""
  foreign : ∀ vertex ∈ state.vertices, vertex.id ∉ blockIds
  listed : ∀ id ∈ state.blocks.flatMap Block.members, id ∈ state.vertices.map Vertex.id
  once : (state.blocks.flatMap Block.members).Nodup
  placed : ∀ vertex ∈ state.vertices, origin vertex.id (homeIn state.blocks vertex.id)

/-- What entering vertices leaves as it is. -/
structure Extends (blockIds : List String) (state next : Scanning) : Prop where
  blocks : next.blocks.map Block.id = state.blocks.map Block.id
  scope : next.scope? = state.scope?
  knows : ∀ id, state.Knows blockIds id → next.Knows blockIds id

section Entering

variable {blockIds : List String} {origin : String → Option String → Prop}
  {state next : Scanning} {vertex : Vertex}

/-- A vertex is passed over if its id is known as that of a vertex or of a block. -/
theorem known_iff :
    ((state.vertices.any fun known => known.id == vertex.id) ||
      blockIds.contains vertex.id) = true ↔ state.Knows blockIds vertex.id := by
  simp [Scanning.Knows]

theorem register_of_known (known : state.Knows blockIds vertex.id) :
    register blockIds state vertex = state := by
  rw [register, if_pos (known_iff.mpr known)]

/-- A new vertex is put behind the others, and among the members of the open block. -/
theorem register_of_new (new : ¬ state.Knows blockIds vertex.id) :
    register blockIds state vertex =
      { state with
        vertices := state.vertices ++ [vertex]
        blocks := state.blocksWith vertex.id } := by
  rw [register, if_neg (fun known => new (known_iff.mp known))]
  rfl

/-- An id is known once it has been entered. -/
theorem register_knows (blockIds : List String) (state : Scanning) (vertex : Vertex) :
    (register blockIds state vertex).Knows blockIds vertex.id := by
  by_cases known : state.Knows blockIds vertex.id
  · rw [register_of_known known]
    exact known
  · rw [register_of_new known]
    exact Or.inl (by simp)

/-- Entering a vertex keeps the blocks, the open one, and the ids that are known. -/
theorem register_extends (blockIds : List String) (state : Scanning) (vertex : Vertex) :
    Extends blockIds state (register blockIds state vertex) := by
  by_cases known : state.Knows blockIds vertex.id
  · rw [register_of_known known]
    exact ⟨rfl, rfl, fun _ => id⟩
  · rw [register_of_new known]
    have blocks := map_id_blocksWith state vertex.id
    refine ⟨blocks, by rw [Scanning.scope?, blocks, Scanning.scope?], ?_⟩
    rintro id (isVertex | isBlock)
    · exact Or.inl (by
        rw [List.map_append]
        exact List.mem_append_left _ isVertex)
    · exact Or.inr isBlock

/-- Several vertices are known once they have been entered. -/
theorem enter_extends (blockIds : List String) (state : Scanning) (vertices : List Vertex) :
    Extends blockIds state (enter blockIds state vertices) ∧
      ∀ vertex ∈ vertices, (enter blockIds state vertices).Knows blockIds vertex.id := by
  induction vertices generalizing state with
  | nil => exact ⟨⟨rfl, rfl, fun _ => id⟩, by simp⟩
  | cons first vertices ih =>
      have here := register_extends blockIds state first
      obtain ⟨rest, entered⟩ := ih (register blockIds state first)
      refine ⟨⟨rest.blocks.trans here.blocks, rest.scope.trans here.scope,
        fun id known => rest.knows id (here.knows id known)⟩, ?_⟩
      intro vertex member
      rcases List.mem_cons.mp member with rfl | later
      · exact rest.knows _ (register_knows blockIds state vertex)
      · exact entered vertex later

/-- A vertex that is new gets the open block for its home. -/
theorem Sound.register (sound : Sound blockIds origin state) (named : vertex.id ≠ "")
    (first : ¬ state.Knows blockIds vertex.id → origin vertex.id state.scope?) :
    Sound blockIds origin (Scan.register blockIds state vertex) := by
  by_cases known : state.Knows blockIds vertex.id
  · rw [register_of_known known]
    exact sound
  · have placed := first known
    obtain ⟨absent, foreign⟩ := not_or.mp known
    have unlisted : vertex.id ∉ state.blocks.flatMap Block.members :=
      fun listed => absent (sound.listed vertex.id listed)
    rw [register_of_new known]
    constructor
    case distinct =>
      rw [List.map_append, List.map_singleton, ← List.concat_eq_append]
      exact sound.distinct.concat absent
    case named =>
      exact List.forall_mem_append.mpr ⟨sound.named, List.forall_mem_singleton.mpr named⟩
    case foreign =>
      exact List.forall_mem_append.mpr ⟨sound.foreign, List.forall_mem_singleton.mpr foreign⟩
    case listed =>
      rw [members_blocksWith, List.map_append]
      refine List.forall_mem_append.mpr
        ⟨fun id old => List.mem_append_left _ (sound.listed id old), fun id isNew => ?_⟩
      split at isNew
      · exact List.mem_append_right _ isNew
      · cases isNew
    case once =>
      rw [members_blocksWith]
      split
      · rw [← List.concat_eq_append]
        exact sound.once.concat unlisted
      · rw [List.append_nil]
        exact sound.once
    case placed =>
      refine List.forall_mem_append.mpr ⟨fun other old => ?_, List.forall_mem_singleton.mpr ?_⟩
      · have differs : other.id ≠ vertex.id :=
          fun same => absent (same ▸ List.mem_map_of_mem old)
        rw [homeIn_blocksWith unlisted, if_neg differs]
        exact sound.placed other old
      · rw [homeIn_blocksWith unlisted, if_pos rfl]
        exact placed

/-- Entering vertices keeps a state sound, if new ones come from the scope that is open. -/
theorem Sound.enter (sound : Sound blockIds origin state) {vertices : List Vertex}
    (named : ∀ vertex ∈ vertices, vertex.id ≠ "")
    (first : ∀ vertex ∈ vertices, ¬ state.Knows blockIds vertex.id →
      origin vertex.id state.scope?) :
    Sound blockIds origin (Plain.enter blockIds state vertices) := by
  induction vertices generalizing state with
  | nil => exact sound
  | cons vertex vertices ih =>
      have here := sound.register (named vertex (by simp)) (first vertex (by simp))
      have frame := register_extends blockIds state vertex
      apply ih here fun other member => named other (List.mem_cons_of_mem vertex member)
      intro other member new
      rw [frame.scope]
      exact first other (List.mem_cons_of_mem vertex member) fun known => new (frame.knows _ known)

theorem Sound.mono {wider : String → Option String → Prop} (sound : Sound blockIds origin state)
    (implies : ∀ id scope, origin id scope → wider id scope) : Sound blockIds wider state :=
  ⟨sound.distinct, sound.named, sound.foreign, sound.listed, sound.once,
    fun vertex member => implies _ _ (sound.placed vertex member)⟩

end Entering

/-! ### Lines -/

/-- What holds of the state after lines. -/
structure AfterLines (blockIds : List String) (before : List (List Char)) (state : Scanning) :
    Prop where
  sound : Sound blockIds (FirstRegistered before) state
  known : ∀ line ∈ before, ∀ id ∈ registered line, state.Knows blockIds id
  sources : ∀ arc ∈ state.arcs, state.Knows blockIds arc.source
  targets : ∀ arc ∈ state.arcs, state.Knows blockIds arc.target
  blocks : state.blocks.map Block.id = (before.filterMap blockOfLine?).map Block.id
  scope : state.scope? = (openBlock? before).map Block.id

/-- Where an id is registered first does not change with later lines. -/
theorem FirstRegistered.append {before : List (List Char)} {id : String} {scope : Option String}
    (first : FirstRegistered before id scope) (line : List Char) :
    FirstRegistered (before ++ [line]) id scope := by
  obtain ⟨earlier, here, later, rfl, rest⟩ := first
  exact ⟨earlier, here, later ++ [line], by simp, rest⟩

namespace AfterLines

variable {blockIds : List String} {before : List (List Char)} {state : Scanning}

theorem nil (blockIds : List String) : AfterLines blockIds [] {} where
  sound := ⟨by simp, by simp, by simp, by simp, by simp, by simp⟩
  known := by simp
  sources := by simp
  targets := by simp
  blocks := rfl
  scope := rfl

/-- Ids stay known, and those that the line registers are known after it. -/
theorem known_append (after : AfterLines blockIds before state) {line : List Char}
    {next : Scanning} (grows : ∀ id, state.Knows blockIds id → next.Knows blockIds id)
    (here : ∀ id ∈ registered line, next.Knows blockIds id) :
    ∀ other ∈ before ++ [line], ∀ id ∈ registered other, next.Knows blockIds id := by
  intro other member id isRegistered
  rcases List.mem_append.mp member with earlier | isLast
  · exact grows id (after.known other earlier id isRegistered)
  · exact here id (List.mem_singleton.mp isLast ▸ isRegistered)

/-- The blocks that lines open, with one more line. -/
theorem blocks_append (after : AfterLines blockIds before state) (line : List Char) :
    ((before ++ [line]).filterMap blockOfLine?).map Block.id =
      state.blocks.map Block.id ++ (boundary? line).join.toList.map Block.id := by
  rw [join_boundary?, List.filterMap_append, List.map_append, after.blocks]
  cases opened : blockOfLine? line <;> simp [opened]

/-- A line that registers nothing and leaves the members of the blocks alone. -/
theorem append_unregistered (after : AfterLines blockIds before state) {line : List Char}
    {next : Scanning} (registers : registered line = [])
    (vertices : next.vertices = state.vertices) (arcs : next.arcs = state.arcs)
    (members : next.blocks.flatMap Block.members = state.blocks.flatMap Block.members)
    (homes : ∀ id, homeIn next.blocks id = homeIn state.blocks id)
    (blocks : next.blocks.map Block.id =
      state.blocks.map Block.id ++ (boundary? line).join.toList.map Block.id)
    (scope : next.scope? = ((boundary? line).getD (openBlock? before)).map Block.id) :
    AfterLines blockIds (before ++ [line]) next := by
  have grows : ∀ id, state.Knows blockIds id → next.Knows blockIds id := by
    intro id known
    rwa [Scanning.Knows, vertices]
  have sound := after.sound
  constructor
  case sound =>
    constructor
    case distinct =>
      rw [vertices]
      exact sound.distinct
    case named =>
      rw [vertices]
      exact sound.named
    case foreign =>
      rw [vertices]
      exact sound.foreign
    case listed =>
      rw [members, vertices]
      exact sound.listed
    case once =>
      rw [members]
      exact sound.once
    case placed =>
      rw [vertices]
      intro vertex member
      rw [homes]
      exact (sound.placed vertex member).append line
  case known => exact after.known_append grows (by simp [registers])
  case sources =>
    rw [arcs]
    exact fun arc member => grows _ (after.sources arc member)
  case targets =>
    rw [arcs]
    exact fun arc member => grows _ (after.targets arc member)
  case blocks => rw [blocks, after.blocks_append]
  case scope => rw [scope, openBlock?_append]

/-- A line of nodes and links. -/
theorem append_body (after : AfterLines blockIds before state) {line : List Char}
    (registers : registered line = (bodyVertices line).map Vertex.id)
    (inside : boundary? line = none) :
    AfterLines blockIds (before ++ [line])
      { enter blockIds state (bodyVertices line) with arcs := state.arcs ++ bodyArcs line } := by
  obtain ⟨frame, entered⟩ := enter_extends blockIds state (bodyVertices line)
  have known : ∀ id ∈ (bodyVertices line).map Vertex.id,
      (enter blockIds state (bodyVertices line)).Knows blockIds id := by
    intro id member
    obtain ⟨vertex, isEntered, rfl⟩ := List.mem_map.mp member
    exact entered vertex isEntered
  -- A vertex that is new here cannot have been registered by an earlier line.
  have first : ∀ vertex ∈ bodyVertices line, ¬ state.Knows blockIds vertex.id →
      FirstRegistered (before ++ [line]) vertex.id state.scope? := by
    intro vertex member new
    refine ⟨before, line, [], rfl, ?_, ?_, after.scope⟩
    · rw [registers]
      exact List.mem_map_of_mem member
    · exact fun earlier old isRegistered =>
        new (after.known earlier old vertex.id isRegistered)
  have older : Sound blockIds (FirstRegistered (before ++ [line])) state :=
    after.sound.mono fun _ _ first => first.append line
  have sound := older.enter (fun vertex => named_of_mem_bodyVertices) first
  constructor
  case sound =>
    exact ⟨sound.distinct, sound.named, sound.foreign, sound.listed, sound.once, sound.placed⟩
  case known => exact after.known_append frame.knows (by rw [registers]; exact known)
  case sources =>
    intro arc member
    rcases List.mem_append.mp member with old | new
    · exact frame.knows _ (after.sources arc old)
    · exact known _ (mem_bodyVertices new).1
  case targets =>
    intro arc member
    rcases List.mem_append.mp member with old | new
    · exact frame.knows _ (after.targets arc old)
    · exact known _ (mem_bodyVertices new).2
  case blocks =>
    rw [after.blocks_append, inside]
    exact frame.blocks.trans (List.append_nil _).symm
  case scope =>
    rw [openBlock?_append, inside]
    exact frame.scope.trans after.scope

/-- The effect of a line keeps what holds of a state. -/
theorem scanLine (after : AfterLines blockIds before state) (line : List Char) :
    AfterLines blockIds (before ++ [line]) (Scan.scanLine blockIds state line) := by
  have effect := scanLine_effect blockIds state line
  generalize Scan.scanLine blockIds state line = next at effect ⊢
  cases effect with
  | quiet direction registers inside =>
      refine after.append_unregistered registers rfl rfl rfl (fun _ => rfl) ?_ ?_
      · rw [inside]
        exact (List.append_nil _).symm
      · rw [inside]
        exact after.scope
  | opens block registers opened empty =>
      refine after.append_unregistered registers rfl rfl ?_ ?_ ?_ ?_
      · simp [empty]
      · intro id
        rw [homeIn_append, homeIn_singleton, empty]
        simp
      · rw [opened, List.map_append]
        rfl
      · rw [opened]
        simp [Scanning.scope?]
  | closes registers closed =>
      refine after.append_unregistered registers rfl rfl rfl (fun _ => rfl) ?_ ?_
      · rw [closed]
        exact (List.append_nil _).symm
      · rw [closed]
        rfl
  | body registers inside => exact after.append_body registers inside

/-- What holds after all lines. -/
theorem foldl_scanLine (blockIds : List String) (lines : List (List Char)) :
    AfterLines blockIds lines (lines.foldl (Scan.scanLine blockIds) {}) := by
  induction lines using List.reverseRecOn with
  | nil => exact nil blockIds
  | append_singleton before line ih =>
      rw [List.foldl_append]
      exact ih.scanLine line

/-- When the blocks that are asked for are those of the lines, the draft of the state is scoped. -/
theorem draft_scoped {lines : List (List Char)} {direction : Option String}
    (after : AfterLines ((lines.filterMap blockOfLine?).map Block.id) lines state) :
    ({ direction, vertices := state.vertices, arcs := state.arcs, blocks := state.blocks } :
      Draft).Scoped := by
  have sound := after.sound
  rw [← after.blocks] at sound
  constructor
  case distinct => exact sound.distinct
  case named => exact sound.named
  case foreign => exact sound.foreign
  case attached =>
    have sources := after.sources
    have targets := after.targets
    rw [← after.blocks] at sources targets
    exact ⟨sources, targets⟩
  case members =>
    exact fun block member id listed => sound.listed id (List.mem_flatMap_of_mem member listed)
  case once => exact sound.once

end AfterLines

/-! ### Graphs -/

section Graphs

variable {K : Type} [Scalar K]

/-- Each vertex has a node of its own. -/
theorem node?_vertex {draft : Draft} (apart : draft.Scoped) (metadata : Metadata)
    (palette : Palette) {vertex : Vertex} (member : vertex ∈ draft.vertices) :
    (Graph.ofDraft draft metadata palette : Graph K).node? vertex.id =
      some (Node.ofVertex draft metadata vertex) := by
  have vertices : draft.distinctVertices = draft.vertices :=
    firstByKey_of_nodup apart.distinct apart.foreign
  have inside : Node.ofVertex draft metadata vertex ∈
      (Graph.ofDraft draft metadata palette : Graph K).nodes := by
    apply List.mem_append_right
    rw [vertices]
    exact List.mem_map_of_mem member
  have distinct : ((Graph.ofDraft draft metadata palette : Graph K).nodes.map Node.id).Nodup := by
    rw [map_id_nodes]
    exact nodup_nodeIds draft
  exact find?_node distinct inside

/-- What is found forgivingly is scoped, whatever the source. Its graph leaves out no arc, and each
vertex becomes a node inside the block that was open when its id was first registered. -/
theorem scan_scoped (source : String) :
    (Draft.scan source).Scoped ∧
      ∀ (metadata : Metadata) (palette : Palette),
        (Graph.ofDraft (Draft.scan source) metadata palette : Graph K).edges =
            ((Draft.scan source).arcs.zipIdx.map fun arc => Edge.ofArc arc.2 arc.1) ∧
          ∀ vertex ∈ (Draft.scan source).vertices, ∃ node : Node K,
            (Graph.ofDraft (Draft.scan source) metadata palette).node? vertex.id = some node ∧
              node.isGroup = false ∧
                FirstRegistered (Source.trimmedLines (Source.cleanChars source.toList)) vertex.id
                  node.parent := by
  have after := AfterLines.foldl_scanLine
    (((Source.trimmedLines (Source.cleanChars source.toList)).filterMap blockOfLine?).map Block.id)
    (Source.trimmedLines (Source.cleanChars source.toList))
  have apart : (Draft.scan source).Scoped := after.draft_scoped
  refine ⟨apart, fun metadata palette => ⟨apart.attached.edges_ofDraft metadata palette, ?_⟩⟩
  intro vertex member
  exact ⟨_, node?_vertex apart metadata palette member, isGroup_ofVertex _ metadata vertex,
    after.sound.placed vertex member⟩

end Graphs

end Scan

end Flowchart
