import Flowchart.Proofs.Draft.Records
import Flowchart.Proofs.Graph.Agreement
import Flowchart.Proofs.Plain.Mentions

/-!
Both readers of diagrams agree on plain diagrams.

The strict reader lists an id in every block that mentions it, and the forgiving reader in the block
of its first mention. Blocks are numbered in the order of the text, so the first block that lists an
id is the same.

Main statement: `parse_agrees`.
-/

namespace Flowchart.Plain

variable {diagram : Diagram}

/-! ### Blocks -/

/-- Blocks that are made from openings have their ids. -/
theorem map_id_mapIdx {f : Nat → Name × Option Phrase → Block}
    (ids : ∀ number opening, (f number opening).id = opening.1.id)
    (openings : List (Name × Option Phrase)) :
    (openings.mapIdx f).map Block.id = openings.map fun opening => opening.1.id := by
  refine List.ext_getElem? fun position => ?_
  rw [List.getElem?_map, List.getElem?_mapIdx, List.getElem?_map, Option.map_map]
  exact Option.map_congr fun opening _ => ids position opening

theorem blockIds_strictDraft (diagram : Diagram) :
    diagram.strictDraft.blockIds = diagram.blockIds :=
  map_id_mapIdx (fun _ _ => rfl) diagram.openings

theorem blockIds_scanDraft (diagram : Diagram) :
    diagram.scanDraft.blockIds = diagram.blockIds :=
  map_id_mapIdx (fun _ _ => rfl) diagram.openings

theorem outlines_drafts (diagram : Diagram) :
    diagram.strictDraft.blocks.map Block.outline = diagram.scanDraft.blocks.map Block.outline := by
  refine List.ext_getElem? fun position => ?_
  have strict : diagram.strictDraft.blocks = diagram.openings.mapIdx diagram.strictBlock := rfl
  have scan : diagram.scanDraft.blocks =
      diagram.openings.mapIdx (foundBlock diagram.blockIds diagram.entries) := rfl
  rw [strict, scan, List.getElem?_map, List.getElem?_mapIdx, List.getElem?_map,
    List.getElem?_mapIdx, Option.map_map, Option.map_map]
  rfl

/-! ### Vertices -/

/-- An id is mentioned when it has a first mention. -/
theorem firstPlace?_isSome (diagram : Diagram) (id : String) :
    id ∈ Meaning.ids diagram.refs ↔ ∃ place, diagram.firstPlace? id = some place := by
  have mentioned : id ∈ diagram.refs.map NodeRef.id ↔
      ∃ place ∈ diagram.placed, place.2.name.id = id := by
    rw [Diagram.refs, List.map_map, List.mem_map]
    rfl
  rw [Meaning.ids, List.mem_eraseDups, mentioned, ← Option.isSome_iff_exists, Diagram.firstPlace?,
    List.find?_isSome]
  simp

/-- The nodes of the strict draft: the first mentions of ids that are not those of blocks. -/
theorem mem_distinctVertices_strictDraft (admissible : diagram.Admissible) (vertex : Vertex) :
    vertex ∈ diagram.strictDraft.distinctVertices ↔
      vertex.id ∉ diagram.blockIds ∧
        ∃ place, diagram.firstPlace? vertex.id = some place ∧ place.2.vertex = vertex := by
  have searched : ((Meaning.ids diagram.refs).map (Meaning.vertex diagram.refs)).find?
      (fun other => other.id == vertex.id) =
        ((Meaning.ids diagram.refs).find? (· == vertex.id)).map (Meaning.vertex diagram.refs) := by
    rw [List.find?_map]
    rfl
  have vertices : diagram.strictDraft.vertices =
      (Meaning.ids diagram.refs).map (Meaning.vertex diagram.refs) := rfl
  rw [Draft.distinctVertices, blockIds_strictDraft, mem_firstByKey, vertices, searched, and_comm]
  refine and_congr_right fun _ => ?_
  constructor
  · intro found
    obtain ⟨id, listed, same⟩ := Option.map_eq_some_iff.mp found
    obtain rfl : id = vertex.id := by simpa using List.find?_some listed
    obtain ⟨place, first⟩ :=
      (firstPlace?_isSome diagram vertex.id).mp (List.mem_of_find?_eq_some listed)
    exact ⟨place, first, (diagram.vertex_refs admissible.brackets first).symm.trans same⟩
  · rintro ⟨place, first, same⟩
    have listed := (firstPlace?_isSome diagram vertex.id).mpr ⟨place, first⟩
    have found : (Meaning.ids diagram.refs).find? (· == vertex.id) = some vertex.id := by
      cases search : (Meaning.ids diagram.refs).find? (· == vertex.id) with
      | none => exact absurd (beq_self_eq_true _) (List.find?_eq_none.mp search _ listed)
      | some id => exact congrArg some (by simpa using List.find?_some search)
    rw [found, Option.map_some, diagram.vertex_refs admissible.brackets first, same]

/-- An entry that counts is made by the first mention of an id that is not that of a block. -/
theorem mem_kept (admissible : diagram.Admissible) (entry : Entry) :
    entry ∈ kept diagram.blockIds diagram.entries ↔
      entry.2.id ∉ diagram.blockIds ∧
        ∃ place, diagram.firstPlace? entry.2.id = some place ∧
          (place.1, place.2.vertex) = entry := by
  rw [kept, mem_firstByKey, diagram.find?_entries admissible.brackets, and_comm,
    Option.map_eq_some_iff]

/-- The nodes of the draft that the forgiving reader finds. -/
theorem mem_distinctVertices_scanDraft (admissible : diagram.Admissible) (vertex : Vertex) :
    vertex ∈ diagram.scanDraft.distinctVertices ↔
      vertex.id ∉ diagram.blockIds ∧
        ∃ place, diagram.firstPlace? vertex.id = some place ∧ place.2.vertex = vertex := by
  have distinct : (((kept diagram.blockIds diagram.entries).map Prod.snd).map Vertex.id).Nodup := by
    rw [List.map_map]
    exact nodup_map_firstByKey _ _ _
  have fresh : ∀ vertex ∈ (kept diagram.blockIds diagram.entries).map Prod.snd,
      vertex.id ∉ diagram.blockIds := by
    intro vertex member
    obtain ⟨entry, listed, rfl⟩ := List.mem_map.mp member
    exact ((mem_kept admissible entry).mp listed).1
  have vertices : diagram.scanDraft.vertices =
      (kept diagram.blockIds diagram.entries).map Prod.snd := rfl
  rw [Draft.distinctVertices, blockIds_scanDraft, vertices, firstByKey_of_nodup distinct fresh,
    List.mem_map]
  constructor
  · rintro ⟨entry, listed, rfl⟩
    obtain ⟨foreign, place, first, same⟩ := (mem_kept admissible entry).mp listed
    exact ⟨foreign, place, first, congrArg Prod.snd same⟩
  · rintro ⟨foreign, place, first, rfl⟩
    exact ⟨(place.1, place.2.vertex), (mem_kept admissible _).mpr ⟨foreign, place, first, rfl⟩, rfl⟩

/-- Both drafts have the same nodes, in some order. -/
theorem perm_distinctVertices (admissible : diagram.Admissible) :
    diagram.strictDraft.distinctVertices.Perm diagram.scanDraft.distinctVertices := by
  have distinct : ∀ draft : Draft, draft.distinctVertices.Nodup := fun draft =>
    List.Nodup.of_map Vertex.id (nodup_map_firstByKey Vertex.id draft.blockIds draft.vertices)
  refine (List.perm_ext_iff_of_nodup (distinct _) (distinct _)).mpr fun vertex => ?_
  rw [mem_distinctVertices_strictDraft admissible, mem_distinctVertices_scanDraft admissible]

/-! ### Homes -/

/-- The number of a mention is that of a block that is opened. -/
theorem placedFrom_bounds (number : Nat) (items : List Item) :
    ∀ place ∈ placedFrom number items, ∀ inside ∈ place.1,
      number ≤ inside ∧ inside < number + (items.filterMap Item.opening?).length := by
  induction items generalizing number with
  | nil => simp [placedFrom]
  | cons item items ih =>
      intro place member inside isPlace
      cases item with
      | chain links =>
          rcases List.mem_append.mp member with here | later
          · obtain ⟨mention, _, rfl⟩ := List.mem_map.mp here
            cases isPlace
          · exact ih number place later inside isPlace
      | block name title chains =>
          have length : ((Item.block name title chains :: items).filterMap Item.opening?).length =
              (items.filterMap Item.opening?).length + 1 := rfl
          rcases List.mem_append.mp member with here | later
          · obtain ⟨mention, _, rfl⟩ := List.mem_map.mp here
            obtain rfl : number = inside := Option.some.inj isPlace
            omega
          · have bounds := ih (number + 1) place later inside isPlace
            omega

/-- The blocks of the mentions come in the order in which they are opened. -/
theorem placedFrom_ordered (number : Nat) (items : List Item) :
    (placedFrom number items).Pairwise fun earlier later =>
      ∀ first ∈ earlier.1, ∀ second ∈ later.1, first ≤ second := by
  induction items generalizing number with
  | nil => exact .nil
  | cons item items ih =>
      cases item with
      | chain links =>
          rw [placedFrom, List.pairwise_append]
          refine ⟨?_, ih number, ?_⟩
          · rw [List.pairwise_map]
            exact List.pairwise_of_forall (by simp)
          · intro earlier here later _ first isFirst
            obtain ⟨mention, _, rfl⟩ := List.mem_map.mp here
            cases isFirst
      | block name title chains =>
          rw [placedFrom, List.pairwise_append]
          refine ⟨?_, ih (number + 1), ?_⟩
          · rw [List.pairwise_map]
            exact List.pairwise_of_forall (by simp)
          · intro earlier here later there first isFirst second isSecond
            obtain ⟨mention, _, rfl⟩ := List.mem_map.mp here
            have bounds := placedFrom_bounds (number + 1) items later there second isSecond
            obtain rfl : number = first := Option.some.inj isFirst
            omega

/-- The first block that lists an id, when the blocks are made from openings: it has the number at
which the id is mentioned first, and no block before it lists the id. -/
theorem home_eq {draft : Draft} {f : Nat → Name × Option Phrase → Block}
    {openings : List (Name × Option Phrase)} (blocks : draft.blocks = openings.mapIdx f)
    (ids : ∀ number opening, (f number opening).id = opening.1.id) {id : String}
    {place : Option Nat} (opened : ∀ number ∈ place, number < openings.length)
    (listed : ∀ number ∈ place, ∀ opening, id ∈ (f number opening).members)
    (first : ∀ number opening, id ∈ (f number opening).members → ∃ least ∈ place, least ≤ number) :
    draft.home id = place.bind fun number => openings[number]?.map fun opening => opening.1.id := by
  rw [Draft.home, Draft.blockOf?, blocks]
  cases place with
  | none =>
      have absent : (openings.mapIdx f).find? (fun block => block.members.contains id) = none := by
        rw [List.find?_eq_none]
        intro block member inside
        obtain ⟨number, bound, rfl⟩ := List.mem_mapIdx.mp member
        obtain ⟨least, impossible, _⟩ := first number _ (List.contains_iff_mem.mp inside)
        cases impossible
      rw [absent]
      rfl
  | some number =>
      have bound := opened number rfl
      have found : (openings.mapIdx f).find? (fun block => block.members.contains id) =
          some (f number openings[number]) := by
        rw [List.find?_eq_some_iff_getElem]
        refine ⟨List.contains_iff_mem.mpr (listed number rfl _), number, by simpa using bound,
          by simp, ?_⟩
        intro earlier before
        rw [List.getElem_mapIdx]
        cases inside : (f earlier openings[earlier]).members.contains id with
        | false => rfl
        | true =>
            obtain ⟨least, isPlace, atMost⟩ := first earlier _ (List.contains_iff_mem.mp inside)
            obtain rfl : number = least := Option.some.inj isPlace
            omega
      rw [found, Option.map_some, ids, Option.bind_some, List.getElem?_eq_getElem bound,
        Option.map_some]

/-- An id is listed by the blocks that mention it. -/
theorem mem_strictBlock (id : String) (number : Nat) (opening : Name × Option Phrase) :
    id ∈ (diagram.strictBlock number opening).members ↔
      ∃ place ∈ diagram.placed, place.1 = some number ∧ place.2.name.id = id := by
  rw [Diagram.strictBlock, Meaning.members, List.mem_eraseDups, List.mem_map]
  constructor
  · rintro ⟨entry, kept, rfl⟩
    obtain ⟨listed, inside⟩ := List.mem_filter.mp kept
    obtain ⟨place, member, rfl⟩ := List.mem_map.mp listed
    exact ⟨place, member, by simpa using inside, rfl⟩
  · rintro ⟨place, member, inside, rfl⟩
    exact ⟨(place.1, place.2.name.id),
      List.mem_filter.mpr ⟨List.mem_map_of_mem member, by simpa using inside⟩, rfl⟩

/-- The forgiving reader lists an id in the block of its first mention. -/
theorem mem_foundBlock (admissible : diagram.Admissible) {id : String}
    {place : Option Nat × Mention} (foreign : id ∉ diagram.blockIds)
    (firstPlace : diagram.firstPlace? id = some place) (number : Nat)
    (opening : Name × Option Phrase) :
    id ∈ (foundBlock diagram.blockIds diagram.entries number opening).members ↔
      place.1 = some number := by
  rw [foundBlock, keptIn, List.mem_map]
  constructor
  · rintro ⟨entry, listed, rfl⟩
    obtain ⟨member, inside⟩ := List.mem_filter.mp listed
    obtain ⟨_, other, first, rfl⟩ := (mem_kept admissible entry).mp member
    obtain rfl : other = place := Option.some.inj (first.symm.trans firstPlace)
    simpa using inside
  · intro inside
    have same : place.2.vertex.id = id := Diagram.id_of_firstPlace? firstPlace
    refine ⟨(place.1, place.2.vertex), List.mem_filter.mpr ⟨?_, by simpa using inside⟩, same⟩
    rw [mem_kept admissible]
    refine ⟨?_, place, ?_, rfl⟩
    · rw [same]
      exact foreign
    · rw [same]
      exact firstPlace

/-- A block that mentions an id has at least the number of its first mention. -/
theorem exists_le_of_mem_placed (admissible : diagram.Admissible) {id : String}
    {first place : Option Nat × Mention} (foreign : id ∉ diagram.blockIds)
    (firstPlace : diagram.firstPlace? id = some first) (member : place ∈ diagram.placed)
    (same : place.2.name.id = id) {number : Nat} (inside : place.1 = some number) :
    ∃ least ∈ first.1, least ≤ number := by
  have ordered := placedFrom_ordered 0 diagram.items
  have outside := admissible.inside
  obtain ⟨_, before, after, split, absent⟩ := List.find?_eq_some_iff_append.mp firstPlace
  have firstId := Diagram.id_of_firstPlace? firstPlace
  rw [split] at member outside
  have placed : diagram.placed = placedFrom 0 diagram.items := rfl
  rw [← placed, split] at ordered
  rcases List.mem_append.mp member with earlier | here
  · exact absurd same (by simpa using absent place earlier)
  · rcases List.mem_cons.mp here with rfl | later
    · exact ⟨number, inside, Nat.le_refl _⟩
    · have order := (List.pairwise_cons.mp (List.pairwise_append.mp ordered).2.1).1 place later
      have stays := (List.pairwise_cons.mp (List.pairwise_append.mp outside).2.1).1 place later
      cases firstPlace' : first.1 with
      | none =>
          have none := stays (firstId.trans same.symm) (firstId ▸ foreign) firstPlace'
          rw [inside] at none
          cases none
      | some least => exact ⟨least, rfl, order least firstPlace' number inside⟩

/-- An id has the same home in both drafts. -/
theorem home_drafts (admissible : diagram.Admissible) {id : String}
    {place : Option Nat × Mention} (foreign : id ∉ diagram.blockIds)
    (firstPlace : diagram.firstPlace? id = some place) :
    diagram.strictDraft.home id = diagram.scanDraft.home id := by
  have member := List.mem_of_find?_eq_some firstPlace
  have same := Diagram.id_of_firstPlace? firstPlace
  have opened : ∀ number ∈ place.1, number < diagram.openings.length := by
    intro number inside
    have bounds := placedFrom_bounds 0 diagram.items place member number inside
    rw [Nat.zero_add] at bounds
    exact bounds.2
  have strict : diagram.strictDraft.home id = place.1.bind fun number =>
      diagram.openings[number]?.map fun opening => opening.1.id := by
    refine home_eq rfl (fun _ _ => rfl) opened ?_ ?_
    · intro number inside opening
      exact (mem_strictBlock id number opening).mpr ⟨place, member, inside, same⟩
    · intro number opening listed
      obtain ⟨other, mentioned, inside, sameId⟩ := (mem_strictBlock id number opening).mp listed
      exact exists_le_of_mem_placed admissible foreign firstPlace mentioned sameId inside
  have scan : diagram.scanDraft.home id = place.1.bind fun number =>
      diagram.openings[number]?.map fun opening => opening.1.id := by
    refine home_eq rfl (fun _ _ => rfl) opened ?_ ?_
    · intro number inside opening
      exact (mem_foundBlock admissible foreign firstPlace number opening).mpr inside
    · intro number opening listed
      exact ⟨number, (mem_foundBlock admissible foreign firstPlace number opening).mp listed,
        Nat.le_refl _⟩
  rw [strict, scan]

/-! ### Agreement -/

/-- Both readers find drafts that stand for the same graph. -/
theorem agrees_drafts (admissible : diagram.Admissible) :
    diagram.strictDraft.Agrees diagram.scanDraft where
  direction := rfl
  arcs := rfl
  outlines := outlines_drafts diagram
  vertices := perm_distinctVertices admissible
  homes := by
    intro vertex member
    obtain ⟨foreign, place, first, _⟩ :=
      (mem_distinctVertices_strictDraft admissible vertex).mp member
    exact home_drafts admissible foreign first

theorem Name.isEmpty_id (name : Name) : name.id.isEmpty = false := by
  simp [Name.id, name.isWord.nonempty]

theorem named_arcsFrom {source : Mention} {steps : List Step} :
    ∀ arc ∈ arcsFrom source steps, arc.source.isEmpty = false ∧ arc.target.isEmpty = false := by
  induction steps generalizing source with
  | nil => simp [arcsFrom]
  | cons step steps ih =>
      intro arc member
      rcases List.mem_cons.mp member with rfl | later
      · exact ⟨source.name.isEmpty_id, step.target.name.isEmpty_id⟩
      · exact ih arc later

theorem named_strictDraft (diagram : Diagram) : diagram.strictDraft.Named where
  vertices := by
    intro vertex member
    obtain ⟨id, listed, rfl⟩ := List.mem_map.mp member
    obtain ⟨place, first⟩ := (firstPlace?_isSome diagram id).mp listed
    have same := Diagram.id_of_firstPlace? first
    rw [← same]
    exact place.2.name.isEmpty_id
  arcs := by
    intro arc member
    obtain ⟨item, _, inItem⟩ := List.mem_flatMap.mp member
    obtain ⟨links, _, inChain⟩ := List.mem_flatMap.mp inItem
    exact named_arcsFrom arc inChain
  blocks := by
    intro block member
    obtain ⟨number, bound, rfl⟩ := List.mem_mapIdx.mp member
    exact diagram.openings[number].1.isEmpty_id

/-- A plain diagram is read strictly and forgivingly, and to the same graph but for the order of
nodes: by the draft of the strict reader, and by a parse that falls back on the forgiving one. -/
theorem parse_agrees {K : Type} [Scalar K] (diagram : Diagram) (admissible : diagram.Admissible)
    (limits : Limits) (colors : List String) :
    (∃ draft, Draft.load (Source.clean diagram.text) = .ok draft ∧
        SameOutcome (K := K) (Diagram.build limits (Source.clean diagram.text) colors draft)
          (Diagram.parseForgiving limits diagram.text colors)) ∧
      SameOutcome (K := K) (Diagram.parse limits Interpreter.standard diagram.text colors)
        (Diagram.parseForgiving limits diagram.text colors) := by
  have loaded : Draft.load diagram.text = .ok diagram.strictDraft := by
    rw [load_text, meaning_statements]
  have visible : diagram.text.isEmpty = false := by
    have nonempty := diagram.isTrimmed_text.nonempty
    rw [Bool.eq_false_iff]
    intro empty
    rw [String.isEmpty_iff.mp empty] at nonempty
    exact nonempty rfl
  have forgiving : Diagram.parseForgiving (K := K) limits diagram.text colors =
      Diagram.build limits diagram.text colors diagram.scanDraft := by
    rw [Diagram.parseForgiving, clean_text, scan_text]
    simp only [visible, Bool.false_eq_true, if_false]
  have built : SameOutcome (K := K) (Diagram.build limits diagram.text colors diagram.strictDraft)
      (Diagram.parseForgiving limits diagram.text colors) := by
    rw [forgiving]
    exact sameOutcome_build (agrees_drafts admissible) limits diagram.text colors
  rw [clean_text]
  refine ⟨⟨diagram.strictDraft, loaded, built⟩, ?_⟩
  rw [Diagram.parse, clean_text, interpret_standard loaded (named_strictDraft diagram)]
  simp only [visible, Bool.false_eq_true, if_false]
  by_cases edgesOnly : (!diagram.strictDraft.arcs.isEmpty && !diagram.strictDraft.hasNodes) = true
  · rw [Draft.checkStructure, if_pos edgesOnly]
    exact SameOutcome.refl _
  · rw [Draft.checkStructure, if_neg edgesOnly]
    exact built

/-- A diagram whose last line mentions a bare id before one with brackets. -/
def gatewayDiagram : Diagram where
  keyword := "flowchart"
  direction := "LR"
  items :=
    [.block core (some backEnd)
        [⟨⟨api, some ⟨.diamond, gate, by decide⟩⟩,
          [⟨.labeledDotted calls, ⟨store, some ⟨.cylinder, data, by decide⟩⟩⟩], by simp⟩],
      .chain ⟨⟨web, none⟩,
        [⟨.textArrow onStart, ⟨api, none⟩⟩,
          ⟨.thick, ⟨log, some ⟨.square, audit, by decide⟩⟩⟩], by simp⟩]
  declares := by decide
  directs := by decide
where
  core : Name := ⟨"Core".toList, by decide, by decide⟩
  api : Name := ⟨"api".toList, by decide, by decide⟩
  store : Name := ⟨"store".toList, by decide, by decide⟩
  web : Name := ⟨"web".toList, by decide, by decide⟩
  log : Name := ⟨"log".toList, by decide, by decide⟩
  backEnd : Phrase := ⟨"Back end".toList,
    @IsPhrase.joined "Back".toList "end".toList (by decide) (List.all_eq_true.mp (by decide))
      (.word (by decide) (List.all_eq_true.mp (by decide)))⟩
  gate : Phrase := ⟨"Gate".toList, .word (by decide) (List.all_eq_true.mp (by decide))⟩
  calls : Phrase := ⟨"calls".toList, .word (by decide) (List.all_eq_true.mp (by decide))⟩
  data : Phrase := ⟨"Data".toList, .word (by decide) (List.all_eq_true.mp (by decide))⟩
  onStart : Phrase := ⟨"on start".toList,
    @IsPhrase.joined "on".toList "start".toList (by decide) (List.all_eq_true.mp (by decide))
      (.word (by decide) (List.all_eq_true.mp (by decide)))⟩
  audit : Phrase := ⟨"Audit".toList, .word (by decide) (List.all_eq_true.mp (by decide))⟩

theorem parse_agrees_gatewayDiagram :
    gatewayDiagram.text =
        "flowchart LR\nsubgraph Core [Back end]\napi\x7bGate\x7d -.->|calls| store[(Data)]\n" ++
          "end\nweb -- on start --> api ==> log[Audit]" ∧
      gatewayDiagram.Admissible ∧
      gatewayDiagram.strictDraft.vertices.map Vertex.id = ["api", "store", "web", "log"] ∧
      gatewayDiagram.scanDraft.vertices.map Vertex.id = ["api", "store", "log", "web"] ∧
      (∃ draft, Draft.load (Source.clean gatewayDiagram.text) = .ok draft ∧
        SameOutcome (K := Rat)
          (Diagram.build .standard (Source.clean gatewayDiagram.text) ["#e0f2fe"] draft)
          (Diagram.parseForgiving .standard gatewayDiagram.text ["#e0f2fe"])) ∧
      SameOutcome (K := Rat)
        (Diagram.parse .standard Interpreter.standard gatewayDiagram.text ["#e0f2fe"])
        (Diagram.parseForgiving .standard gatewayDiagram.text ["#e0f2fe"]) :=
  have admissible : gatewayDiagram.Admissible := by decide
  ⟨by decide +kernel, admissible, by decide +kernel, by decide +kernel,
    parse_agrees gatewayDiagram admissible .standard ["#e0f2fe"]⟩

end Flowchart.Plain
