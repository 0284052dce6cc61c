import Flowchart.Proofs.Distinct
import Flowchart.Proofs.Draft.Meaning
import Flowchart.Proofs.Keyed

/-!
Loading computes the meaning of the statements it has read.

`Loading.Represents` says what the parts of a `Loading` are when the mentions, arcs and openings so
far are known. Every operation keeps it, and so does every statement and every run of statements.

Main statement: `load_eq_meaning`.
-/

namespace Flowchart

open Flowchart.Source (isSilent)

/-! ### One more mention -/

namespace Meaning

/-- The last mention decides about its own id if it carries brackets. -/
theorem lastBody_append (refs : List NodeRef) (ref : NodeRef) (id : String) :
    lastBody (refs ++ [ref]) id =
      if ref.id = id then ref.body.or (lastBody refs id) else lastBody refs id := by
  unfold lastBody
  by_cases same : ref.id = id
  · cases body : ref.body <;> simp [same, body]
  · simp [same]

/-- An id that is not mentioned has no body. -/
theorem lastBody_of_notMem {refs : List NodeRef} {id : String}
    (absent : id ∉ refs.map NodeRef.id) : lastBody refs id = none := by
  unfold lastBody
  rw [List.findSome?_eq_none_iff]
  intro ref member
  have differs : ref.id ≠ id := by
    rintro rfl
    exact absent (List.mem_map_of_mem (List.mem_reverse.mp member))
  rw [if_neg differs]

/-- The vertex under the id of the last mention. -/
theorem vertex_append_self (refs : List NodeRef) (ref : NodeRef) :
    vertex (refs ++ [ref]) ref.id = Loading.mentioned ref (some (vertex refs ref.id)) := by
  cases body : ref.body <;> simp [vertex, lastBody_append, Loading.mentioned, body]

/-- The vertex under another id than that of the last mention. -/
theorem vertex_append_of_ne (refs : List NodeRef) {ref : NodeRef} {id : String}
    (differs : id ≠ ref.id) : vertex (refs ++ [ref]) id = vertex refs id := by
  simp [vertex, lastBody_append, Ne.symm differs]

/-- The vertices of mentions under their ids. -/
def entries (refs : List NodeRef) : Keyed Vertex :=
  (ids refs).map fun id => (id, vertex refs id)

/-- Every id is listed once, at its first mention. -/
theorem nodup_ids (refs : List NodeRef) : (ids refs).Nodup :=
  nodup_eraseDups _

/-- The ids are those of the nodes that are mentioned. -/
theorem mem_ids {refs : List NodeRef} {id : String} :
    id ∈ ids refs ↔ id ∈ refs.map NodeRef.id := by
  rw [ids, List.mem_eraseDups]

/-- Entering a mention into the vertices so far gives the vertices with this mention. -/
theorem put_entries (refs : List NodeRef) (ref : NodeRef) :
    Keyed.put ref.id (Loading.mentioned ref (Keyed.find? ref.id (entries refs))) (entries refs) =
      entries (refs ++ [ref]) := by
  have others : ∀ id, id ≠ ref.id → vertex (refs ++ [ref]) id = vertex refs id :=
    fun id differs => vertex_append_of_ne refs differs
  by_cases known : ref.id ∈ refs.map NodeRef.id
  · have sameIds : ids (refs ++ [ref]) = ids refs := by
      simp only [ids, List.map_append, List.map_cons, List.map_nil]
      exact eraseDups_append_of_mem known
    have listed : ref.id ∈ ids refs := mem_ids.mpr known
    rw [entries, find?_map_pair, if_pos listed, put_map_pair_of_mem (nodup_ids refs) _ listed,
      entries, sameIds]
    apply List.map_congr_left
    intro id _
    by_cases same : id = ref.id
    · subst same
      rw [if_pos rfl, vertex_append_self]
    · rw [if_neg same, others id same]
  · have newIds : ids (refs ++ [ref]) = ids refs ++ [ref.id] := by
      simp only [ids, List.map_append, List.map_cons, List.map_nil]
      exact eraseDups_append_of_notMem known
    have unlisted : ref.id ∉ ids refs := fun listed => known (mem_ids.mp listed)
    have fresh : vertex (refs ++ [ref]) ref.id = Loading.mentioned ref none := by
      rw [vertex_append_self, vertex, lastBody_of_notMem known]
      cases body : ref.body <;> simp [Loading.mentioned, body]
    have absent : ref.id ∉ (entries refs).map Prod.fst := by
      simpa [entries, Function.comp_def] using unlisted
    have lookedUp : Keyed.find? ref.id (entries refs) = none := by
      rw [entries, find?_map_pair, if_neg unlisted]
    rw [put_of_notMem _ absent, lookedUp, entries, entries, newIds, List.map_append, List.map_cons,
      List.map_nil, fresh]
    congr 1
    apply List.map_congr_left
    intro id member
    have differs : id ≠ ref.id := by
      rintro rfl
      exact unlisted member
    rw [others id differs]

/-- A mention inside a block enters its id into the members of this block and of no other. -/
theorem members_append (mentioned : List (Option Nat × String)) (inside : Option Nat)
    (id : String) (number : Nat) :
    members (mentioned ++ [(inside, id)]) number =
      if inside = some number ∧ id ∉ members mentioned number then
        members mentioned number ++ [id]
      else members mentioned number := by
  unfold members
  by_cases here : inside = some number
  · subst here
    simp only [List.filter_append, List.map_append, List.mem_eraseDups, beq_self_eq_true,
      List.filter_cons_of_pos, List.filter_nil, List.map_cons, List.map_nil, true_and]
    by_cases known :
        id ∈ (mentioned.filter fun place => place.1 == some number).map Prod.snd
    · rw [if_neg (by simpa using known), eraseDups_append_of_mem known]
    · rw [if_pos known, eraseDups_append_of_notMem known]
  · have elsewhere : (inside == some number) = false := by simpa using here
    simp [here, elsewhere]

/-- A mention acts on the blocks by entering its id into the innermost one. -/
theorem mapIdx_block_append (opened : List (Option String × Option String))
    (mentioned : List (Option Nat × String)) (inside : Option Nat) (id : String) :
    opened.mapIdx (block (mentioned ++ [(inside, id)])) =
      match inside with
      | none => opened.mapIdx (block mentioned)
      | some innermost =>
        (opened.mapIdx (block mentioned)).modify innermost (Loading.addMember id) := by
  cases inside with
  | none =>
      apply List.ext_getElem?
      intro number
      rw [List.getElem?_mapIdx, List.getElem?_mapIdx]
      cases opened[number]? <;> simp [block, members_append]
  | some innermost =>
      apply List.ext_getElem?
      intro number
      rw [List.getElem?_modify, List.getElem?_mapIdx, List.getElem?_mapIdx]
      cases opened[number]? with
      | none => simp
      | some opening =>
          by_cases here : innermost = number
          · subst here
            by_cases known : id ∈ members mentioned innermost <;>
              simp [block, members_append, Loading.addMember, known]
          · simp [block, members_append, here]

/-! ### One more statement -/

theorem mentions_append (before after : List Statement) :
    mentions (before ++ after) = mentions before ++ mentions after := by
  simp [mentions]

theorem openings_append (before after : List Statement) :
    openings (before ++ after) = openings before ++ openings after := by
  simp [openings]

/-- A statement behind others places its nodes in the innermost block that is open there. -/
theorem placed_append (start before : List Statement) (statement : Statement) :
    placed start (before ++ [statement]) =
      placed start before ++
        statement.mentions.map fun ref => (innermost (start ++ before), ref.id) := by
  induction before generalizing start with
  | nil => simp [placed]
  | cons head before ih => simp [placed, ih, List.append_assoc]

theorem length_openings_le (statement : Statement) (earlier : List Statement) :
    (openings earlier).length ≤ (openings (statement :: earlier)).length := by
  rw [openings, openings, List.filterMap_cons]
  split
  · exact Nat.le_refl _
  · exact Nat.le_succ _

/-- The innermost block is one of those opened. -/
theorem lastOpen_lt {waiting : Nat} {backwards : List Statement} {number : Nat}
    (found : lastOpen waiting backwards = some number) :
    number < (openings backwards).length := by
  fun_induction lastOpen waiting backwards with
  | case1 => cases found
  | case2 waiting earlier ih =>
      exact Nat.lt_of_lt_of_le (ih found) (length_openings_le _ earlier)
  | case3 id title earlier =>
      rw [← Option.some.inj found]
      exact Nat.lt_succ_self _
  | case4 waiting id title earlier ih =>
      exact Nat.lt_of_lt_of_le (ih found) (length_openings_le _ earlier)
  | case5 waiting statement earlier _ _ _ ih =>
      exact Nat.lt_of_lt_of_le (ih found) (length_openings_le _ earlier)

/-- The innermost open block has been opened before. -/
theorem innermost_lt {before : List Statement} {number : Nat}
    (found : innermost before = some number) : number < (openings before).length := by
  have smaller := lastOpen_lt found
  simpa [openings] using smaller

/-- No mention is placed in a block that is not open yet. -/
theorem placed_lt {start before : List Statement} {number : Nat} {id : String}
    (member : (some number, id) ∈ placed start before) :
    number < (openings (start ++ before)).length := by
  induction before using List.reverseRecOn with
  | nil => cases member
  | append_singleton before statement ih =>
      have grows : (openings (start ++ before)).length ≤
          (openings (start ++ (before ++ [statement]))).length := by
        rw [← List.append_assoc, openings_append (start ++ before), List.length_append]
        exact Nat.le_add_right _ _
      rw [placed_append, List.mem_append] at member
      rcases member with earlier | new
      · exact Nat.lt_of_lt_of_le (ih earlier) grows
      · obtain ⟨ref, _, same⟩ := List.mem_map.mp new
        have found : innermost (start ++ before) = some number := congrArg Prod.fst same
        exact Nat.lt_of_lt_of_le (innermost_lt found) grows

/-- A block that has just been opened has no members. -/
theorem members_of_forall_lt {mentioned : List (Option Nat × String)} {number : Nat}
    (older : ∀ other id, (some other, id) ∈ mentioned → other < number) :
    members mentioned number = [] := by
  have none_ : mentioned.filter (fun place => place.1 == some number) = [] := by
    rw [List.filter_eq_nil_iff]
    rintro ⟨inside, id⟩ member isHere
    have here : inside = some number := by simpa using isHere
    subst here
    exact Nat.lt_irrefl number (older number id member)
  rw [members, none_]
  rfl

end Meaning

/-! ### Operations -/

namespace Loading

open Meaning (entries)

/-- The vertices, arcs and blocks of a loading are those of mentions, arcs, openings and placed
mentions. -/
structure Represents (loading : Loading) (refs : List NodeRef) (arcs : List Arc)
    (opened : List (Option String × Option String)) (mentioned : List (Option Nat × String)) :
    Prop where
  vertices : loading.vertices = entries refs
  arcs : loading.arcs = arcs
  blocks : loading.blocks = opened.mapIdx (Meaning.block mentioned)

variable {loading : Loading} {refs : List NodeRef} {drawn : List Arc}
  {opened : List (Option String × Option String)} {mentioned : List (Option Nat × String)}

@[simp] theorem openBlocks_mentionAll (loading : Loading) (refs : List NodeRef) :
    (loading.mentionAll refs).openBlocks = loading.openBlocks := by
  induction refs generalizing loading with
  | nil => rfl
  | cons ref refs ih => exact ih (loading.mention ref)

@[simp] theorem direction_mentionAll (loading : Loading) (refs : List NodeRef) :
    (loading.mentionAll refs).direction = loading.direction := by
  induction refs generalizing loading with
  | nil => rfl
  | cons ref refs ih => exact ih (loading.mention ref)

@[simp] theorem openBlocks_addHops (loading : Loading) (sources : List NodeRef)
    (hops : List Hop) : (loading.addHops sources hops).openBlocks = loading.openBlocks := by
  induction hops generalizing loading sources with
  | nil => rfl
  | cons hop hops ih => simp [addHops, ih]

@[simp] theorem direction_addHops (loading : Loading) (sources : List NodeRef)
    (hops : List Hop) : (loading.addHops sources hops).direction = loading.direction := by
  induction hops generalizing loading sources with
  | nil => rfl
  | cons hop hops ih => simp [addHops, ih]

/-- Mentioning a node adds it to the nodes, and to the block that is open. -/
theorem mention_represents (represents : loading.Represents refs drawn opened mentioned)
    (ref : NodeRef) :
    (loading.mention ref).Represents (refs ++ [ref]) drawn opened
      (mentioned ++ [(loading.openBlocks.head?, ref.id)]) where
  vertices := by
    rw [← Meaning.put_entries, ← represents.vertices]
    rfl
  arcs := represents.arcs
  blocks := by
    rw [Meaning.mapIdx_block_append, ← represents.blocks, mention]
    cases loading.openBlocks <;> rfl

/-- Mentioning several nodes adds them in their order. -/
theorem mentionAll_represents (represents : loading.Represents refs drawn opened mentioned)
    (more : List NodeRef) :
    (loading.mentionAll more).Represents (refs ++ more) drawn opened
      (mentioned ++ more.map fun ref => (loading.openBlocks.head?, ref.id)) := by
  induction more generalizing loading refs mentioned with
  | nil => simpa [mentionAll] using represents
  | cons ref more ih =>
      have rest := ih (mention_represents represents ref)
      rw [List.append_assoc, List.append_assoc] at rest
      exact rest

/-- The arcs of a hop are those that the loading adds for it. -/
theorem chainArcs_cons (sources : List NodeRef) (hop : Hop) (hops : List Hop) :
    Statement.chainArcs sources (hop :: hops) =
      arcsOf sources hop.targets hop.link ++ Statement.chainArcs hop.targets hops := by
  simp [Statement.chainArcs, arcsOf]

/-- The links of a chain add their targets and one arc for each pair of ends. -/
theorem addHops_represents (represents : loading.Represents refs drawn opened mentioned)
    (sources : List NodeRef) (hops : List Hop) :
    (loading.addHops sources hops).Represents (refs ++ hops.flatMap Hop.targets)
      (drawn ++ Statement.chainArcs sources hops) opened
      (mentioned ++
        (hops.flatMap Hop.targets).map fun ref => (loading.openBlocks.head?, ref.id)) := by
  induction hops generalizing loading refs drawn mentioned sources with
  | nil => simpa [addHops, Statement.chainArcs] using represents
  | cons hop hops ih =>
      have reached := mentionAll_represents represents hop.targets
      have drawnTo :
          ({ loading.mentionAll hop.targets with
              arcs := (loading.mentionAll hop.targets).arcs ++
                arcsOf sources hop.targets hop.link } : Loading).Represents
            (refs ++ hop.targets) (drawn ++ arcsOf sources hop.targets hop.link) opened
            (mentioned ++ hop.targets.map fun ref => (loading.openBlocks.head?, ref.id)) :=
        ⟨reached.vertices, by rw [← reached.arcs], reached.blocks⟩
      have rest := ih drawnTo hop.targets
      simpa [addHops, chainArcs_cons, List.append_assoc] using rest

/-! ### Statements -/

/-- A loading has read statements, the first of which is its declaration: its parts are those that
the statements mean, and its open blocks are those that wait for an `end`. -/
structure HasRead (loading : Loading) (before : List Statement) : Prop where
  represents : loading.Represents (Meaning.mentions before) (before.flatMap Statement.arcs)
    (Meaning.openings before) (Meaning.placed [] before)
  openBlocks : ∀ waiting, loading.openBlocks[waiting]? = Meaning.lastOpen waiting before.reverse
  declared : ∃ body, before = .header loading.direction :: body

variable {before : List Statement} {next : Loading}

/-- What is loaded after the declaration is its direction and nothing else. -/
theorem hasRead_declaration (direction : Option String) :
    ({ direction } : Loading).HasRead [.header direction] where
  represents := ⟨rfl, rfl, rfl⟩
  openBlocks := by
    intro waiting
    cases waiting <;> rfl
  declared := ⟨[], rfl⟩

/-- The block on top of the open ones is the innermost. -/
theorem HasRead.head?_openBlocks (read : loading.HasRead before) :
    loading.openBlocks.head? = Meaning.innermost before := by
  rw [List.head?_eq_getElem?, read.openBlocks]
  rfl

/-- There are as many blocks as openings have been read. -/
theorem HasRead.length_blocks (read : loading.HasRead before) :
    loading.blocks.length = (Meaning.openings before).length := by
  rw [read.represents.blocks, List.length_mapIdx]

/-- The declaration stays at the front, with the same direction. -/
theorem HasRead.declared_append (read : loading.HasRead before) (statement : Statement)
    (same : next.direction = loading.direction) :
    ∃ body, before ++ [statement] = .header next.direction :: body := by
  obtain ⟨body, rfl⟩ := read.declared
  exact ⟨body ++ [statement], by rw [same, List.cons_append]⟩

theorem placed_without_mentions {statement : Statement} (none_ : statement.mentions = []) :
    Meaning.placed [] (before ++ [statement]) = Meaning.placed [] before := by
  rw [Meaning.placed_append, none_, List.map_nil, List.append_nil]

/-- Opening a block puts it behind the others and on top of the open ones. -/
theorem openBlock_hasRead (read : loading.HasRead before) (id title : Option String) :
    (loading.openBlock id title).HasRead (before ++ [.blockStart id title]) where
  represents := by
    refine ⟨?_, ?_, ?_⟩
    · simpa [openBlock, Meaning.mentions, Statement.mentions] using read.represents.vertices
    · simpa [openBlock, Statement.arcs] using read.represents.arcs
    · have fresh : Meaning.members (Meaning.placed [] before)
          (Meaning.openings before).length = [] :=
        Meaning.members_of_forall_lt fun other id member => by
          simpa using Meaning.placed_lt member
      have opened : Meaning.openings (before ++ [.blockStart id title]) =
          Meaning.openings before ++ [(id, title)] := by
        rw [Meaning.openings_append]
        rfl
      rw [placed_without_mentions rfl, opened, List.mapIdx_concat, ← read.represents.blocks,
        Meaning.block, fresh, ← read.length_blocks]
      cases title with
      | none => rfl
      | some text =>
          by_cases empty : text.isEmpty = true <;>
            simp [openBlock, empty, Option.filter, generatedId, Decimal.natText,
              Decimal.natDigits, Nat.repr_eq_ofList_toDigits]
  openBlocks := by
    intro waiting
    rw [List.reverse_append, List.reverse_singleton, List.singleton_append]
    cases waiting with
    | zero =>
        rw [Meaning.lastOpen]
        simp [openBlock, read.length_blocks, Meaning.openings]
    | succ waiting => simpa [openBlock, Meaning.lastOpen] using read.openBlocks waiting
  declared := read.declared_append _ rfl

/-- Closing a block leaves the next outer one on top. -/
theorem closeBlock_hasRead (read : loading.HasRead before) {closed : Nat} {outer : List Nat}
    (opened : loading.openBlocks = closed :: outer) :
    ({ loading with openBlocks := outer } : Loading).HasRead (before ++ [.blockEnd]) where
  represents := by
    refine ⟨?_, ?_, ?_⟩
    · simpa [Meaning.mentions, Statement.mentions] using read.represents.vertices
    · simpa [Statement.arcs] using read.represents.arcs
    · have sameOpenings : Meaning.openings (before ++ [.blockEnd]) = Meaning.openings before := by
        rw [Meaning.openings_append]
        exact List.append_nil _
      rw [placed_without_mentions rfl, sameOpenings]
      exact read.represents.blocks
  openBlocks := by
    intro waiting
    have further := read.openBlocks (waiting + 1)
    rw [opened, List.getElem?_cons_succ] at further
    rw [List.reverse_append, List.reverse_singleton, List.singleton_append, Meaning.lastOpen]
    exact further
  declared := read.declared_append _ rfl

/-- A statement that opens and closes nothing adds its mentions and arcs. -/
theorem hasRead_of_represents (read : loading.HasRead before) {statement : Statement}
    (notOpening : statement.opening? = none) (notEnd : statement ≠ .blockEnd)
    (sameBlocks : next.openBlocks = loading.openBlocks)
    (sameDirection : next.direction = loading.direction)
    (represents : next.Represents (Meaning.mentions before ++ statement.mentions)
      (before.flatMap Statement.arcs ++ statement.arcs) (Meaning.openings before)
      (Meaning.placed [] before ++
        statement.mentions.map fun ref => (loading.openBlocks.head?, ref.id))) :
    next.HasRead (before ++ [statement]) where
  represents := by
    rw [read.head?_openBlocks] at represents
    have opened : Meaning.openings (before ++ [statement]) = Meaning.openings before := by
      simp [Meaning.openings, notOpening]
    rw [Meaning.mentions_append, List.flatMap_append, opened, Meaning.placed_append]
    simpa [Meaning.mentions] using represents
  openBlocks := by
    intro waiting
    rw [sameBlocks, read.openBlocks, List.reverse_append, List.reverse_singleton,
      List.singleton_append]
    cases statement with
    | blockStart => cases notOpening
    | blockEnd => exact absurd rfl notEnd
    | header => rw [Meaning.lastOpen] <;> simp
    | ignored => rw [Meaning.lastOpen] <;> simp
    | nodes => rw [Meaning.lastOpen] <;> simp
    | edges => rw [Meaning.lastOpen] <;> simp
  declared := read.declared_append _ sameDirection

/-- To close a block is to leave the innermost one that is open. -/
theorem apply_blockEnd_eq_ok {lineNumber : Nat}
    (applied : loading.apply lineNumber .blockEnd = .ok next) :
    ∃ closed outer, loading.openBlocks = closed :: outer ∧
      next = { loading with openBlocks := outer } := by
  cases opened : loading.openBlocks with
  | nil => simp [apply, opened] at applied
  | cons closed outer =>
      simp only [apply, opened, Except.ok.injEq] at applied
      exact ⟨closed, outer, rfl, applied.symm⟩

/-- A statement that is accepted after others leads to the loading that has read them all. -/
theorem apply_hasRead (read : loading.HasRead before) {lineNumber : Nat} {statement : Statement}
    (applied : loading.apply lineNumber statement = .ok next) :
    next.HasRead (before ++ [statement]) := by
  cases statement with
  | header direction => cases applied
  | blockStart id title =>
      cases applied
      exact openBlock_hasRead read id title
  | blockEnd =>
      obtain ⟨closed, outer, opened, rfl⟩ := apply_blockEnd_eq_ok applied
      exact closeBlock_hasRead read opened
  | ignored =>
      cases applied
      refine hasRead_of_represents read rfl (by simp) rfl rfl ?_
      simpa [Statement.mentions, Statement.arcs] using read.represents
  | nodes refs =>
      cases applied
      refine hasRead_of_represents read rfl (by simp) (by simp) (by simp) ?_
      simpa [Statement.mentions, Statement.arcs] using
        mentionAll_represents read.represents refs
  | edges first hops =>
      cases applied
      refine hasRead_of_represents read rfl (by simp) (by simp) (by simp) ?_
      have started := mentionAll_represents read.represents first
      have walked := addHops_represents started first hops
      simpa [Statement.mentions, Statement.arcs, List.append_assoc] using walked

end Loading

end Flowchart
