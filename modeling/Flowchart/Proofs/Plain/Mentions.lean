import Flowchart.Proofs.Plain.Forgiving

/-!
What the first mention of an id settles.

Where brackets stand only at the first mention of their id, this mention gives the vertex of the id:
for the strict reader, which keeps the last brackets it finds, and for the forgiving reader, which
keeps the first entry. The entry is made at the place of the first mention as well.

Main statements: `find?_entries`, `vertex_refs`.
-/

namespace Flowchart.Plain

/-- Brackets stand only where their id is mentioned first. -/
def BracketsFirst (mentions : List Mention) : Prop :=
  mentions.Pairwise fun earlier later => earlier.name.id = later.name.id → later.bracket = none

/-- The vertex that a mention makes of its id. -/
def Mention.vertex (mention : Mention) : Vertex where
  id := mention.name.id
  text := mention.bracket.map fun bracket => String.ofList bracket.text.text
  shape := mention.bracket.map fun bracket => bracket.shape.name

/-- The first mention of an id. -/
def firstMention? (mentions : List Mention) (id : String) : Option Mention :=
  mentions.find? fun mention => mention.name.id == id

theorem id_of_firstMention? {mentions : List Mention} {id : String} {mention : Mention}
    (first : firstMention? mentions id = some mention) : mention.name.id = id := by
  simpa using List.find?_some first

theorem firstMention?_of_eq {mention : Mention} {id : String} (same : mention.name.id = id)
    (mentions : List Mention) : firstMention? (mention :: mentions) id = some mention :=
  List.find?_cons_of_pos (by simpa using same)

theorem firstMention?_of_ne {mention : Mention} {id : String} (other : mention.name.id ≠ id)
    (mentions : List Mention) :
    firstMention? (mention :: mentions) id = firstMention? mentions id :=
  List.find?_cons_of_neg (by simpa using other)

/-- After the first mention of an id, nothing is found that brackets give. -/
theorem BracketsFirst.bind_later {α : Type} {mention : Mention} {mentions : List Mention}
    (brackets : BracketsFirst (mention :: mentions)) {given : Mention → Option α}
    (bare : ∀ mention, mention.bracket = none → given mention = none) :
    (firstMention? mentions mention.name.id).bind given = none := by
  rw [Option.bind_eq_none_iff]
  intro later found
  exact bare later (List.rel_of_pairwise_cons brackets (List.mem_of_find?_eq_some found)
    (id_of_firstMention? found).symm)

/-! ### Entries of a chain -/

/-- Of the nodes with brackets, the first one of an id is its first mention, if that has
brackets. -/
theorem find?_declared {mentions : List Mention} (brackets : BracketsFirst mentions)
    (id : String) :
    ((mentions.filterMap Mention.declared?).find? fun vertex => vertex.id == id) =
      (firstMention? mentions id).bind Mention.declared? := by
  induction mentions with
  | nil => rfl
  | cons mention mentions ih =>
      have rest := ih (List.Pairwise.of_cons brackets)
      by_cases same : mention.name.id = id
      · have undeclared : (firstMention? mentions id).bind Mention.declared? = none := by
          rw [← same]
          exact brackets.bind_later fun mention bare => by simp [Mention.declared?, bare]
        rw [undeclared] at rest
        rw [firstMention?_of_eq same]
        obtain ⟨name, bracketed⟩ := mention
        cases bracketed with
        | none => exact rest
        | some bracket => exact List.find?_cons_of_pos (by simpa using same)
      · rw [firstMention?_of_ne same, ← rest]
        obtain ⟨name, bracketed⟩ := mention
        cases bracketed with
        | none => rfl
        | some bracket => exact List.find?_cons_of_neg (by simpa using same)

/-- The ends of the arcs along steps are bare. -/
theorem bare_of_mem_arcEnds {arcs : List Arc} {vertex : Vertex}
    (member : vertex ∈ arcs.flatMap arcEnds) : vertex = ⟨vertex.id, none, none⟩ := by
  obtain ⟨arc, _, isEnd⟩ := List.mem_flatMap.mp member
  simp only [arcEnds, List.mem_cons, List.not_mem_nil, or_false] at isEnd
  rcases isEnd with rfl | rfl <;> rfl

/-- The ends of the arcs along steps are the nodes along them. -/
theorem mem_ends_arcsFrom {steps : List Step} (nonempty : steps ≠ []) (source : Mention)
    (id : String) :
    id ∈ ((arcsFrom source steps).flatMap arcEnds).map Vertex.id ↔
      id ∈ (source :: steps.map Step.target).map fun mention => mention.name.id := by
  induction steps generalizing source with
  | nil => exact absurd rfl nonempty
  | cons step steps ih =>
      cases steps with
      | nil => simp [arcsFrom, arcEnds]
      | cons next steps =>
          have rest := ih (by simp) step.target
          rw [arcsFrom, List.flatMap_cons, List.map_append, List.mem_append, rest]
          simp [arcEnds, or_assoc]

/-- The first end of an id is bare. -/
theorem Chain.find?_ends (links : Chain) (id : String) :
    ((links.arcs.flatMap arcEnds).find? fun vertex => vertex.id == id) =
      (firstMention? links.mentions id).map fun _ => ⟨id, none, none⟩ := by
  have ends := mem_ends_arcsFrom links.linked links.first id
  cases found : (links.arcs.flatMap arcEnds).find? fun vertex => vertex.id == id with
  | none =>
      have absent : firstMention? links.mentions id = none := by
        rw [firstMention?, List.find?_eq_none]
        intro mention member same
        have listed := ends.mpr (List.mem_map.mpr ⟨mention, member, by simpa using same⟩)
        obtain ⟨vertex, isEnd, sameId⟩ := List.mem_map.mp listed
        exact List.find?_eq_none.mp found vertex isEnd (by simpa using sameId)
      rw [absent]
      rfl
  | some vertex =>
      have sameId : vertex.id = id := by simpa using List.find?_some found
      have isEnd := List.mem_of_find?_eq_some found
      have listed := ends.mp (List.mem_map.mpr ⟨vertex, isEnd, sameId⟩)
      obtain ⟨mention, member, same⟩ := List.mem_map.mp listed
      cases first : firstMention? links.mentions id with
      | none => exact absurd (by simpa using same) (List.find?_eq_none.mp first mention member)
      | some _ =>
          have bare := bare_of_mem_arcEnds isEnd
          rw [sameId] at bare
          exact congrArg some bare

/-- The first entry of an id in a chain is that of its first mention there. -/
theorem Chain.find?_entries (links : Chain) (brackets : BracketsFirst links.mentions)
    (id : String) :
    (links.entries.find? fun vertex => vertex.id == id) =
      (firstMention? links.mentions id).map Mention.vertex := by
  rw [Chain.entries, List.find?_append, find?_declared brackets, links.find?_ends]
  cases first : firstMention? links.mentions id with
  | none => rfl
  | some mention =>
      have same := id_of_firstMention? first
      obtain ⟨name, bracketed⟩ := mention
      cases bracketed with
      | none => exact congrArg (fun id => some (Vertex.mk id none none)) same.symm
      | some bracket => rfl

/-! ### Entries of a diagram -/

/-- The chains of items, each with the number of the block it stands in. -/
def chainsFrom : Nat → List Item → List (Option Nat × Chain)
  | _, [] => []
  | number, .chain links :: items => (none, links) :: chainsFrom number items
  | number, .block _ _ chains :: items =>
    chains.map (fun links => (some number, links)) ++ chainsFrom (number + 1) items

theorem placedFrom_eq (number : Nat) (items : List Item) :
    placedFrom number items = (chainsFrom number items).flatMap fun place =>
      place.2.mentions.map fun mention => (place.1, mention) := by
  induction items generalizing number with
  | nil => rfl
  | cons item items ih =>
      cases item with
      | chain links => rw [placedFrom, chainsFrom, List.flatMap_cons, ih]
      | block name title chains =>
          rw [placedFrom, chainsFrom, List.flatMap_append, ih, List.flatMap_map, List.map_flatMap]

theorem entriesFrom_eq (number : Nat) (items : List Item) :
    entriesFrom number items = (chainsFrom number items).flatMap fun place =>
      place.2.entries.map fun vertex => (place.1, vertex) := by
  induction items generalizing number with
  | nil => rfl
  | cons item items ih =>
      cases item with
      | chain links => rw [entriesFrom, chainsFrom, List.flatMap_cons, ih]
      | block name title chains =>
          rw [entriesFrom, chainsFrom, List.flatMap_append, ih, List.flatMap_map, List.map_flatMap]

/-- The first entry of an id in chains is that of its first mention. -/
theorem find?_chains {chains : List (Option Nat × Chain)}
    (brackets : (chains.flatMap fun place =>
      place.2.mentions.map fun mention => (place.1, mention)).Pairwise fun earlier later =>
        earlier.2.name.id = later.2.name.id → later.2.bracket = none) (id : String) :
    ((chains.flatMap fun place => place.2.entries.map fun vertex => (place.1, vertex)).find?
        fun entry => entry.2.id == id) =
      ((chains.flatMap fun place => place.2.mentions.map fun mention => (place.1, mention)).find?
        fun place => place.2.name.id == id).map fun place => (place.1, place.2.vertex) := by
  induction chains with
  | nil => rfl
  | cons place chains ih =>
      obtain ⟨number, links⟩ := place
      rw [List.flatMap_cons, List.pairwise_append] at brackets
      have here := links.find?_entries (List.pairwise_map.mp brackets.1) id
      have rest := ih brackets.2.1
      have entry : ((links.entries.map fun vertex => (number, vertex)).find?
          fun entry => entry.2.id == id) =
            (firstMention? links.mentions id).map fun mention => (number, mention.vertex) := by
        rw [List.find?_map]
        refine (congrArg (Option.map fun vertex => (number, vertex)) here).trans ?_
        rw [Option.map_map]
        rfl
      have mention : ((links.mentions.map fun mention => (number, mention)).find?
          fun place => place.2.name.id == id) =
            (firstMention? links.mentions id).map fun mention => (number, mention) := by
        rw [List.find?_map]
        rfl
      rw [List.flatMap_cons, List.flatMap_cons, List.find?_append, List.find?_append, rest, entry,
        mention]
      cases firstMention? links.mentions id <;> rfl

/-- The first mention of an id, with its place. -/
def Diagram.firstPlace? (diagram : Diagram) (id : String) : Option (Option Nat × Mention) :=
  diagram.placed.find? fun place => place.2.name.id == id

theorem Diagram.id_of_firstPlace? {diagram : Diagram} {id : String}
    {place : Option Nat × Mention} (first : diagram.firstPlace? id = some place) :
    place.2.name.id = id := by
  simpa using List.find?_some first

/-- The first entry of an id in a diagram is that of its first mention. -/
theorem Diagram.find?_entries (diagram : Diagram)
    (brackets : diagram.placed.Pairwise fun earlier later =>
      earlier.2.name.id = later.2.name.id → later.2.bracket = none) (id : String) :
    (diagram.entries.find? fun entry => entry.2.id == id) =
      (diagram.firstPlace? id).map fun place => (place.1, place.2.vertex) := by
  rw [Diagram.placed, placedFrom_eq] at brackets
  rw [Diagram.firstPlace?, Diagram.placed, placedFrom_eq, Diagram.entries, entriesFrom_eq]
  exact find?_chains brackets id

/-! ### Vertices of the strict reader -/

theorem lastBody_cons (ref : NodeRef) (refs : List NodeRef) (id : String) :
    Meaning.lastBody (ref :: refs) id =
      (Meaning.lastBody refs id).or (if ref.id = id then ref.body else none) := by
  rw [Meaning.lastBody, List.reverse_cons, List.findSome?_append]
  simp [Meaning.lastBody]

/-- The last brackets of an id stand at its first mention. -/
theorem lastBody_refs {mentions : List Mention} (brackets : BracketsFirst mentions)
    (id : String) :
    Meaning.lastBody (mentions.map Mention.ref) id =
      (firstMention? mentions id).bind fun mention => mention.ref.body := by
  induction mentions with
  | nil => rfl
  | cons mention mentions ih =>
      rw [List.map_cons, lastBody_cons, ih (List.Pairwise.of_cons brackets)]
      by_cases same : mention.name.id = id
      · have unbracketed : ((firstMention? mentions id).bind fun mention => mention.ref.body) =
            none := by
          rw [← same]
          exact brackets.bind_later fun mention bare => by simp [Mention.ref, bare]
        have ref : mention.ref.id = id := same
        rw [firstMention?_of_eq same, unbracketed, if_pos ref]
        rfl
      · have ref : mention.ref.id ≠ id := same
        rw [firstMention?_of_ne same, if_neg ref, Option.or_none]

/-- The vertex of an id is that of its first mention. -/
theorem Diagram.vertex_refs (diagram : Diagram)
    (brackets : diagram.placed.Pairwise fun earlier later =>
      earlier.2.name.id = later.2.name.id → later.2.bracket = none) {id : String}
    {place : Option Nat × Mention} (first : diagram.firstPlace? id = some place) :
    Meaning.vertex diagram.refs id = place.2.vertex := by
  have refs : diagram.refs = (diagram.placed.map Prod.snd).map Mention.ref := by
    rw [List.map_map]
    rfl
  have mention : firstMention? (diagram.placed.map Prod.snd) id = some place.2 := by
    rw [firstMention?, List.find?_map]
    exact congrArg (Option.map Prod.snd) first
  have body := lastBody_refs (List.pairwise_map.mpr brackets) id
  rw [mention, ← refs] at body
  have same := id_of_firstMention? mention
  rw [Meaning.vertex, body]
  obtain ⟨number, name, bracketed⟩ := place
  cases bracketed with
  | none => exact congrArg (fun id => Vertex.mk id none none) same.symm
  | some bracket =>
      exact congrArg (fun id => Vertex.mk id (some (String.ofList bracket.text.text))
        (some bracket.shape.name)) same.symm

end Flowchart.Plain
