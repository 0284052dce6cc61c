import Flowchart.Proofs.Plain.Strict

/-!
What the statements of a plain diagram mean, read off the diagram itself.

Main statement: `meaning_statements`.
-/

namespace Flowchart.Plain

open Flowchart.Statement

/-! ### Mentions and arcs -/

/-- The statement of a chain mentions the nodes of the chain, in their order. -/
theorem Chain.mentions_statement (links : Chain) :
    links.statement.mentions = links.mentions.map Mention.ref := by
  have targets : ∀ steps : List Step,
      (steps.map Step.hop).flatMap Hop.targets = (steps.map Step.target).map Mention.ref := by
    intro steps
    induction steps with
    | nil => rfl
    | cons step steps ih =>
        rw [List.map_cons, List.flatMap_cons, ih]
        rfl
  rw [Chain.statement, Statement.mentions, targets, Chain.mentions, List.map_cons]
  rfl

/-- The statement of a chain makes the arcs of the chain. -/
theorem Chain.arcs_statement (links : Chain) : links.statement.arcs = links.arcs := by
  have along : ∀ (steps : List Step) (source : Mention),
      chainArcs [source.ref] (steps.map Step.hop) = arcsFrom source steps := by
    intro steps
    induction steps with
    | nil =>
        intro source
        rfl
    | cons step steps ih =>
        intro source
        rw [List.map_cons, Loading.chainArcs_cons]
        exact congrArg (_ :: ·) (ih step.target)
  exact along links.steps links.first

/-- The arcs of items, in order. -/
def arcsOf (items : List Item) : List Arc :=
  items.flatMap fun item => item.chains.flatMap Chain.arcs

theorem flatMap_arcs_chains (chains : List Chain) :
    (chains.map Chain.statement).flatMap Statement.arcs = chains.flatMap Chain.arcs := by
  rw [List.flatMap_map]
  exact List.flatMap_congr fun links _ => links.arcs_statement

/-- All statements of some items together make the arcs of the items. -/
theorem flatMap_arcs_statements (items : List Item) :
    (items.flatMap Item.statements).flatMap Statement.arcs = arcsOf items := by
  rw [List.flatMap_assoc, arcsOf]
  refine List.flatMap_congr fun item _ => ?_
  cases item with
  | chain links => exact flatMap_arcs_chains [links]
  | block name title chains =>
      rw [Item.statements, List.flatMap_cons, List.flatMap_append, flatMap_arcs_chains]
      simp [Statement.arcs, Item.chains]

/-! ### Blocks -/

/-- Chains have no bearing on which blocks are open. -/
theorem lastOpen_chains (waiting : Nat) (chains : List Chain) (earlier : List Statement) :
    Meaning.lastOpen waiting ((chains.map Chain.statement).reverse ++ earlier) =
      Meaning.lastOpen waiting earlier := by
  rw [← List.map_reverse]
  induction chains.reverse with
  | nil => rfl
  | cons links chains ih =>
      rw [← ih]
      cases waiting <;> rfl

/-- A chain leaves the innermost open block as it is. -/
theorem innermost_chains (before : List Statement) (chains : List Chain) :
    Meaning.innermost (before ++ chains.map Chain.statement) = Meaning.innermost before := by
  rw [Meaning.innermost, List.reverse_append, lastOpen_chains]
  rfl

/-- A block that has just been opened is the innermost one. -/
theorem innermost_blockStart (before : List Statement) (id title : Option String) :
    Meaning.innermost (before ++ [.blockStart id title]) =
      some (Meaning.openings before).length := by
  rw [Meaning.innermost, List.reverse_append]
  simp [Meaning.lastOpen, Meaning.openings]

/-- A block that has been closed again leaves open what was open before. -/
theorem innermost_item (before : List Statement) (item : Item) :
    Meaning.innermost (before ++ item.statements) = Meaning.innermost before := by
  cases item with
  | chain links => exact innermost_chains before [links]
  | block name title chains =>
      rw [Meaning.innermost, Item.statements, List.reverse_append, List.reverse_cons,
        List.reverse_append]
      simp only [List.reverse_cons, List.reverse_nil, List.nil_append, List.append_assoc,
        List.cons_append]
      rw [Meaning.lastOpen, lastOpen_chains]
      rfl

theorem openings_chains (chains : List Chain) :
    Meaning.openings (chains.map Chain.statement) = [] := by
  simp [Meaning.openings, Chain.statement, Statement.opening?]

/-- The openings of items as the strict reader finds them. -/
def openingsOf (items : List Item) : List (Option String × Option String) :=
  (items.filterMap Item.opening?).map fun opening =>
    (some opening.1.id, opening.2.map fun title => String.ofList title.text)

/-- The statements of an item open the block of the item, if it is one. -/
theorem openings_item (item : Item) : Meaning.openings item.statements = openingsOf [item] := by
  cases item with
  | chain links => exact openings_chains [links]
  | block name title chains =>
      have inside := openings_chains chains
      rw [Meaning.openings] at inside ⊢
      rw [Item.statements, List.filterMap_cons]
      simp [Statement.opening?, inside, openingsOf, Item.opening?]

/-- The statements of some items open their blocks, in this order. -/
theorem openings_items (items : List Item) :
    Meaning.openings (items.flatMap Item.statements) = openingsOf items := by
  induction items with
  | nil => rfl
  | cons item items ih =>
      rw [List.flatMap_cons, Meaning.openings_append, ih, openings_item]
      cases item <;> rfl

/-! ### Places -/

/-- Where a statement stands depends on everything in front of it, also across two parts of a
source. -/
theorem placed_append_list (start before after : List Statement) :
    Meaning.placed start (before ++ after) =
      Meaning.placed start before ++ Meaning.placed (start ++ before) after := by
  induction before generalizing start with
  | nil => simp [Meaning.placed]
  | cons statement before ih => simp [Meaning.placed, ih, List.append_assoc]

/-- The ids of nodes, each with its place. -/
def idsAt (place : Option Nat) (mentions : List Mention) : List (Option Nat × String) :=
  mentions.map fun mention => (place, mention.name.id)

/-- The nodes of chains stand in the block that is open before the first of them. -/
theorem placed_chains (before : List Statement) (chains : List Chain) :
    Meaning.placed before (chains.map Chain.statement) =
      idsAt (Meaning.innermost before) (chains.flatMap Chain.mentions) := by
  induction chains generalizing before with
  | nil => rfl
  | cons links chains ih =>
      have same := innermost_chains before [links]
      rw [List.map_singleton] at same
      rw [List.map_cons, Meaning.placed, ih, same, links.mentions_statement, List.map_map,
        List.flatMap_cons, idsAt, idsAt, List.map_append]
      rfl

/-- The nodes of items that stand after balanced statements. -/
theorem placed_items (before : List Statement) (items : List Item)
    (closed : Meaning.innermost before = none) :
    Meaning.placed before (items.flatMap Item.statements) =
      (placedFrom (Meaning.openings before).length items).map
        fun place => (place.1, place.2.name.id) := by
  induction items generalizing before with
  | nil => rfl
  | cons item items ih =>
      have rest := ih (before ++ item.statements) ((innermost_item before item).trans closed)
      rw [Meaning.openings_append, openings_item] at rest
      rw [List.flatMap_cons, placed_append_list, rest]
      cases item with
      | chain links =>
          have here := placed_chains before [links]
          rw [closed, List.flatMap_cons, List.flatMap_nil, List.append_nil] at here
          have same : (Meaning.openings before ++ openingsOf [Item.chain links]).length =
              (Meaning.openings before).length := by
            simp [openingsOf, Item.opening?]
          rw [Item.statements, ← List.map_singleton, here, same, placedFrom, List.map_append,
            List.map_map]
          rfl
      | block name title chains =>
          have opened := innermost_blockStart before (some name.id)
            (title.map fun title => String.ofList title.text)
          have here := placed_chains (before ++ [.blockStart (some name.id)
            (title.map fun title => String.ofList title.text)]) chains
          rw [opened] at here
          rw [Item.statements, Meaning.placed, placed_append_list, here, placedFrom,
            List.map_append, List.map_map]
          simp [Meaning.placed, Statement.mentions, idsAt, openingsOf, Item.opening?]

theorem mentions_chains (chains : List Chain) :
    Meaning.mentions (chains.map Chain.statement) =
      (chains.flatMap Chain.mentions).map Mention.ref := by
  rw [Meaning.mentions, List.flatMap_map, List.map_flatMap]
  exact List.flatMap_congr fun links _ => links.mentions_statement

/-- The nodes that the statements of some items mention, with the blocks that are open there, are
the places of the items. -/
theorem mentions_items (number : Nat) (items : List Item) :
    Meaning.mentions (items.flatMap Item.statements) =
      (placedFrom number items).map fun place => place.2.ref := by
  induction items generalizing number with
  | nil => rfl
  | cons item items ih =>
      rw [List.flatMap_cons, Meaning.mentions_append]
      cases item with
      | chain links =>
          have here := mentions_chains [links]
          rw [List.flatMap_cons, List.flatMap_nil, List.append_nil] at here
          rw [Item.statements, ← List.map_singleton, here, ih number, placedFrom, List.map_append,
            List.map_map]
          rfl
      | block name title chains =>
          have here := mentions_chains chains
          rw [Meaning.mentions] at here
          rw [ih (number + 1), placedFrom, List.map_append, List.map_map, Item.statements,
            Meaning.mentions, List.flatMap_cons, List.flatMap_append, here]
          simp [Statement.mentions]

/-! ### The meaning of a diagram -/

/-- The block of a number, whose members are the ids mentioned in it. -/
def Diagram.strictBlock (diagram : Diagram) (number : Nat) (opening : Name × Option Phrase) :
    Block where
  id := opening.1.id
  title := some ((opening.2.map fun title => String.ofList title.text).getD opening.1.id)
  members := Meaning.members (diagram.placed.map fun place => (place.1, place.2.name.id)) number

/-- The blocks that a diagram opens. -/
def Diagram.openings (diagram : Diagram) : List (Name × Option Phrase) :=
  diagram.items.filterMap Item.opening?

/-- The nodes of a diagram as the strict reader finds them. -/
def Diagram.refs (diagram : Diagram) : List NodeRef :=
  diagram.placed.map fun place => place.2.ref

/-- The draft of a plain diagram, as the strict reader finds it. -/
def Diagram.strictDraft (diagram : Diagram) : Draft where
  direction := some diagram.direction
  vertices := (Meaning.ids diagram.refs).map (Meaning.vertex diagram.refs)
  arcs := arcsOf diagram.items
  blocks := diagram.openings.mapIdx diagram.strictBlock

/-- The block that the meaning gives for an opening is the one that the strict draft has. -/
theorem block_opening (diagram : Diagram) (number : Nat) (opening : Name × Option Phrase) :
    Meaning.block (diagram.placed.map fun place => (place.1, place.2.name.id)) number
      (some opening.1.id, opening.2.map fun title => String.ofList title.text) =
        diagram.strictBlock number opening := by
  have title : ((opening.2.map fun title => String.ofList title.text).filter
      fun title => !title.isEmpty) = opening.2.map fun title => String.ofList title.text := by
    cases opening.2 with
    | none => rfl
    | some title => simp [title.isEmpty]
  rw [Meaning.block, title]
  rfl

/-- The meaning of the statements of a plain diagram is its strict draft. -/
theorem meaning_statements (diagram : Diagram) :
    Draft.meaning diagram.statements = diagram.strictDraft := by
  have mentions : Meaning.mentions diagram.statements = diagram.refs :=
    mentions_items 0 diagram.items
  have placed : Meaning.placed [] diagram.statements =
      diagram.placed.map fun place => (place.1, place.2.name.id) :=
    placed_items [.header (some diagram.direction)] diagram.items rfl
  have openings : Meaning.openings diagram.statements = openingsOf diagram.items :=
    openings_items diagram.items
  have arcs : diagram.statements.flatMap Statement.arcs = arcsOf diagram.items :=
    flatMap_arcs_statements diagram.items
  have blocks : (openingsOf diagram.items).mapIdx
      (Meaning.block (diagram.placed.map fun place => (place.1, place.2.name.id))) =
        diagram.openings.mapIdx diagram.strictBlock := by
    rw [List.mapIdx_eq_iff]
    intro number
    rw [openingsOf, List.getElem?_mapIdx, List.getElem?_map, Option.map_map]
    apply Option.map_congr
    intro opening _
    exact (block_opening diagram number opening).symm
  rw [Draft.meaning, mentions, placed, openings, arcs, blocks]
  rfl

end Flowchart.Plain
