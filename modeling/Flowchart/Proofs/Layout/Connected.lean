import Mathlib.Data.List.Nodup
import Mathlib.Data.List.Perm.Lattice
import Mathlib.Logic.Relation
import Flowchart.Layout.Placement

/-!
Connected components.

The walk from an id takes out exactly what edges connect with it, in either direction, so that the
lists of `components` are the classes of connected ids. Each class keeps the order of the ids, and
the classes come in the order of their first members.

Main definitions: `Connected`, `Leads`. Main statements: `mem_unreached`, `exists_root`.
-/

namespace Flowchart.Layout

open Relation (ReflTransGen TransGen)

/-! ### Order among ids -/

/-- One id stands before another one. -/
def Precedes (ids : List String) (id other : String) : Prop :=
  [id, other].Sublist ids

namespace Precedes

variable {ids : List String} {first id other : String}

theorem cons_iff : Precedes (first :: ids) id other ↔
    (id = first ∧ other ∈ ids) ∨ Precedes ids id other := by
  constructor
  · intro before
    cases before with
    | cons _ later => exact Or.inr later
    | cons_cons _ later => exact Or.inl ⟨rfl, List.singleton_sublist.mp later⟩
  · intro split
    rcases split with ⟨same, later⟩ | later
    · subst same
      exact List.Sublist.cons_cons id (List.singleton_sublist.mpr later)
    · exact List.Sublist.cons first later

theorem mem_right (before : Precedes ids id other) : other ∈ ids :=
  List.Sublist.subset before (List.mem_cons_of_mem id List.mem_cons_self)

theorem mono {ids' : List String} (before : Precedes ids id other) (inside : ids.Sublist ids') :
    Precedes ids' id other :=
  List.Sublist.trans before inside

/-- Where no id is repeated, none stands before what stands before it. -/
theorem asymm (distinct : ids.Nodup) (before : Precedes ids id other) :
    ¬ Precedes ids other id := by
  induction ids with
  | nil => cases before
  | cons first ids ih =>
      obtain ⟨single, distinct⟩ := List.nodup_cons.mp distinct
      intro behind
      rcases cons_iff.mp before with ⟨same, member⟩ | inside
      · rcases cons_iff.mp behind with ⟨same', _⟩ | inside'
        · exact single (same' ▸ member)
        · exact single (same ▸ inside'.mem_right)
      · rcases cons_iff.mp behind with ⟨same, _⟩ | inside'
        · exact single (same ▸ inside.mem_right)
        · exact ih distinct inside inside'

/-- Of two ids in a list one precedes the other, unless they are equal. -/
theorem trichotomy (member : id ∈ ids) (member' : other ∈ ids) :
    id = other ∨ Precedes ids id other ∨ Precedes ids other id := by
  induction ids with
  | nil => cases member
  | cons first ids ih =>
      rcases List.mem_cons.mp member with rfl | later
      · rcases List.mem_cons.mp member' with rfl | later'
        · exact Or.inl rfl
        · exact Or.inr (Or.inl (cons_iff.mpr (Or.inl ⟨rfl, later'⟩)))
      · rcases List.mem_cons.mp member' with rfl | later'
        · exact Or.inr (Or.inr (cons_iff.mpr (Or.inl ⟨rfl, later⟩)))
        · rcases ih later later' with same | before | behind
          · exact Or.inl same
          · exact Or.inr (Or.inl (cons_iff.mpr (Or.inr before)))
          · exact Or.inr (Or.inr (cons_iff.mpr (Or.inr behind)))

end Precedes

/-! ### Connected ids -/

/-- Two of the ids are joined by an edge, in either direction. -/
def Joined (ids : List String) (edges : List (String × String)) (id other : String) : Prop :=
  id ∈ ids ∧ other ∈ ids ∧ ((id, other) ∈ edges ∨ (other, id) ∈ edges)

/-- A way along edges leads from one id to another one. -/
def Connected (ids : List String) (edges : List (String × String)) : String → String → Prop :=
  ReflTransGen (Joined ids edges)

/-- An id is the first of those that it is connected with. -/
structure Leads (ids : List String) (edges : List (String × String)) (id : String) : Prop where
  member : id ∈ ids
  first : ∀ other, Connected ids edges id other → ¬ Precedes ids other id

theorem joins_iff {edges : List (String × String)} {id other : String} :
    joins edges id other = true ↔ (id, other) ∈ edges ∨ (other, id) ∈ edges := by
  simp [joins]

variable {ids : List String} {edges : List (String × String)} {id other : String}

theorem Connected.symm (connected : Connected ids edges id other) :
    Connected ids edges other id := by
  have symmetric : Std.Symm (Joined ids edges) :=
    ⟨fun _ _ joined => ⟨joined.2.1, joined.1, joined.2.2.symm⟩⟩
  exact ReflTransGen.stdSymm.symm _ _ connected

/-- What is connected with one of the ids is one of them. -/
theorem Connected.mem (connected : Connected ids edges id other) (member : id ∈ ids) :
    other ∈ ids := by
  induction connected with
  | refl => exact member
  | tail _ joined _ => exact joined.2.1

theorem Connected.mono {ids' : List String} (connected : Connected ids edges id other)
    (inside : ids ⊆ ids') : Connected ids' edges id other :=
  ReflTransGen.mono (fun _ _ joined => ⟨inside joined.1, inside joined.2.1, joined.2.2⟩) _ _
    connected

/-- The proper edges are those between two different ids. -/
theorem mem_properEdges {edge : String × String} : edge ∈ properEdges ids edges ↔
    edge ∈ edges ∧ edge.1 ≠ edge.2 ∧ edge.1 ∈ ids ∧ edge.2 ∈ ids := by
  simp [properEdges, and_assoc]

/-- The edges that are left out connect nothing. -/
theorem connected_properEdges :
    Connected ids (properEdges ids edges) id other ↔ Connected ids edges id other := by
  constructor
  · apply ReflTransGen.mono
    intro id other joined
    simp only [Joined, mem_properEdges] at joined ⊢
    exact ⟨joined.1, joined.2.1, joined.2.2.imp And.left And.left⟩
  · intro connected
    induction connected with
    | refl => exact .refl
    | @tail middle last before joined ih =>
        by_cases same : middle = last
        · exact same ▸ ih
        · refine ih.tail ⟨joined.1, joined.2.1, joined.2.2.imp (fun edge => ?_) fun edge => ?_⟩
          · exact mem_properEdges.mpr ⟨edge, same, joined.1, joined.2.1⟩
          · exact mem_properEdges.mpr ⟨edge, Ne.symm same, joined.2.1, joined.1⟩

theorem leads_properEdges : Leads ids (properEdges ids edges) id ↔ Leads ids edges id := by
  constructor
  · intro leads
    exact ⟨leads.member, fun other connected =>
      leads.first other (connected_properEdges.mpr connected)⟩
  · intro leads
    exact ⟨leads.member, fun other connected =>
      leads.first other (connected_properEdges.mp connected)⟩

/-! ### Walks -/

/-- A step along an edge to one of the ids not seen so far. -/
def Enters (edges : List (String × String)) (unseen : List String) (id other : String) : Prop :=
  joins edges id other = true ∧ other ∈ unseen

theorem unreached_sublist (edges : List (String × String)) (pending unseen : List String) :
    (unreached edges pending unseen).Sublist unseen := by
  fun_induction unreached edges pending unseen with
  | case1 unseen => exact List.Sublist.refl _
  | case2 unseen id pending ih => exact ih.trans List.filter_sublist

/-- The neighbors of an id are the unseen ids that an edge leads to from it. -/
theorem mem_neighbors {unseen : List String} :
    other ∈ neighbors edges id unseen ↔ Enters edges unseen id other := by
  rw [neighbors, List.mem_filter, Enters, and_comm]

theorem mem_strangers {unseen : List String} :
    other ∈ strangers edges id unseen ↔ other ∈ unseen ∧ joins edges id other = false := by
  simp [strangers]

/-- A walk from an id or from pending ones leads to a neighbor of the id, or else from its last
neighbor or from a pending id on along strangers only. -/
theorem neighbor_or_walk {unseen pending : List String} {start : String}
    (pends : start ∈ id :: pending) (walk : TransGen (Enters edges unseen) start other) :
    other ∈ neighbors edges id unseen ∨ ∃ start ∈ neighbors edges id unseen ++ pending,
      TransGen (Enters edges (strangers edges id unseen)) start other := by
  induction walk with
  | @single target step =>
      cases joined : joins edges id target with
      | true => exact Or.inl (mem_neighbors.mpr ⟨joined, step.2⟩)
      | false =>
          have stranger := mem_strangers.mpr ⟨step.2, joined⟩
          rcases List.mem_cons.mp pends with same | pends
          · rw [← same, step.1] at joined
            cases joined
          · exact Or.inr ⟨start, List.mem_append_right _ pends, .single ⟨step.1, stranger⟩⟩
  | @tail middle target before step ih =>
      cases joined : joins edges id target with
      | true => exact Or.inl (mem_neighbors.mpr ⟨joined, step.2⟩)
      | false =>
          have stranger := mem_strangers.mpr ⟨step.2, joined⟩
          rcases ih with neighbor | ⟨start, pends, walk⟩
          · exact Or.inr ⟨middle, List.mem_append_left _ neighbor, .single ⟨step.1, stranger⟩⟩
          · exact Or.inr ⟨start, pends, walk.tail ⟨step.1, stranger⟩⟩

/-- What remains is what no walk from the pending ids enters. -/
theorem mem_unreached {pending unseen : List String} :
    id ∈ unreached edges pending unseen ↔
      id ∈ unseen ∧ ∀ start ∈ pending, ¬ TransGen (Enters edges unseen) start id := by
  fun_induction unreached edges pending unseen generalizing id with
  | case1 unseen => simp
  | case2 unseen next pending ih =>
      have fewer : ∀ start, TransGen (Enters edges (strangers edges next unseen)) start id →
          TransGen (Enters edges unseen) start id := by
        intro start walk
        exact TransGen.mono (fun _ _ step => ⟨step.1, (mem_strangers.mp step.2).1⟩) _ _ walk
      rw [ih]
      constructor
      · rintro ⟨stranger, unreachable⟩
        obtain ⟨unseen_id, apart⟩ := mem_strangers.mp stranger
        refine ⟨unseen_id, fun start pends walk => ?_⟩
        rcases neighbor_or_walk pends walk with neighbor | ⟨start, pends, walk⟩
        · rw [(mem_neighbors.mp neighbor).1] at apart
          cases apart
        · exact unreachable start pends walk
      · rintro ⟨unseen_id, unreachable⟩
        have apart : joins edges next id = false := by
          by_contra joined
          apply unreachable next List.mem_cons_self
          exact .single ⟨by simpa using joined, unseen_id⟩
        refine ⟨mem_strangers.mpr ⟨unseen_id, apart⟩, fun start pends walk => ?_⟩
        rcases List.mem_append.mp pends with neighbor | pends
        · apply unreachable next List.mem_cons_self
          exact .head (mem_neighbors.mp neighbor) (fewer start walk)
        · exact unreachable start (List.mem_cons_of_mem next pends) (fewer start walk)

/-- From the first id, ways are walks. -/
theorem connected_root_iff {others : List String} {root : String} :
    Connected (root :: others) edges root id ↔
      id = root ∨ TransGen (Enters edges others) root id := by
  constructor
  · intro connected
    induction connected with
    | refl => exact Or.inl rfl
    | @tail middle last before joined ih =>
        rcases List.mem_cons.mp joined.2.1 with same | later
        · exact Or.inl same
        · have step : Enters edges others middle last := ⟨joins_iff.mpr joined.2.2, later⟩
          rcases ih with same | walk
          · exact Or.inr (.single (same ▸ step))
          · exact Or.inr (walk.tail step)
  · intro walks
    rcases walks with same | walk
    · exact same ▸ .refl
    · induction walk with
      | single step =>
          exact .single ⟨List.mem_cons_self, List.mem_cons_of_mem _ step.2, joins_iff.mp step.1⟩
      | tail before step ih =>
          exact ih.tail ⟨ih.mem List.mem_cons_self, List.mem_cons_of_mem _ step.2,
            joins_iff.mp step.1⟩

/-- What remains after the walk from the first id is what is not connected with it. -/
theorem mem_unreached_root {others : List String} {root : String} (fresh : root ∉ others) :
    id ∈ unreached edges [root] others ↔
      id ∈ root :: others ∧ ¬ Connected (root :: others) edges root id := by
  rw [mem_unreached, List.forall_mem_singleton, connected_root_iff, not_or, List.mem_cons]
  constructor
  · rintro ⟨later, unreachable⟩
    exact ⟨Or.inr later, fun same => fresh (same ▸ later), unreachable⟩
  · rintro ⟨member, differs, unreachable⟩
    exact ⟨member.resolve_left differs, unreachable⟩

/-- What is connected with an id that remains remains too. -/
theorem connected_unreached {others : List String} {root : String} (fresh : root ∉ others)
    (member : id ∈ unreached edges [root] others)
    (connected : Connected (root :: others) edges id other) :
    Connected (unreached edges [root] others) edges id other := by
  induction connected with
  | refl => exact .refl
  | @tail middle last before joined ih =>
      have middle_remains : middle ∈ unreached edges [root] others := ih.mem member
      have last_remains : last ∈ unreached edges [root] others := by
        refine (mem_unreached_root fresh).mpr ⟨joined.2.1, fun reached => ?_⟩
        apply ((mem_unreached_root fresh).mp middle_remains).2
        exact reached.tail ⟨joined.2.1, joined.1, joined.2.2.symm⟩
      exact ih.tail ⟨middle_remains, last_remains, joined.2.2⟩

/-! ### Components -/

/-- The ids of a component stand in the order in which they are listed. -/
theorem sublist_of_mem_components {component : List String}
    (listed : component ∈ components edges ids) : component.Sublist ids := by
  fun_induction components edges ids with
  | case1 => cases listed
  | case2 root others left ih =>
      rcases List.mem_cons.mp listed with rfl | later
      · exact List.Sublist.cons_cons root List.filter_sublist
      · exact ((ih later).trans (unreached_sublist edges [root] others)).cons root

/-- A component holds what is connected with its first member. -/
theorem exists_root (distinct : ids.Nodup) {component : List String}
    (listed : component ∈ components edges ids) :
    ∃ root rest, component = root :: rest ∧ ∀ id, id ∈ component ↔ Connected ids edges root id := by
  fun_induction components edges ids with
  | case1 => cases listed
  | case2 root others left ih =>
      obtain ⟨fresh, distinct⟩ := List.nodup_cons.mp distinct
      have fewer : left.Sublist others := unreached_sublist edges [root] others
      rcases List.mem_cons.mp listed with rfl | later
      · refine ⟨root, _, rfl, fun id => ⟨fun member => ?_, fun connected => ?_⟩⟩
        · rcases List.mem_cons.mp member with rfl | kept
          · exact .refl
          · obtain ⟨later, gone⟩ := List.mem_filter.mp kept
            by_contra apart
            have remains : id ∈ left :=
              (mem_unreached_root fresh).mpr ⟨List.mem_cons_of_mem root later, apart⟩
            simp [remains] at gone
        · have gone : id ∉ left := fun remains =>
            ((mem_unreached_root fresh).mp remains).2 connected
          rcases List.mem_cons.mp (connected.mem List.mem_cons_self) with rfl | later
          · exact List.mem_cons_self
          · refine List.mem_cons_of_mem root (List.mem_filter.mpr ⟨later, ?_⟩)
            simpa using gone
      · obtain ⟨first, rest, rfl, members⟩ := ih (fewer.nodup distinct) later
        refine ⟨first, rest, rfl, fun id => ?_⟩
        rw [members]
        have remains : first ∈ left := (sublist_of_mem_components later).subset List.mem_cons_self
        constructor
        · intro connected
          exact connected.mono fun id inside => List.mem_cons_of_mem root (fewer.subset inside)
        · exact connected_unreached fresh remains

/-- Components come in the order of their first members. -/
theorem pairwise_components (edges : List (String × String)) (ids : List String) :
    (components edges ids).Pairwise fun component later =>
      ∀ first ∈ component.head?, ∀ second ∈ later.head?, Precedes ids first second := by
  fun_induction components edges ids with
  | case1 => exact .nil
  | case2 root others left ih =>
      have fewer : left.Sublist others := unreached_sublist edges [root] others
      refine .cons (fun later listed => ?_) (ih.imp fun {component later} ordered => ?_)
      · rintro first ⟨⟩ second isSecond
        apply Precedes.cons_iff.mpr
        have member := (sublist_of_mem_components listed).subset (List.mem_of_mem_head? isSecond)
        exact Or.inl ⟨rfl, fewer.subset member⟩
      · intro first isFirst second isSecond
        exact (ordered first isFirst second isSecond).mono (fewer.cons root)

/-- Every id is in one component, once. -/
theorem perm_flatten_components (edges : List (String × String)) (distinct : ids.Nodup) :
    (components edges ids).flatten.Perm ids := by
  fun_induction components edges ids with
  | case1 => exact List.Perm.refl _
  | case2 root others left ih =>
      obtain ⟨-, distinct⟩ := List.nodup_cons.mp distinct
      have fewer : left.Sublist others := unreached_sublist edges [root] others
      have remaining : (others.filter fun id => left.contains id).Perm left := by
        apply (List.perm_ext_iff_of_nodup (distinct.filter _) (fewer.nodup distinct)).mpr
        intro id
        rw [List.mem_filter, List.contains_iff_mem]
        exact ⟨And.right, fun remains => ⟨fewer.subset remains, remains⟩⟩
      rw [List.flatten_cons, List.cons_append]
      apply List.Perm.cons
      have parted := List.filter_append_perm (fun id => left.contains id) others
      refine (List.perm_append_comm.trans ?_).trans parted
      exact ((ih (fewer.nodup distinct)).trans remaining.symm).append_right _

/-! ### First members -/

/-- The first member of a component comes before all that it is connected with. -/
theorem leads_root (distinct : ids.Nodup) {root : String} {rest : List String}
    (listed : root :: rest ∈ components edges ids) : Leads ids edges root := by
  have inOrder := sublist_of_mem_components listed
  obtain ⟨_, _, same, members⟩ := exists_root distinct listed
  cases same
  refine ⟨inOrder.subset List.mem_cons_self, fun other connected before => ?_⟩
  rcases List.mem_cons.mp ((members other).mpr connected) with rfl | later
  · exact before.asymm distinct before
  · have behind : Precedes ids root other :=
      (List.Sublist.cons_cons root (List.singleton_sublist.mpr later)).trans inOrder
    exact before.asymm distinct behind

/-- Connected ids that are both first are the same. -/
theorem Leads.unique {first : String} (leads : Leads ids edges first) (leads' : Leads ids edges id)
    (connected : Connected ids edges first id) : first = id := by
  rcases Precedes.trichotomy leads.member leads'.member with same | before | behind
  · exact same
  · exact absurd before (leads'.first first connected.symm)
  · exact absurd behind (leads.first id connected)

/-- Each id is connected with a first one. -/
theorem exists_leads (distinct : ids.Nodup) (member : id ∈ ids) :
    ∃ rest first, first :: rest ∈ components edges ids ∧ Leads ids edges first ∧
      Connected ids edges first id := by
  have inside := (perm_flatten_components edges distinct).mem_iff.mpr member
  obtain ⟨component, listed, inComponent⟩ := List.mem_flatten.mp inside
  obtain ⟨root, rest, rfl, members⟩ := exists_root distinct listed
  exact ⟨rest, root, listed, leads_root distinct listed, (members id).mp inComponent⟩

/-- Each first id has a component. -/
theorem Leads.exists_component (distinct : ids.Nodup) (leads : Leads ids edges id) :
    ∃ rest, id :: rest ∈ components edges ids := by
  obtain ⟨rest, first, listed, leads', connected⟩ := exists_leads distinct leads.member
  exact ⟨rest, leads'.unique leads connected ▸ listed⟩

/-- The components of two first ids come in the order of the ids, and so do those in between. -/
theorem components_split (distinct : ids.Nodup) {first second : String}
    (leads : Leads ids edges first) (leads' : Leads ids edges second)
    (before : Precedes ids first second) :
    ∃ front rest between rest' back,
      components edges ids = front ++ (first :: rest) :: (between ++ (second :: rest') :: back) ∧
      ∀ component ∈ between, ∃ middle, Leads ids edges middle ∧ Precedes ids first middle ∧
        Precedes ids middle second := by
  obtain ⟨rest, listed⟩ := leads.exists_component distinct
  obtain ⟨rest', listed'⟩ := leads'.exists_component distinct
  have ordered := pairwise_components edges ids
  obtain ⟨front, tail, split⟩ := List.append_of_mem listed
  rw [split, List.pairwise_append, List.pairwise_cons] at ordered
  obtain ⟨-, ⟨toTail, inTail⟩, fromFront⟩ := ordered
  rw [split, List.mem_append, List.mem_cons] at listed'
  rcases listed' with inFront | same | later
  · have behind := fromFront _ inFront _ List.mem_cons_self second rfl first rfl
    exact absurd behind (before.asymm distinct)
  · have same_id : second = first := List.head_eq_of_cons_eq same
    rw [same_id] at before
    exact absurd before (before.asymm distinct)
  · obtain ⟨between, back, rfl⟩ := List.append_of_mem later
    refine ⟨front, rest, between, rest', back, split, fun component inside => ?_⟩
    have member : component ∈ components edges ids := by
      rw [split]
      exact List.mem_append_right front
        (List.mem_cons_of_mem _ (List.mem_append_left _ inside))
    obtain ⟨middle, others, rfl, -⟩ := exists_root distinct member
    refine ⟨middle, leads_root distinct member, ?_, ?_⟩
    · exact toTail _ (List.mem_append_left _ inside) first rfl middle rfl
    · have across := (List.pairwise_append.mp inTail).2.2
      exact across _ inside _ List.mem_cons_self middle rfl second rfl

end Flowchart.Layout
