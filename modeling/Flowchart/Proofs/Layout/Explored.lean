import Mathlib.Data.List.Nodup
import Mathlib.Data.List.Perm.Lattice
import Flowchart.Proofs.Distinct
import Flowchart.Proofs.Layout.Connected
import Flowchart.Proofs.Sorted

/-!
Connected components by depth-first search.

A search keeps a stack. It pops one id at a time and pushes the far ends of its edges, as far as
they have not been seen: an id is pushed once, however many edges lead to it. The ids that are
popped from a root are those that it is connected with, and the searches from several roots share
what they have seen.

Each pop uses up one of the ids that are on the stack, or at the end of an edge and not seen, so
that the stack runs empty.

Main definitions: `Search`, `explore`. Main statements: `Search.remaining_of_step?`,
`Search.run_pops`, `explore_eq`, `components_classes`.
-/

namespace Flowchart.Layout

/-! ### Searches -/

/-- A search under way: the ids that have been seen, those on the stack with its top first, and
those that have been popped. -/
structure Search where
  seen : List String
  stack : List String
  popped : List String

/-- The other ends of the edges of an id, edge by edge. -/
def farEnds (edges : List (String × String)) (id : String) : List String :=
  edges.flatMap fun edge =>
    (if edge.1 = id then [edge.2] else []) ++ if edge.2 = id then [edge.1] else []

/-- Push an id, unless it has been seen. -/
def Search.push (search : Search) (id : String) : Search :=
  if search.seen.contains id then search
  else { search with seen := id :: search.seen, stack := id :: search.stack }

/-- Pop an id and push the far ends of its edges. There is no step when the stack is empty. -/
def Search.step? (edges : List (String × String)) (search : Search) : Option Search :=
  match search.stack with
  | [] => none
  | id :: stack =>
    some ((farEnds edges id).foldl Search.push
      { search with stack := stack, popped := search.popped ++ [id] })

/-- A search that begins at a root, where some ids have been seen before. -/
def Search.start (before : List String) (root : String) : Search :=
  ⟨root :: before, [root], []⟩

theorem mem_farEnds {edges : List (String × String)} {id other : String} :
    other ∈ farEnds edges id ↔ (id, other) ∈ edges ∨ (other, id) ∈ edges := by
  simp only [farEnds, List.mem_flatMap, List.mem_append, List.mem_ite_nil_right,
    List.mem_singleton, Prod.exists]
  constructor
  · rintro ⟨source, target, listed, ⟨rfl, rfl⟩ | ⟨rfl, rfl⟩⟩
    · exact Or.inl listed
    · exact Or.inr listed
  · rintro (listed | listed)
    · exact ⟨id, other, listed, Or.inl ⟨rfl, rfl⟩⟩
    · exact ⟨other, id, listed, Or.inr ⟨rfl, rfl⟩⟩

namespace Search

variable {edges : List (String × String)} {search next : Search} {id : String}

/-- Pushing several ids pushes those that are new, each once. -/
theorem foldl_push (others : List String) (search : Search) :
    ∃ new : List String, new.Nodup ∧
      (∀ id, id ∈ new ↔ id ∈ others ∧ id ∉ search.seen) ∧
      others.foldl push search =
        { search with seen := new ++ search.seen, stack := new ++ search.stack } := by
  induction others generalizing search with
  | nil => exact ⟨[], List.nodup_nil, by simp, rfl⟩
  | cons first others ih =>
      by_cases known : first ∈ search.seen
      · have same : search.push first = search := by simp [push, known]
        obtain ⟨new, distinct, members, pushed⟩ := ih search
        refine ⟨new, distinct, fun id => ?_, by rw [List.foldl_cons, same, pushed]⟩
        rw [members, List.mem_cons]
        constructor
        · exact fun ⟨later, fresh⟩ => ⟨Or.inr later, fresh⟩
        · rintro ⟨rfl | later, fresh⟩
          · exact absurd known fresh
          · exact ⟨later, fresh⟩
      · have here : search.push first =
            { search with seen := first :: search.seen, stack := first :: search.stack } := by
          simp [push, known]
        obtain ⟨new, distinct, members, pushed⟩ := ih (search.push first)
        rw [here] at members pushed
        refine ⟨new ++ [first], ?_, fun id => ?_, by rw [List.foldl_cons, here, pushed]; simp⟩
        · have absent : first ∉ new := fun inside => ((members first).mp inside).2 (by simp)
          rw [← List.concat_eq_append]
          exact distinct.concat absent
        · rw [List.mem_append, List.mem_singleton, members, List.mem_cons, List.mem_cons, not_or]
          constructor
          · rintro (⟨later, -, fresh⟩ | rfl)
            · exact ⟨Or.inr later, fresh⟩
            · exact ⟨Or.inl rfl, known⟩
          · rintro ⟨rfl | later, fresh⟩
            · exact Or.inr rfl
            · by_cases same : id = first
              · exact Or.inr same
              · exact Or.inl ⟨later, same, fresh⟩

/-- All that a step does: it pops the top of the stack and pushes the far ends that are new. -/
theorem step?_eq_some (stepped : search.step? edges = some next) :
    ∃ id stack new, search.stack = id :: stack ∧ new.Nodup ∧
      (∀ other, other ∈ new ↔ other ∈ farEnds edges id ∧ other ∉ search.seen) ∧
      next = ⟨new ++ search.seen, new ++ stack, search.popped ++ [id]⟩ := by
  rw [step?] at stepped
  split at stepped
  case h_1 => cases stepped
  case h_2 id stack isStack =>
    obtain ⟨new, distinct, members, pushed⟩ := foldl_push (farEnds edges id)
      { search with stack := stack, popped := search.popped ++ [id] }
    refine ⟨id, stack, new, isStack, distinct, members, ?_⟩
    rw [pushed] at stepped
    exact (Option.some.inj stepped).symm

theorem step?_eq_none : search.step? edges = none ↔ search.stack = [] := by
  rw [step?]
  split
  case h_1 empty => simp [empty]
  case h_2 filled => simp [filled]

/-! ### The stack runs empty -/

/-- The ends of edges that have not been seen. -/
def unseen (edges : List (String × String)) (search : Search) : List String :=
  (edges.flatMap fun edge => [edge.1, edge.2]).eraseDups.filter fun id =>
    !search.seen.contains id

/-- How many ids there are to pop at most: those on the stack, and the ends of edges that have not
been seen. -/
def remaining (edges : List (String × String)) (search : Search) : Nat :=
  search.stack.length + (search.unseen edges).length

theorem mem_unseen : id ∈ search.unseen edges ↔
    (∃ edge ∈ edges, id = edge.1 ∨ id = edge.2) ∧ id ∉ search.seen := by
  simp [unseen, List.mem_filter, List.mem_eraseDups]

theorem nodup_unseen (edges : List (String × String)) (search : Search) :
    (search.unseen edges).Nodup :=
  (nodup_eraseDups _).filter _

/-- What is pushed was not seen before, and is seen after. -/
theorem perm_unseen {new : List String} (distinct : new.Nodup)
    (fresh : ∀ id ∈ new, id ∈ search.unseen edges) (sees : next.seen = new ++ search.seen) :
    (new ++ next.unseen edges).Perm (search.unseen edges) := by
  have apart : (new ++ next.unseen edges).Nodup := by
    rw [List.nodup_append]
    refine ⟨distinct, nodup_unseen edges next, ?_⟩
    rintro id isNew _ later rfl
    have absent := (mem_unseen.mp later).2
    rw [sees] at absent
    exact absent (List.mem_append_left _ isNew)
  rw [List.perm_ext_iff_of_nodup apart (nodup_unseen edges search)]
  intro id
  rw [List.mem_append]
  constructor
  · rintro (isNew | later)
    · exact fresh id isNew
    · obtain ⟨isEnd, absent⟩ := mem_unseen.mp later
      rw [sees, List.mem_append, not_or] at absent
      exact mem_unseen.mpr ⟨isEnd, absent.2⟩
  · intro before
    obtain ⟨isEnd, absent⟩ := mem_unseen.mp before
    by_cases isNew : id ∈ new
    · exact Or.inl isNew
    · refine Or.inr (mem_unseen.mpr ⟨isEnd, ?_⟩)
      rw [sees, List.mem_append, not_or]
      exact ⟨isNew, absent⟩

/-- Each step uses up one of the ids that there are to pop. -/
theorem remaining_of_step? (stepped : search.step? edges = some next) :
    next.remaining edges + 1 = search.remaining edges := by
  obtain ⟨id, stack, new, isStack, distinct, members, isNext⟩ := step?_eq_some stepped
  have fresh : ∀ other ∈ new, other ∈ search.unseen edges := by
    intro other isNew
    obtain ⟨isFarEnd, absent⟩ := (members other).mp isNew
    rcases mem_farEnds.mp isFarEnd with listed | listed
    · exact mem_unseen.mpr ⟨⟨_, listed, Or.inr rfl⟩, absent⟩
    · exact mem_unseen.mpr ⟨⟨_, listed, Or.inl rfl⟩, absent⟩
  have counted := (perm_unseen distinct fresh (congrArg seen isNext)).length_eq
  have stacked : next.stack.length = new.length + stack.length := by
    rw [isNext, List.length_append]
  rw [List.length_append] at counted
  rw [remaining, remaining, stacked, isStack, List.length_cons]
  omega

/-- No search goes on forever, from whatever state. -/
theorem wellFounded_step? (edges : List (String × String)) :
    WellFounded fun next search : Search => search.step? edges = some next := by
  apply Subrelation.wf (r := fun next search => next.remaining edges < search.remaining edges)
  · intro next search stepped
    have used := remaining_of_step? stepped
    omega
  · exact (measure (remaining edges)).wf

/-- A search that goes on until the stack is empty. -/
def run (edges : List (String × String)) (search : Search) : Search :=
  match _stepped : search.step? edges with
  | none => search
  | some next => run edges next
termination_by search.remaining edges
decreasing_by
  have used := remaining_of_step? _stepped
  omega

/-! ### What a search finds -/

/-- What holds of a search from a root at any time. -/
structure Explores (ids : List String) (edges : List (String × String)) (before : List String)
    (root : String) (search : Search) : Prop where
  seen : ∀ id, id ∈ search.seen ↔ id ∈ before ∨ id ∈ search.popped ++ search.stack
  rooted : root ∈ search.popped ++ search.stack
  distinct : (search.popped ++ search.stack).Nodup
  reached : ∀ id ∈ search.popped ++ search.stack, Connected ids edges root id
  closed : ∀ id ∈ search.popped, ∀ other ∈ farEnds edges id, other ∈ search.seen

variable {ids before : List String} {root : String}

theorem explores_start (ids : List String) (edges : List (String × String)) (before : List String)
    (root : String) : Explores ids edges before root (start before root) where
  seen id := by simp [start, or_comm]
  rooted := by simp [start]
  distinct := List.nodup_singleton root
  reached := by
    intro id isRoot
    rw [List.mem_singleton.mp isRoot]
    exact .refl
  closed := by simp [start]

/-- A step keeps to the ids that the root is connected with. -/
theorem Explores.step (inside : ∀ edge ∈ edges, edge.1 ∈ ids ∧ edge.2 ∈ ids)
    (explores : Explores ids edges before root search)
    (stepped : search.step? edges = some next) : Explores ids edges before root next := by
  obtain ⟨id, stack, new, isStack, distinct, members, rfl⟩ := step?_eq_some stepped
  have moved : (search.popped ++ [id] ++ (new ++ stack)).Perm
      (new ++ (search.popped ++ search.stack)) := by
    have exchanged := List.perm_append_comm_assoc (search.popped ++ [id]) new stack
    rwa [@List.append_assoc _ search.popped [id] stack, List.singleton_append, ← isStack]
      at exchanged
  have mem : ∀ other, other ∈ search.popped ++ [id] ++ (new ++ stack) ↔
      other ∈ new ∨ other ∈ search.popped ++ search.stack := by
    intro other
    rw [moved.mem_iff, List.mem_append]
  have here : id ∈ search.popped ++ search.stack := by simp [isStack]
  constructor
  case seen =>
    intro other
    rw [mem, List.mem_append, explores.seen]
    exact or_left_comm
  case rooted => exact (mem root).mpr (Or.inr explores.rooted)
  case distinct =>
    rw [moved.nodup_iff, List.nodup_append]
    refine ⟨distinct, explores.distinct, ?_⟩
    rintro other isNew _ old rfl
    exact ((members other).mp isNew).2 ((explores.seen other).mpr (Or.inr old))
  case reached =>
    intro other found
    rcases (mem other).mp found with isNew | old
    · have joined := mem_farEnds.mp ((members other).mp isNew).1
      have ends : id ∈ ids ∧ other ∈ ids := by
        rcases joined with listed | listed
        · exact inside _ listed
        · exact (inside _ listed).symm
      exact (explores.reached id here).tail ⟨ends.1, ends.2, joined⟩
    · exact explores.reached other old
  case closed =>
    intro member isPopped other isFarEnd
    rw [List.mem_append]
    rcases List.mem_append.mp isPopped with earlier | isId
    · exact Or.inr (explores.closed member earlier other isFarEnd)
    · rw [List.mem_singleton.mp isId] at isFarEnd
      by_cases known : other ∈ search.seen
      · exact Or.inr known
      · exact Or.inl ((members other).mpr ⟨isFarEnd, known⟩)

/-- A whole search keeps to them, and its stack is empty at the end. -/
theorem Explores.run (inside : ∀ edge ∈ edges, edge.1 ∈ ids ∧ edge.2 ∈ ids)
    (explores : Explores ids edges before root search) :
    Explores ids edges before root (search.run edges) ∧ (search.run edges).stack = [] := by
  fun_induction Search.run edges search with
  | case1 search ended => exact ⟨explores, step?_eq_none.mp ended⟩
  | case2 search next stepped ih => exact ih (explores.step inside stepped)

end Search

/-- Some ids are connected with no others. -/
def Closed (ids : List String) (edges : List (String × String)) (seen : List String) : Prop :=
  ∀ id ∈ seen, ∀ other, Connected ids edges id other → other ∈ seen

/-- A search from a root that was not seen pops what the root is connected with, each id once. -/
theorem Search.run_pops {ids before : List String} {edges : List (String × String)} {root : String}
    (inside : ∀ edge ∈ edges, edge.1 ∈ ids ∧ edge.2 ∈ ids) (closed : Closed ids edges before)
    (fresh : root ∉ before) :
    let found := run edges (start before root)
    found.popped.Nodup ∧ (∀ id, id ∈ found.popped ↔ Connected ids edges root id) ∧
      ∀ id, id ∈ found.seen ↔ id ∈ before ∨ Connected ids edges root id := by
  intro found
  obtain ⟨explores, empty⟩ := (explores_start ids edges before root).run inside
  have whole : found.popped ++ found.stack = found.popped := by rw [empty, List.append_nil]
  have pops : ∀ id, id ∈ found.popped ↔ Connected ids edges root id := by
    intro id
    constructor
    · exact fun popped => explores.reached id (List.mem_append_left _ popped)
    · intro connected
      induction connected with
      | refl => exact whole ▸ explores.rooted
      | @tail middle last way joined ih =>
          have seen := explores.closed middle ih last (mem_farEnds.mpr joined.2.2)
          rcases (explores.seen last).mp seen with old | popped
          · -- What had been seen before would lead back to the root.
            have back : Connected ids edges last root := Connected.symm (way.tail joined)
            exact absurd (closed last old root back) fresh
          · exact whole ▸ popped
  refine ⟨whole ▸ explores.distinct, pops, fun id => ?_⟩
  rw [explores.seen, whole, pops]

/-! ### All components -/

/-- Ids in the order in which they stand among all ids. -/
def inOrder (ids members : List String) : List String :=
  members.mergeSort fun left right => ids.idxOf left ≤ ids.idxOf right

/-- What is found from roots, one after the other, where some ids have been seen. -/
def exploreFrom (edges : List (String × String)) (ids seen : List String) :
    List String → List (List String)
  | [] => []
  | root :: roots =>
    if seen.contains root then exploreFrom edges ids seen roots
    else
      let found := Search.run edges (Search.start seen root)
      inOrder ids found.popped :: exploreFrom edges ids found.seen roots

/-- The connected components of ids, by one search after the other. -/
def explore (edges : List (String × String)) (ids : List String) : List (List String) :=
  exploreFrom edges ids [] ids

section Explore

variable {ids : List String} {edges : List (String × String)} {seen roots : List String}
  {root : String}

theorem pairwise_idxOf (distinct : ids.Nodup) :
    ids.Pairwise fun left right => ids.idxOf left < ids.idxOf right := by
  rw [List.pairwise_iff_getElem]
  intro i j hi hj before
  rwa [distinct.idxOf_getElem i hi, distinct.idxOf_getElem j hj]

theorem Precedes.idxOf_lt (distinct : ids.Nodup) {id other : String}
    (before : Precedes ids id other) : ids.idxOf id < ids.idxOf other :=
  List.rel_of_pairwise_cons (List.Pairwise.sublist before (pairwise_idxOf distinct))
    (List.mem_singleton_self other)

/-- What stands in the order of the ids is brought back into this order. -/
theorem inOrder_of_perm (distinct : ids.Nodup) {members sorted : List String}
    (same : members.Perm sorted) (inIds : sorted.Sublist ids) : inOrder ids members = sorted :=
  mergeSort_of_perm same ((pairwise_idxOf distinct).sublist inIds)

/-- What is connected with an id that was not seen was not seen either. -/
theorem Connected.notMem_seen {id : String} (connected : Connected ids edges root id)
    (closed : Closed ids edges seen) (fresh : root ∉ seen) : id ∉ seen :=
  fun old => fresh (closed id old root connected.symm)

/-- From an id that was not seen, ways lead along ids that were not seen. -/
theorem connected_rest_iff {rest : List String} {id : String} (closed : Closed ids edges seen)
    (fresh : root ∉ seen) (inIds : rest ⊆ ids) (unseen : ∀ id ∈ ids, id ∉ seen → id ∈ rest) :
    Connected rest edges root id ↔ Connected ids edges root id := by
  constructor
  · exact fun connected => connected.mono inIds
  · intro connected
    induction connected with
    | refl => exact .refl
    | @tail middle last way joined ih =>
        have middleUnseen := Connected.notMem_seen way closed fresh
        have lastUnseen := Connected.notMem_seen (way.tail joined) closed fresh
        exact ih.tail
          ⟨unseen middle joined.1 middleUnseen, unseen last joined.2.1 lastUnseen, joined.2.2⟩

theorem mem_unseen_iff {id : String} :
    id ∈ (roots.filter fun id => !seen.contains id) ↔ id ∈ roots ∧ id ∉ seen := by
  simp [List.mem_filter]

/-- Of the roots behind one that was not seen, and were not seen either, those remain that it is not
connected with. -/
theorem mem_unreached_unseen (distinct : ids.Nodup) (split : root :: roots <:+ ids)
    (complete : ∀ id ∈ ids, id ∈ seen ∨ id ∈ root :: roots) (closed : Closed ids edges seen)
    (fresh : root ∉ seen) {id : String} :
    id ∈ unreached edges [root] (roots.filter fun id => !seen.contains id) ↔
      (id = root ∨ id ∈ roots ∧ id ∉ seen) ∧ ¬Connected ids edges root id := by
  have behind : root ∉ roots := (List.nodup_cons.mp (split.sublist.nodup distinct)).1
  have inIds : (root :: roots.filter fun id => !seen.contains id) ⊆ ids :=
    ((List.filter_sublist.cons_cons root).trans split.sublist).subset
  rw [mem_unreached_root fun later => behind (List.mem_filter.mp later).1,
    connected_rest_iff closed fresh inIds, List.mem_cons, mem_unseen_iff]
  intro id member unseen
  rw [List.mem_cons, mem_unseen_iff]
  exact (List.mem_cons.mp ((complete id member).resolve_left unseen)).imp_right
    fun later => ⟨later, unseen⟩

/-- A search from a root that was not seen finds the component of the root. -/
theorem inOrder_run (distinct : ids.Nodup) (inside : ∀ edge ∈ edges, edge.1 ∈ ids ∧ edge.2 ∈ ids)
    (split : root :: roots <:+ ids) (complete : ∀ id ∈ ids, id ∈ seen ∨ id ∈ root :: roots)
    (closed : Closed ids edges seen) (fresh : root ∉ seen) :
    let others := roots.filter fun id => !seen.contains id
    let left := unreached edges [root] others
    inOrder ids (Search.run edges (Search.start seen root)).popped =
      root :: (others.filter fun id => !left.contains id) := by
  intro others left
  obtain ⟨popsOnce, pops, -⟩ := Search.run_pops inside closed fresh
  have taken : (root :: (others.filter fun id => !left.contains id)).Sublist ids :=
    ((List.filter_sublist.trans List.filter_sublist).cons_cons root).trans split.sublist
  apply inOrder_of_perm distinct _ taken
  rw [List.perm_ext_iff_of_nodup popsOnce (taken.nodup distinct)]
  intro id
  have kept : (!left.contains id) = true ↔
      (id = root ∨ id ∈ roots ∧ id ∉ seen → Connected ids edges root id) := by
    rw [Bool.not_eq_true', ← Bool.not_eq_true, List.contains_iff_mem,
      mem_unreached_unseen distinct split complete closed fresh, not_and_not_right]
  rw [pops, List.mem_cons, List.mem_filter, mem_unseen_iff, kept]
  constructor
  · intro connected
    have unseen := connected.notMem_seen closed fresh
    have member := connected.mem (split.subset List.mem_cons_self)
    have listed := (complete id member).resolve_left unseen
    exact (List.mem_cons.mp listed).imp_right fun later => ⟨⟨later, unseen⟩, fun _ => connected⟩
  · rintro (rfl | ⟨later, connected⟩)
    · exact .refl
    · exact connected (Or.inr later)

/-- A search from a root that was not seen leaves unseen what the component of the root leaves. -/
theorem filter_run (distinct : ids.Nodup) (inside : ∀ edge ∈ edges, edge.1 ∈ ids ∧ edge.2 ∈ ids)
    (split : root :: roots <:+ ids) (complete : ∀ id ∈ ids, id ∈ seen ∨ id ∈ root :: roots)
    (closed : Closed ids edges seen) (fresh : root ∉ seen) :
    (roots.filter fun id => !(Search.run edges (Search.start seen root)).seen.contains id) =
      unreached edges [root] (roots.filter fun id => !seen.contains id) := by
  obtain ⟨-, -, sees⟩ := Search.run_pops inside closed fresh
  have distinctRoots : roots.Nodup := (List.nodup_cons.mp (split.sublist.nodup distinct)).2
  have leftIn := (unreached_sublist edges [root] (roots.filter fun id => !seen.contains id)).trans
    List.filter_sublist
  apply (distinctRoots.perm_iff_eq_of_sublist List.filter_sublist leftIn).mp
  rw [List.perm_ext_iff_of_nodup (distinctRoots.filter _) (leftIn.nodup distinctRoots)]
  intro id
  rw [mem_unseen_iff, sees, not_or, mem_unreached_unseen distinct split complete closed fresh]
  constructor
  · rintro ⟨listed, unseen, apart⟩
    exact ⟨Or.inr ⟨listed, unseen⟩, apart⟩
  · rintro ⟨rfl | later, apart⟩
    · exact absurd .refl apart
    · exact ⟨later.1, later.2, apart⟩

/-- What has been seen after a search is connected with nothing else. -/
theorem closed_run (inside : ∀ edge ∈ edges, edge.1 ∈ ids ∧ edge.2 ∈ ids)
    (closed : Closed ids edges seen) (fresh : root ∉ seen) :
    Closed ids edges (Search.run edges (Search.start seen root)).seen := by
  obtain ⟨-, -, sees⟩ := Search.run_pops inside closed fresh
  intro id member other connected
  rw [sees] at member ⊢
  rcases member with old | reached
  · exact Or.inl (closed id old other connected)
  · exact Or.inr (reached.trans connected)

/-- Searches find the components of the ids that have not been seen. -/
theorem exploreFrom_eq (distinct : ids.Nodup)
    (inside : ∀ edge ∈ edges, edge.1 ∈ ids ∧ edge.2 ∈ ids) (split : roots <:+ ids)
    (complete : ∀ id ∈ ids, id ∈ seen ∨ id ∈ roots) (closed : Closed ids edges seen) :
    exploreFrom edges ids seen roots =
      components edges (roots.filter fun id => !seen.contains id) := by
  -- The roots are the last ones of the ids, and those before them have been seen.
  induction roots generalizing seen with
  | nil => rw [exploreFrom, List.filter_nil, components]
  | cons root roots ih =>
      have splitRest : roots <:+ ids := (List.suffix_cons root roots).trans split
      have completeAfter : ∀ {known : List String}, root ∈ known → seen ⊆ known →
          ∀ id ∈ ids, id ∈ known ∨ id ∈ roots := by
        intro known rootKnown more id member
        rcases complete id member with old | listed
        · exact Or.inl (more old)
        · rcases List.mem_cons.mp listed with rfl | later
          · exact Or.inl rootKnown
          · exact Or.inr later
      by_cases known : root ∈ seen
      · rw [exploreFrom, if_pos (by simpa using known),
          List.filter_cons_of_neg (by simpa using known)]
        exact ih splitRest (completeAfter known (List.Subset.refl seen)) closed
      · have taken := inOrder_run distinct inside split complete closed known
        obtain ⟨-, -, sees⟩ := Search.run_pops inside closed known
        have rest := ih splitRest
          (completeAfter ((sees root).mpr (Or.inr .refl)) fun id old => (sees id).mpr (Or.inl old))
          (closed_run inside closed known)
        rw [filter_run distinct inside split complete closed known] at rest
        rw [exploreFrom, if_neg (by simpa using known),
          List.filter_cons_of_pos (by simpa using known), components]
        exact congrArg₂ List.cons taken rest

/-- Searches from all ids find all components. -/
theorem explore_eq (distinct : ids.Nodup) (inside : ∀ edge ∈ edges, edge.1 ∈ ids ∧ edge.2 ∈ ids) :
    explore edges ids = components edges ids := by
  have whole := exploreFrom_eq distinct inside (List.suffix_refl ids) (fun _ => Or.inr)
    (fun _ old => absurd old List.not_mem_nil)
  have all : (ids.filter fun id => !([] : List String).contains id) = ids := by simp
  rw [explore, whole, all]

/-- Two ids are in the same component exactly if they are connected. -/
theorem mem_component_iff (distinct : ids.Nodup) {id other : String} (member : id ∈ ids) :
    (∃ component ∈ components edges ids, id ∈ component ∧ other ∈ component) ↔
      Connected ids edges id other := by
  constructor
  · rintro ⟨component, listed, isMember, isOther⟩
    obtain ⟨root, _, -, members⟩ := exists_root distinct listed
    exact ((members id).mp isMember).symm.trans ((members other).mp isOther)
  · intro connected
    obtain ⟨rest, first, listed, -, reached⟩ := @exists_leads ids edges id distinct member
    obtain ⟨_, _, ⟨rfl, -⟩, members⟩ := exists_root distinct listed
    exact ⟨first :: rest, listed, (members id).mpr reached,
      (members other).mpr (reached.trans connected)⟩

/-- The components are what the searches find, and no search goes on forever. They part the ids into
the classes of connected ones; each class keeps the order of the ids, and the classes come in the
order of their first members. -/
theorem components_classes (distinct : ids.Nodup)
    (inside : ∀ edge ∈ edges, edge.1 ∈ ids ∧ edge.2 ∈ ids) :
    explore edges ids = components edges ids ∧
      (WellFounded fun next search : Search => search.step? edges = some next) ∧
      (components edges ids).flatten.Perm ids ∧
      (∀ id ∈ ids, ∀ other ∈ ids,
        (∃ component ∈ components edges ids, id ∈ component ∧ other ∈ component) ↔
          Connected ids edges id other) ∧
      (∀ component ∈ components edges ids,
        component ≠ [] ∧ component.Pairwise fun left right => ids.idxOf left < ids.idxOf right) ∧
      (components edges ids).Pairwise fun component later =>
        ∀ first ∈ component.head?, ∀ second ∈ later.head?,
          ids.idxOf first < ids.idxOf second := by
  refine ⟨explore_eq distinct inside, Search.wellFounded_step? edges,
    perm_flatten_components edges distinct, fun id member other _ =>
      mem_component_iff distinct member, fun component listed => ⟨?_, ?_⟩, ?_⟩
  · obtain ⟨root, rest, rfl, -⟩ := exists_root distinct listed
    exact List.cons_ne_nil root rest
  · exact (pairwise_idxOf distinct).sublist (sublist_of_mem_components listed)
  · refine (pairwise_components edges ids).imp fun {component later} ordered => ?_
    exact fun first isFirst second isSecond =>
      (ordered first isFirst second isSecond).idxOf_lt distinct

end Explore

/-- Edges with a cycle, parallel ones and a loop. -/
def tangledEdges : List (String × String) :=
  [("c", "a"), ("a", "c"), ("c", "a"), ("d", "d"), ("c", "e"), ("e", "a")]

theorem components_classes_tangledEdges :
    ["a", "b", "c", "d", "e"].Nodup ∧
      (∀ edge ∈ tangledEdges,
        edge.1 ∈ ["a", "b", "c", "d", "e"] ∧ edge.2 ∈ ["a", "b", "c", "d", "e"]) ∧
      explore tangledEdges ["a", "b", "c", "d", "e"] = [["a", "c", "e"], ["b"], ["d"]] ∧
      Connected ["a", "b", "c", "d", "e"] tangledEdges "e" "a" ∧
      ¬Connected ["a", "b", "c", "d", "e"] tangledEdges "a" "b" := by
  have distinct : ["a", "b", "c", "d", "e"].Nodup := by decide
  have inside : ∀ edge ∈ tangledEdges,
      edge.1 ∈ ["a", "b", "c", "d", "e"] ∧ edge.2 ∈ ["a", "b", "c", "d", "e"] := by decide
  obtain ⟨found, -, -, same, -, -⟩ := components_classes distinct inside
  have classes : components tangledEdges ["a", "b", "c", "d", "e"] =
      [["a", "c", "e"], ["b"], ["d"]] := by
    simp [components, unreached, neighbors, strangers, joins, tangledEdges]
  rw [classes] at found same
  refine ⟨distinct, inside, found, ?_, ?_⟩
  · exact (same "e" (by decide) "a" (by decide)).mp (by decide)
  · exact fun connected => absurd ((same "a" (by decide) "b" (by decide)).mpr connected) (by decide)

end Flowchart.Layout
