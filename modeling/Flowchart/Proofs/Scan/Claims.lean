import Mathlib.Data.List.Induction
import Mathlib.Data.List.Pairwise
import Mathlib.Data.List.Perm.Basic
import Flowchart.Draft.Scan
import Flowchart.Proofs.Sorted
import Flowchart.Proofs.Text.Finding

/-!
Searching a line for things of several kinds, one kind after the other.

Each site of a line belongs to one kind, and the search for that kind finds the item of the site.
The search for another kind may take a part of the site for an item of its own, its shade. Where a
kind is searched before those that see shades of it, what is claimed in the end are the items.

In whatever order candidates come, what is claimed in the end lies apart.

Main statements: `pairwise_sorted_claims`, `Survey.perm_claimed`, `Survey.mergeSort_claimed`.
-/

namespace Flowchart.Scan

open Flowchart.Text

/-! ### Claiming -/

/-- Take a candidate unless it is refused or part of its text is claimed. -/
def claimUnless {C : Type} (span : C → Span) (refused : C → Bool) (taken : List C)
    (candidate : C) : List C :=
  if refused candidate || taken.any fun other => (span candidate).overlaps (span other) then taken
  else taken ++ [candidate]

theorem claim_eq : claim = claimUnless Declaration.span fun candidate => isReserved candidate.id :=
  rfl

theorem claimConnection_eq :
    claimConnection = claimUnless Connection.claimed fun _ => false :=
  rfl

theorem overlaps_of_stop_le {left right : Span} (before : left.stop ≤ right.start) :
    left.overlaps right = false ∧ right.overlaps left = false := by
  have apart : ¬ right.start < left.stop := Nat.not_lt.mpr before
  simp [Span.overlaps, apart]

section Claiming

variable {C : Type} {span : C → Span} {refused : C → Bool} {taken : List C} {candidate : C}

theorem claimUnless_free (accepted : refused candidate = false)
    (free : ∀ other ∈ taken, (span candidate).overlaps (span other) = false) :
    claimUnless span refused taken candidate = taken ++ [candidate] := by
  have none : (taken.any fun other => (span candidate).overlaps (span other)) = false := by
    rw [List.any_eq_false]
    intro other member
    simp [free other member]
  rw [claimUnless, accepted, none]
  rfl

theorem claimUnless_claimed {other : C} (member : other ∈ taken)
    (meets : (span candidate).overlaps (span other) = true) :
    claimUnless span refused taken candidate = taken := by
  have some : (taken.any fun other => (span candidate).overlaps (span other)) = true :=
    List.any_eq_true.mpr ⟨other, member, meets⟩
  rw [claimUnless, some, Bool.or_true, if_pos rfl]

/-- What is claimed in the end was taken before or is a candidate that is not refused. -/
theorem mem_foldl_claimUnless {candidates : List C}
    (member : candidate ∈ candidates.foldl (claimUnless span refused) taken) :
    candidate ∈ taken ∨ candidate ∈ candidates ∧ refused candidate = false := by
  induction candidates generalizing taken with
  | nil => exact Or.inl member
  | cons first candidates ih =>
      rcases ih member with early | ⟨later, accepted⟩
      · rw [claimUnless] at early
        split at early
        case isTrue => exact Or.inl early
        case isFalse free =>
          rcases List.mem_append.mp early with earlier | isFirst
          · exact Or.inl earlier
          · rw [List.mem_singleton.mp isFirst]
            have accepted : refused first = false := by
              simpa using (not_or.mp (mt Bool.or_eq_true_iff.mpr free)).1
            exact Or.inr ⟨List.mem_cons_self, accepted⟩
      · exact Or.inr ⟨List.mem_cons_of_mem first later, accepted⟩

/-- Candidates that are not refused are all claimed if each of them ends before the next begins. -/
theorem foldl_claimUnless_apart {candidates : List C}
    (accepted : ∀ candidate ∈ candidates, refused candidate = false)
    (apart : (taken ++ candidates).Pairwise fun left right =>
      (span left).stop ≤ (span right).start) :
    candidates.foldl (claimUnless span refused) taken = taken ++ candidates := by
  induction candidates generalizing taken with
  | nil => exact (List.append_nil taken).symm
  | cons candidate candidates ih =>
      have free : ∀ other ∈ taken, (span candidate).overlaps (span other) = false :=
        fun other member => (overlaps_of_stop_le
          ((List.pairwise_append.mp apart).2.2 other member candidate List.mem_cons_self)).2
      have here := claimUnless_free (accepted candidate List.mem_cons_self) free
      rw [List.foldl_cons, here, ih, List.append_assoc]
      · rfl
      · exact fun other member => accepted other (List.mem_cons_of_mem candidate member)
      · rwa [List.append_assoc]

/-- A claim lies apart from what was claimed before. -/
theorem pairwise_claimUnless
    (apart : taken.Pairwise fun left right => (span left).Apart (span right)) (candidate : C) :
    (claimUnless span refused taken candidate).Pairwise fun left right =>
      (span left).Apart (span right) := by
  rw [claimUnless]
  split
  case isTrue => exact apart
  case isFalse free =>
    rw [Bool.or_eq_true, not_or, Bool.not_eq_true, Bool.not_eq_true, List.any_eq_false] at free
    rw [List.pairwise_append]
    refine ⟨apart, List.pairwise_singleton _ _, fun other member candidate isNew => ?_⟩
    rw [List.mem_singleton.mp isNew]
    have clear := Bool.eq_false_iff.mpr (free.2 other member)
    exact (Span.overlaps_eq_false_iff.mp clear).symm

/-- In whatever order candidates come, what is claimed in the end lies apart. -/
theorem pairwise_foldl_claimUnless (candidates : List C)
    (apart : taken.Pairwise fun left right => (span left).Apart (span right)) :
    (candidates.foldl (claimUnless span refused) taken).Pairwise fun left right =>
      (span left).Apart (span right) := by
  induction candidates generalizing taken with
  | nil => exact apart
  | cons candidate candidates ih => exact ih (pairwise_claimUnless apart candidate)

/-- Sorted by a key, what is claimed lies apart and the key does not descend. -/
theorem pairwise_sorted_claims (key : C → Nat) (candidates : List C) :
    ((candidates.foldl (claimUnless span refused) []).mergeSort fun left right =>
      key left ≤ key right).Pairwise fun left right =>
        (span left).Apart (span right) ∧ key left ≤ key right := by
  have apart := @pairwise_foldl_claimUnless C span refused [] candidates .nil
  have sorted := pairwise_mergeSort_key key (candidates.foldl (claimUnless span refused) [])
  refine List.Pairwise.and ?_ sorted
  exact ((List.mergeSort_perm _ _).pairwise_iff Span.Apart.symm).mpr apart

end Claiming

/-- A node with brackets is one of those that the search for some kind of brackets has found. -/
theorem candidate_of_mem_declarations {line : List Char} {declaration : Declaration}
    (member : declaration ∈ declarations line) : isReserved declaration.id = false ∧
      ∃ shape, declaration ∈ declarationsOf shape (maskPipeLabels line) := by
  rw [declarations, List.mem_mergeSort, claim_eq] at member
  obtain ⟨candidate, accepted⟩ := (mem_foldl_claimUnless member).resolve_left List.not_mem_nil
  obtain ⟨shape, -, found⟩ := List.mem_flatMap.mp candidate
  exact ⟨accepted, shape, found⟩

/-- A link is one of those that the search for some kind of links has found. -/
theorem candidate_of_mem_connections {line : List Char} {connection : Connection}
    (member : connection ∈ connections line) :
    ∃ connector ∈ connectors, connection ∈ connectionsOf connector line := by
  rw [connections, List.mem_mergeSort, claimConnection_eq] at member
  exact List.mem_flatMap.mp ((mem_foldl_claimUnless member).resolve_left List.not_mem_nil).1

/-! ### Surveys -/

/-- The kinds of things that are searched, and what the search for each finds at a site. -/
structure Survey (K S C : Type) where
  kinds : List K
  /-- The kind that a site belongs to. -/
  kind : S → K
  /-- Whether a kind sees a shade of the sites of another. -/
  shades : K → K → Bool
  item : S → C
  shade : K → S → C

/-- What is needed for the search to find the items of sites that stand in the order of the text. -/
structure Survey.Sound {K S C : Type} (survey : Survey K S C) (sites : List S) (span : C → Span)
    (refused : C → Bool) : Prop where
  distinct : survey.kinds.Nodup
  known : ∀ site ∈ sites, survey.kind site ∈ survey.kinds
  later : survey.kinds.Pairwise fun earlier later => survey.shades earlier later = false
  accepted : ∀ site ∈ sites, refused (survey.item site) = false
  apart : sites.Pairwise fun left right =>
    (span (survey.item left)).stop ≤ (span (survey.item right)).start
  shaded : ∀ kind, ∀ site ∈ sites, survey.shades kind (survey.kind site) = true →
    (span (survey.shade kind site)).overlaps (span (survey.item site)) = true

namespace Survey

variable {K S C : Type} [DecidableEq K] {survey : Survey K S C} {sites : List S} {span : C → Span}
  {refused : C → Bool}

/-- What the search for a kind finds at a site. -/
def hits (survey : Survey K S C) (kind : K) (site : S) : List C :=
  if survey.kind site = kind then [survey.item site]
  else if survey.shades kind (survey.kind site) then [survey.shade kind site] else []

theorem hits_own {kind : K} {site : S} (own : survey.kind site = kind) :
    survey.hits kind site = [survey.item site] :=
  if_pos own

theorem hits_shade {kind : K} {site : S} (foreign : survey.kind site ≠ kind)
    (shades : survey.shades kind (survey.kind site) = true) :
    survey.hits kind site = [survey.shade kind site] := by
  rw [hits, if_neg foreign, if_pos shades]

theorem hits_clear {kind : K} {site : S} (foreign : survey.kind site ≠ kind)
    (clear : survey.shades kind (survey.kind site) = false) : survey.hits kind site = [] := by
  rw [hits, if_neg foreign, clear]
  rfl

/-- The items of the sites of a kind. -/
def owned (survey : Survey K S C) (sites : List S) (kind : K) : List C :=
  (sites.filter fun site => survey.kind site = kind).map survey.item

/-- The candidates, kind by kind. -/
def candidates (survey : Survey K S C) (sites : List S) : List C :=
  survey.kinds.flatMap fun kind => sites.flatMap (survey.hits kind)

/-- The search for one kind claims the items of its sites, when nothing that is taken meets them
and the items that it sees shades of are taken. -/
theorem foldl_hits {kind : K} {taken : List C}
    (accepted : ∀ site ∈ sites, refused (survey.item site) = false)
    (apart : sites.Pairwise fun left right =>
      (span (survey.item left)).stop ≤ (span (survey.item right)).start)
    (free : ∀ site ∈ sites, survey.kind site = kind →
      ∀ other ∈ taken, (span (survey.item site)).overlaps (span other) = false)
    (shaded : ∀ site ∈ sites, survey.shades kind (survey.kind site) = true →
      survey.kind site ≠ kind → survey.item site ∈ taken ∧
        (span (survey.shade kind site)).overlaps (span (survey.item site)) = true) :
    (sites.flatMap (survey.hits kind)).foldl (claimUnless span refused) taken =
      taken ++ survey.owned sites kind := by
  induction sites generalizing taken with
  | nil => simp [owned]
  | cons site sites ih =>
      obtain ⟨first, others⟩ := List.pairwise_cons.mp apart
      have acceptedRest := fun other member => accepted other (List.mem_cons_of_mem site member)
      rw [List.flatMap_cons, List.foldl_append]
      by_cases own : survey.kind site = kind
      · have here : (survey.hits kind site).foldl (claimUnless span refused) taken =
            taken ++ [survey.item site] := by
          rw [hits_own own]
          exact claimUnless_free (accepted site (by simp)) (free site (by simp) own)
        have rest := @ih (taken ++ [survey.item site]) acceptedRest others ?_ ?_
        · rw [here, rest, owned, owned, List.filter_cons_of_pos (by simpa using own), List.map_cons,
            List.append_assoc]
          rfl
        · intro next member ownNext other taken
          rcases List.mem_append.mp taken with taken | isNew
          · exact free next (List.mem_cons_of_mem site member) ownNext other taken
          · rw [List.mem_singleton.mp isNew]
            exact (overlaps_of_stop_le (first next member)).2
        · intro next member shades foreign
          obtain ⟨taken, meets⟩ := shaded next (List.mem_cons_of_mem site member) shades foreign
          exact ⟨List.mem_append_left _ taken, meets⟩
      · have here : (survey.hits kind site).foldl (claimUnless span refused) taken = taken := by
          by_cases shades : survey.shades kind (survey.kind site) = true
          · obtain ⟨member, meets⟩ := shaded site (by simp) shades own
            rw [hits_shade own shades]
            exact claimUnless_claimed member meets
          · rw [hits_clear own (by simpa using shades)]
            rfl
        have rest := @ih taken acceptedRest others
          (fun next member => free next (List.mem_cons_of_mem site member))
          (fun next member => shaded next (List.mem_cons_of_mem site member))
        rw [here, rest, owned, owned, List.filter_cons_of_neg (by simpa using own)]

omit [DecidableEq K] in
/-- The items of one kind lie apart from those of another. -/
theorem overlaps_of_kind_ne (sound : survey.Sound sites span refused) {left right : S}
    (leftMember : left ∈ sites) (rightMember : right ∈ sites)
    (differs : survey.kind left ≠ survey.kind right) :
    (span (survey.item left)).overlaps (span (survey.item right)) = false := by
  have apart : sites.Pairwise fun left right =>
      (span (survey.item left)).overlaps (span (survey.item right)) = false ∧
        (span (survey.item right)).overlaps (span (survey.item left)) = false :=
    sound.apart.imp overlaps_of_stop_le
  have symmetric : Std.Symm fun left right =>
      (span (survey.item left)).overlaps (span (survey.item right)) = false ∧
        (span (survey.item right)).overlaps (span (survey.item left)) = false :=
    ⟨fun _ _ both => both.symm⟩
  have unequal : left ≠ right := by
    rintro rfl
    exact differs rfl
  exact (apart.forall leftMember rightMember unequal).1

/-- What the search for the first kinds has claimed. -/
theorem foldl_candidates (sound : survey.Sound sites span refused) {earlier later : List K}
    (split : survey.kinds = earlier ++ later) :
    (earlier.flatMap fun kind => sites.flatMap (survey.hits kind)).foldl
      (claimUnless span refused) [] = earlier.flatMap (survey.owned sites) := by
  induction earlier using List.reverseRecOn generalizing later with
  | nil => rfl
  | append_singleton earlier kind ih =>
      have splitHere : survey.kinds = earlier ++ kind :: later := by simpa using split
      have distinct := sound.distinct
      have order := sound.later
      rw [splitHere, List.nodup_append] at distinct
      rw [splitHere, List.pairwise_append] at order
      rw [List.flatMap_append, List.flatMap_append, List.foldl_append, ih splitHere,
        List.flatMap_singleton, List.flatMap_singleton]
      refine foldl_hits sound.accepted sound.apart ?_ ?_
      · intro site member own other taken
        obtain ⟨before, listed, inBefore⟩ := List.mem_flatMap.mp taken
        obtain ⟨source, sourceMember, rfl⟩ := List.mem_map.mp inBefore
        obtain ⟨inSites, ofBefore⟩ := List.mem_filter.mp sourceMember
        apply overlaps_of_kind_ne sound member inSites
        intro same
        have kindOf : survey.kind source = before := by simpa using ofBefore
        exact distinct.2.2 before listed kind (by simp) (by rw [← kindOf, ← same, own])
      · intro site member shades foreign
        refine ⟨?_, sound.shaded kind site member shades⟩
        -- The kind of the site is searched earlier, for no later kind has shades here.
        have listed := sound.known site member
        rw [splitHere] at listed
        have before : survey.kind site ∈ earlier := by
          rcases List.mem_append.mp listed with before | after
          · exact before
          · rcases List.mem_cons.mp after with same | after
            · exact absurd same foreign
            · have unseen := (List.pairwise_cons.mp order.2.1).1 _ after
              rw [unseen] at shades
              cases shades
        exact List.mem_flatMap.mpr ⟨_, before,
          List.mem_map_of_mem (List.mem_filter.mpr ⟨member, by simp⟩)⟩

/-- Of distinct kinds, one is the given. -/
theorem flatMap_ite {kinds : List K} {kind : K} (distinct : kinds.Nodup) (member : kind ∈ kinds)
    (item : C) : (kinds.flatMap fun other => if kind = other then [item] else []) = [item] := by
  induction kinds with
  | nil => cases member
  | cons other kinds ih =>
      obtain ⟨fresh, distinct⟩ := List.nodup_cons.mp distinct
      rw [List.flatMap_cons]
      rcases List.mem_cons.mp member with rfl | later
      · have none : (kinds.flatMap fun other => if kind = other then [item] else []) = [] := by
          rw [List.flatMap_eq_nil_iff]
          intro other inside
          rw [if_neg]
          rintro rfl
          exact fresh inside
        rw [if_pos rfl, none, List.append_nil]
      · have differs : kind ≠ other := by
          rintro rfl
          exact fresh later
        rw [if_neg differs, ih distinct later, List.nil_append]

/-- The items, sorted by kind, are the items. -/
theorem perm_owned {kinds : List K} (distinct : kinds.Nodup)
    (known : ∀ site ∈ sites, survey.kind site ∈ kinds) :
    (kinds.flatMap (survey.owned sites)).Perm (sites.map survey.item) := by
  induction sites with
  | nil => simp [owned]
  | cons site sites ih =>
      have here := flatMap_ite distinct (known site (by simp)) (survey.item site)
      have rest := ih fun other member => known other (List.mem_cons_of_mem site member)
      have split : survey.owned (site :: sites) = fun kind =>
          (if survey.kind site = kind then [survey.item site] else []) ++
            survey.owned sites kind := by
        funext kind
        by_cases own : survey.kind site = kind <;> simp [owned, own]
      rw [split]
      refine (List.flatMap_append_perm kinds _ _).symm.trans ?_
      rw [here, List.map_cons]
      exact rest.cons _

/-- What is claimed in the end are the items of the sites. -/
theorem perm_claimed (sound : survey.Sound sites span refused) :
    ((survey.candidates sites).foldl (claimUnless span refused) []).Perm
      (sites.map survey.item) := by
  have claimed := foldl_candidates sound (List.append_nil survey.kinds).symm
  rw [candidates, claimed]
  exact perm_owned sound.distinct sound.known

/-- In the order of the text, what is claimed are the items of the sites in their order. -/
theorem mergeSort_claimed (sound : survey.Sound sites span refused) (key : C → Nat)
    (increasing : sites.Pairwise fun left right =>
      key (survey.item left) < key (survey.item right)) :
    (((survey.candidates sites).foldl (claimUnless span refused) []).mergeSort
      fun left right => key left ≤ key right) = sites.map survey.item :=
  mergeSort_of_perm (perm_claimed sound) (List.pairwise_map.mpr increasing)

end Survey

end Flowchart.Scan
