import Mathlib.Data.List.Induction
import Flowchart.Keyed

/-!
Dictionaries: which keys they hold, and what is found under a key when values are changed or
entered.

Main statements: `Keyed.find?_map`, `Keyed.find?_ofPairs_map`, `put_map_pair_of_mem`.
-/

namespace Flowchart

variable {α : Type}

namespace Keyed

/-! ### Keys -/

theorem mem_keys_put {key name : String} {value : α} {entries : Keyed α} :
    name ∈ keys (put key value entries) ↔ name = key ∨ name ∈ keys entries := by
  fun_induction put key value entries with
  | case1 => simp [keys]
  | case2 entry rest same =>
      subst same
      simp [keys]
  | case3 entry rest differs ih =>
      simp only [keys, List.map_cons, List.mem_cons] at ih ⊢
      rw [ih]
      exact or_left_comm

theorem mem_keys_ofPairs {pairs : List (String × α)} {name : String} :
    name ∈ keys (ofPairs pairs) ↔ name ∈ pairs.map Prod.fst := by
  induction pairs using List.reverseRecOn with
  | nil => simp [keys, ofPairs]
  | append_singleton pairs pair ih =>
      rw [ofPairs, List.foldl_append, List.foldl_cons, List.foldl_nil, mem_keys_put]
      change name = pair.1 ∨ name ∈ keys (ofPairs pairs) ↔ _
      rw [ih]
      simp [or_comm]

theorem nodup_keys_put {key : String} {value : α} {entries : Keyed α}
    (distinct : (keys entries).Nodup) : (keys (put key value entries)).Nodup := by
  fun_induction put key value entries with
  | case1 => simp [keys]
  | case2 entry rest same =>
      subst same
      exact distinct
  | case3 entry rest differs ih =>
      obtain ⟨fresh, distinct⟩ := List.nodup_cons.mp distinct
      refine List.nodup_cons.mpr ⟨fun listed => ?_, ih distinct⟩
      rcases mem_keys_put.mp listed with same | later
      · exact differs same
      · exact fresh later

/-- A dictionary made from pairs has each key once. -/
theorem nodup_keys_ofPairs (pairs : List (String × α)) : (keys (ofPairs pairs)).Nodup := by
  induction pairs using List.reverseRecOn with
  | nil => exact List.nodup_nil
  | append_singleton pairs pair ih =>
      rw [ofPairs, List.foldl_append, List.foldl_cons, List.foldl_nil]
      exact nodup_keys_put ih

/-- If each key is there once, every entry is found under its key. -/
theorem find?_of_mem {key : String} {value : α} {entries : Keyed α}
    (distinct : (keys entries).Nodup) (listed : (key, value) ∈ entries) :
    find? key entries = some value := by
  unfold find?
  induction entries with
  | nil => cases listed
  | cons entry entries ih =>
      obtain ⟨fresh, distinct⟩ := List.nodup_cons.mp distinct
      rcases List.mem_cons.mp listed with rfl | later
      · exact List.lookup_cons_self
      · have differs : (key == entry.1) = false := by
          rw [beq_eq_false_iff_ne]
          rintro rfl
          exact fresh (List.mem_map.mpr ⟨_, later, rfl⟩)
        rw [List.lookup_cons, differs]
        exact ih distinct later

/-- A value that is found is in the dictionary. -/
theorem mem_of_find? {key : String} {value : α} {entries : Keyed α}
    (found : find? key entries = some value) : (key, value) ∈ entries := by
  obtain ⟨front, back, split, -⟩ := List.lookup_eq_some_iff.mp found
  simp [split]

/-- A key has a value, and its entry is in the list. -/
theorem exists_mem_of_mem_keys {key : String} {entries : Keyed α} (member : key ∈ keys entries) :
    ∃ value, find? key entries = some value ∧ (key, value) ∈ entries := by
  obtain ⟨entry, listed, same⟩ := List.mem_map.mp member
  obtain ⟨value, found⟩ : ∃ value, find? key entries = some value :=
    Option.isSome_iff_exists.mp
      (List.lookup_isSome_iff.mpr ⟨entry, listed, by simp [same]⟩)
  obtain ⟨front, back, split, -⟩ := List.lookup_eq_some_iff.mp found
  exact ⟨value, found, by simp [split]⟩

/-- Under a key that is present no other value takes the place of a missing one. -/
theorem find?_eq_some_getD {key : String} {entries : Keyed α} (member : key ∈ keys entries)
    (otherwise : α) : find? key entries = some ((find? key entries).getD otherwise) := by
  obtain ⟨value, found, -⟩ := exists_mem_of_mem_keys member
  rw [found, Option.getD_some]

theorem mem_put {key : String} {value : α} {entries : Keyed α} {entry : String × α}
    (member : entry ∈ put key value entries) : entry = (key, value) ∨ entry ∈ entries := by
  fun_induction put key value entries with
  | case1 => exact Or.inl (List.mem_singleton.mp member)
  | case2 first rest same => exact (List.mem_cons.mp member).imp_right (List.mem_cons_of_mem first)
  | case3 first rest differs ih =>
      rcases List.mem_cons.mp member with rfl | later
      · exact Or.inr List.mem_cons_self
      · exact (ih later).imp_right (List.mem_cons_of_mem first)

/-- A dictionary made from pairs holds some of them. -/
theorem mem_of_mem_ofPairs {pairs : List (String × α)} {entry : String × α}
    (member : entry ∈ ofPairs pairs) : entry ∈ pairs := by
  induction pairs using List.reverseRecOn with
  | nil => cases member
  | append_singleton pairs pair ih =>
      rw [ofPairs, List.foldl_append, List.foldl_cons, List.foldl_nil] at member
      rcases mem_put member with rfl | earlier
      · simp
      · exact List.mem_append_left _ (ih earlier)

/-- A value that depends on the key alone is found under each key that is listed. -/
theorem find?_ofPairs_map {ι : Type} {items : List ι} {key : ι → String} {value : ι → α}
    (same : ∀ first ∈ items, ∀ second ∈ items, key first = key second → value first = value second)
    {item : ι} (member : item ∈ items) :
    find? (key item) (ofPairs (items.map fun item => (key item, value item))) =
      some (value item) := by
  have present : key item ∈ keys (ofPairs (items.map fun item => (key item, value item))) := by
    rw [mem_keys_ofPairs, List.map_map]
    exact List.mem_map_of_mem member
  obtain ⟨found, isFound, listed⟩ := exists_mem_of_mem_keys present
  obtain ⟨other, isOther, pair⟩ := List.mem_map.mp (mem_of_mem_ofPairs listed)
  obtain ⟨sameKey, rfl⟩ := Prod.mk.inj pair
  rw [isFound, same other isOther item member sameKey]

/-- Changed values are found under the same keys. -/
theorem find?_map {β : Type} (change : String → α → β) (key : String) (entries : Keyed α) :
    find? key (entries.map fun entry => (entry.1, change entry.1 entry.2)) =
      (find? key entries).map (change key) := by
  unfold find?
  induction entries with
  | nil => rfl
  | cons entry entries ih =>
      rw [List.map_cons, List.lookup_cons, List.lookup_cons, ih]
      cases same : key == entry.1 with
      | true => rw [eq_of_beq same, Option.map_some]
      | false => rfl

theorem put_map {β : Type} (change : α → β) (key : String) (value : α) (entries : Keyed α) :
    put key (change value) (entries.map fun entry => (entry.1, change entry.2)) =
      (put key value entries).map fun entry => (entry.1, change entry.2) := by
  induction entries with
  | nil => rfl
  | cons entry entries ih =>
      rw [List.map_cons, put, put, ih]
      split <;> rfl

/-- A dictionary made from changed values holds the changed values. -/
theorem ofPairs_map {β : Type} (change : α → β) (pairs : List (String × α)) :
    ofPairs (pairs.map fun pair => (pair.1, change pair.2)) =
      (ofPairs pairs).map fun entry => (entry.1, change entry.2) := by
  induction pairs using List.reverseRecOn with
  | nil => rfl
  | append_singleton pairs pair ih =>
      rw [ofPairs] at ih ⊢
      rw [List.map_append, List.foldl_append, ih, ofPairs, ofPairs, List.foldl_append]
      exact put_map change pair.1 pair.2 _

end Keyed

/-! ### Lookups along a list -/

/-- Where every step has a result, the steps along a list have all of them. -/
theorem mapM_eq_pure {m : Type → Type} [Monad m] [LawfulMonad m] {β : Type} {step : α → m β}
    {value : α → β} {items : List α} (each : ∀ item ∈ items, step item = pure (value item)) :
    items.mapM step = pure (items.map value) := by
  induction items with
  | nil => exact List.mapM_nil
  | cons item items ih =>
      rw [List.forall_mem_cons] at each
      rw [List.mapM_cons, each.1, pure_bind, ih each.2, pure_bind, List.map_cons]

/-! ### Dictionaries made from a function -/

/-- In a dictionary that a function fills, a key has the value of the function if it is listed. -/
theorem find?_map_pair (keys : List String) (value : String → α) (key : String) :
    Keyed.find? key (keys.map fun name => (name, value name)) =
      if key ∈ keys then some (value key) else none := by
  unfold Keyed.find?
  induction keys with
  | nil => simp
  | cons name names ih =>
      by_cases same : key = name
      · subst same
        simp
      · have differs : (key == name) = false := by simpa using same
        simp [List.lookup_cons, differs, same, ih]

/-- Entering a value under a new key adds it at the end. -/
theorem put_of_notMem {entries : Keyed α} {key : String} (value : α)
    (absent : key ∉ entries.map Prod.fst) :
    Keyed.put key value entries = entries ++ [(key, value)] := by
  induction entries with
  | nil => rfl
  | cons entry entries ih =>
      simp only [List.map_cons, List.mem_cons, not_or] at absent
      rw [Keyed.put, if_neg (Ne.symm absent.1), ih absent.2, List.cons_append]

/-- Entering a value under a listed key changes the function at this key. -/
theorem put_map_pair_of_mem {keys : List String} (distinct : keys.Nodup) (value : String → α)
    {key : String} (present : key ∈ keys) (new : α) :
    Keyed.put key new (keys.map fun name => (name, value name)) =
      keys.map fun name => (name, if name = key then new else value name) := by
  induction keys with
  | nil => cases present
  | cons name names ih =>
      obtain ⟨fresh, distinct⟩ := List.nodup_cons.mp distinct
      by_cases same : name = key
      · subst same
        have unchanged : ∀ other ∈ names,
            (other, value other) = (other, if other = name then new else value other) := by
          intro other member
          have differs : other ≠ name := fun same => fresh (same ▸ member)
          rw [if_neg differs]
        simp only [List.map_cons, Keyed.put, if_true]
        rw [List.map_congr_left unchanged]
      · have later : key ∈ names := by
          rcases List.mem_cons.mp present with rfl | later
          · exact absurd rfl same
          · exact later
        simp only [List.map_cons, Keyed.put, if_neg same]
        rw [ih distinct later]

end Flowchart
