import Mathlib.Data.List.Induction
import Mathlib.Data.List.Nodup
import Flowchart.Graph.Build

/-!
Lists in order of first occurrence.

`List.eraseDups` keeps the first of several equal items. It has no repetition, grows only by items
that are new, and is what `firstByKey` computes on the keys.
-/

namespace Flowchart

variable {α : Type}

/-- An item that is present adds nothing, wherever it is put in behind. -/
theorem eraseDups_insert_of_mem [BEq α] [LawfulBEq α] {items : List α} {item : α}
    (present : item ∈ items) (after : List α) :
    (items ++ item :: after).eraseDups = (items ++ after).eraseDups := by
  have gone : (item :: after).removeAll items = after.removeAll items := by
    simp [List.removeAll, present]
  rw [List.eraseDups_append, gone, ← List.eraseDups_append]

/-- An item that is present adds nothing at the end. -/
theorem eraseDups_append_of_mem [BEq α] [LawfulBEq α] {items : List α} {item : α}
    (present : item ∈ items) : (items ++ [item]).eraseDups = items.eraseDups := by
  rw [eraseDups_insert_of_mem present, List.append_nil]

/-- A new item is added at the end. -/
theorem eraseDups_append_of_notMem [BEq α] [LawfulBEq α] {items : List α} {item : α}
    (absent : item ∉ items) : (items ++ [item]).eraseDups = items.eraseDups ++ [item] := by
  have kept : [item].removeAll items = [item] := by
    simp [List.removeAll, absent]
  rw [List.eraseDups_append, kept, List.eraseDups_cons]
  simp

/-- Keeping first occurrences leaves no repetition. -/
theorem nodup_eraseDups [BEq α] [LawfulBEq α] (items : List α) : items.eraseDups.Nodup := by
  induction items using List.reverseRecOn with
  | nil => simp
  | append_singleton items item ih =>
      by_cases present : item ∈ items
      · rw [eraseDups_append_of_mem present]
        exact ih
      · rw [eraseDups_append_of_notMem present, ← List.concat_eq_append]
        exact List.Nodup.concat (mt List.mem_eraseDups.mp present) ih

/-- Items are kept for their keys, whatever else is changed about them. -/
theorem firstByKey_map {key : α → String} (change : α → α)
    (same : ∀ item, key (change item) = key item) (seen : List String) (items : List α) :
    firstByKey key seen (items.map change) = (firstByKey key seen items).map change := by
  induction items generalizing seen with
  | nil => rfl
  | cons item items ih =>
      rw [List.map_cons, firstByKey, firstByKey, same]
      split
      case isTrue => exact ih seen
      case isFalse => rw [List.map_cons, ih]

/-- The keys of the items that `firstByKey` keeps are those not seen before, each at its first
occurrence. -/
theorem map_firstByKey (key : α → String) (seen : List String) (items : List α) :
    (firstByKey key seen items).map key =
      ((items.map key).filter fun name => !seen.contains name).eraseDups := by
  induction items generalizing seen with
  | nil => rfl
  | cons item items ih =>
      by_cases known : seen.contains (key item) = true
      · rw [firstByKey, if_pos known, ih, List.map_cons,
          List.filter_cons_of_neg (by simpa using known)]
      · rw [firstByKey, if_neg known, List.map_cons, ih, List.map_cons,
          List.filter_cons_of_pos (by simpa using known), List.eraseDups_cons, List.filter_filter]
        congr 2
        apply List.filter_congr
        intro name _
        by_cases same : name = key item <;> simp [same]

/-- An item that `firstByKey` keeps is the first one with its key, and its key was not seen. -/
theorem find?_of_mem_firstByKey {key : α → String} {seen : List String} {items : List α} {item : α}
    (kept : item ∈ firstByKey key seen items) :
    items.find? (fun other => key other == key item) = some item ∧ key item ∉ seen := by
  induction items generalizing seen with
  | nil => cases kept
  | cons first items ih =>
      by_cases known : seen.contains (key first) = true
      · rw [firstByKey, if_pos known] at kept
        obtain ⟨found, fresh⟩ := ih kept
        have differs : key first ≠ key item := by
          intro same
          rw [same] at known
          exact fresh (by simpa using known)
        exact ⟨by rw [List.find?_cons_of_neg (by simpa using differs)]; exact found, fresh⟩
      · rw [firstByKey, if_neg known] at kept
        rcases List.mem_cons.mp kept with same | later
        · subst same
          exact ⟨by simp, by simpa using known⟩
        · obtain ⟨found, fresh⟩ := ih later
          have differs : key first ≠ key item := by
            intro same
            exact fresh (by simp [same])
          have unseen : key item ∉ seen := fun present => fresh (List.mem_cons_of_mem _ present)
          exact ⟨by rw [List.find?_cons_of_neg (by simpa using differs)]; exact found, unseen⟩

/-- The keys that `firstByKey` keeps. -/
theorem mem_map_firstByKey {key : α → String} {seen : List String} {items : List α}
    {name : String} :
    name ∈ (firstByKey key seen items).map key ↔ name ∈ items.map key ∧ name ∉ seen := by
  rw [map_firstByKey, List.mem_eraseDups, List.mem_filter]
  simp

theorem nodup_map_firstByKey (key : α → String) (seen : List String) (items : List α) :
    ((firstByKey key seen items).map key).Nodup := by
  rw [map_firstByKey]
  exact nodup_eraseDups _

/-- What `firstByKey` keeps is the first item of each key that was not seen. -/
theorem mem_firstByKey {key : α → String} {seen : List String} {items : List α} {item : α} :
    item ∈ firstByKey key seen items ↔
      items.find? (fun other => key other == key item) = some item ∧ key item ∉ seen := by
  constructor
  · exact find?_of_mem_firstByKey
  · rintro ⟨found, fresh⟩
    have listed : key item ∈ (firstByKey key seen items).map key :=
      mem_map_firstByKey.mpr ⟨List.mem_map_of_mem (List.mem_of_find?_eq_some found), fresh⟩
    obtain ⟨other, kept, same⟩ := List.mem_map.mp listed
    have foundOther := (find?_of_mem_firstByKey kept).1
    rw [same, found] at foundOther
    rw [Option.some.inj foundOther]
    exact kept

/-- A last item whose key is known is not kept. -/
theorem firstByKey_append_of_known {key : α → String} {seen : List String} {items : List α}
    {item : α} (known : key item ∈ seen ∨ key item ∈ items.map key) :
    firstByKey key seen (items ++ [item]) = firstByKey key seen items := by
  induction items generalizing seen with
  | nil =>
      have inSeen : key item ∈ seen := by simpa using known
      simp [firstByKey, inSeen]
  | cons first items ih =>
      have knownRest : key item ∈ seen ∨ key item = key first ∨ key item ∈ items.map key := by
        simpa using known
      rw [List.cons_append, firstByKey, firstByKey]
      by_cases skipped : seen.contains (key first) = true
      · have firstSeen : key first ∈ seen := by simpa using skipped
        have rest : key item ∈ seen ∨ key item ∈ items.map key := by
          rcases knownRest with inSeen | same | later
          · exact Or.inl inSeen
          · exact Or.inl (same ▸ firstSeen)
          · exact Or.inr later
        rw [if_pos skipped, if_pos skipped, ih rest]
      · have rest : key item ∈ key first :: seen ∨ key item ∈ items.map key := by
          rcases knownRest with inSeen | same | later
          · exact Or.inl (List.mem_cons_of_mem _ inSeen)
          · exact Or.inl (same ▸ List.mem_cons_self)
          · exact Or.inr later
        rw [if_neg skipped, if_neg skipped, ih rest]

/-- A last item with a new key is kept. -/
theorem firstByKey_append_of_new {key : α → String} {seen : List String} {items : List α}
    {item : α} (unseen : key item ∉ seen) (absent : key item ∉ items.map key) :
    firstByKey key seen (items ++ [item]) = firstByKey key seen items ++ [item] := by
  induction items generalizing seen with
  | nil => simp [firstByKey, unseen]
  | cons first items ih =>
      have differs : key item ≠ key first := fun same => absent (by simp [same])
      have absentRest : key item ∉ items.map key := fun later =>
        absent (List.mem_cons_of_mem _ later)
      rw [List.cons_append, firstByKey, firstByKey]
      by_cases skipped : seen.contains (key first) = true
      · rw [if_pos skipped, if_pos skipped, ih unseen absentRest]
      · have unseenRest : key item ∉ key first :: seen := by
          intro member
          rcases List.mem_cons.mp member with same | inSeen
          · exact differs same
          · exact unseen inSeen
        rw [if_neg skipped, if_neg skipped, ih unseenRest absentRest]
        rfl

/-- Items with distinct keys, none of them seen, are all kept. -/
theorem firstByKey_of_nodup {key : α → String} {seen : List String} {items : List α}
    (distinct : (items.map key).Nodup) (fresh : ∀ item ∈ items, key item ∉ seen) :
    firstByKey key seen items = items := by
  induction items generalizing seen with
  | nil => rfl
  | cons item items ih =>
      rw [List.map_cons, List.nodup_cons] at distinct
      have unseen : ¬ seen.contains (key item) = true := by simpa using fresh item (by simp)
      have rest := @ih (key item :: seen) distinct.2 fun other member inside => by
        rcases List.mem_cons.mp inside with same | old
        · exact distinct.1 (same ▸ List.mem_map_of_mem member)
        · exact fresh other (List.mem_cons_of_mem item member) old
      rw [firstByKey, if_neg unseen, rest]

end Flowchart
