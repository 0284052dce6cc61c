/-!
Insertion-ordered dictionaries: lists of key and value pairs in which a key keeps the place of its
first entry and the value of its last.
-/

namespace Flowchart

/-- Values under keys, in the order in which the keys were first entered. -/
abbrev Keyed (α : Type) := List (String × α)

namespace Keyed

variable {α : Type}

/-- Enter a value. A key that is present keeps its place and takes the new value. -/
def put (key : String) (value : α) : Keyed α → Keyed α
  | [] => [(key, value)]
  | entry :: rest =>
    if entry.1 = key then (key, value) :: rest else entry :: put key value rest

/-- The value under a key. -/
def find? (key : String) (entries : Keyed α) : Option α :=
  entries.lookup key

/-- The keys in order. -/
def keys (entries : Keyed α) : List String :=
  entries.map Prod.fst

/-- The values in the order of their keys. -/
def values (entries : Keyed α) : List α :=
  entries.map Prod.snd

/-- Enter pairs one after the other. -/
def ofPairs (pairs : List (String × α)) : Keyed α :=
  pairs.foldl (fun entries pair => put pair.1 pair.2 entries) []

end Keyed

end Flowchart
