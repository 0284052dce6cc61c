import Flowchart.Proofs.Plain.Mentions
import Flowchart.Proofs.Scan.Entries

/-!
Which declaration of a node the forgiving reader keeps.

A vertex is entered by the first line that mentions its id, be it before brackets or as the bare end
of a link. If this line declares the node, the vertex is what the line declares first; otherwise it
is bare, and stays so whatever is declared on later lines.

Main definitions: `firstMention?`, `firstDeclaration?`. Main statement: `vertex_firstMention`.
-/

namespace Flowchart.Scan

open Flowchart.Plain (arcEnds declaredVertex)

/-- The first line that mentions an id. -/
def firstMention? (lines : List (List Char)) (id : String) : Option (List Char) :=
  lines.find? fun line => (registered line).contains id

/-- The first declaration of an id, in the order of the lines and of the text on a line. -/
def firstDeclaration? (lines : List (List Char)) (id : String) : Option Declaration :=
  (lines.flatMap declared).find? fun declaration => declaration.id == id

/-- The vertex that a declaration makes of an id. Without declaration it is bare. -/
def vertexOf (id : String) : Option Declaration → Vertex
  | some declaration => declaredVertex declaration
  | none => ⟨id, none, none⟩

theorem vertexOf_none_ne (id : String) (declaration : Declaration) :
    vertexOf id none ≠ vertexOf id (some declaration) := by
  intro same
  have texts : none = some declaration.text := congrArg Vertex.text same
  cases texts

section Lines

variable {lines : List (List Char)} {line : List Char} {id : String}

/-- A line mentions the ids of its entries. -/
theorem contains_registered (line : List Char) (id : String) :
    (registered line).contains id =
      ((entered line).find? fun vertex => vertex.id == id).isSome := by
  apply Bool.eq_iff_iff.mpr
  rw [List.contains_iff_mem, registered_eq, List.mem_map, List.find?_isSome]
  simp only [beq_iff_eq]

/-- The first entry of an id on a line is that of its first declaration there. -/
theorem eq_vertexOf_of_find?_entered {vertex : Vertex}
    (found : (entered line).find? (fun other => other.id == id) = some vertex) :
    vertex = vertexOf id (firstDeclaration? [line] id) := by
  have named : vertex.id = id := by simpa using List.find?_some found
  rw [entered, List.find?_append, List.find?_map] at found
  have declares : (declared line).find? ((fun other => other.id == id) ∘ declaredVertex) =
      firstDeclaration? [line] id := by
    rw [firstDeclaration?, List.flatMap_singleton]
    rfl
  rw [declares] at found
  cases first : firstDeclaration? [line] id with
  | some declaration =>
      rw [first] at found
      exact (Option.some.inj found).symm
  | none =>
      rw [first] at found
      have bare := Plain.bare_of_mem_arcEnds (List.mem_of_find?_eq_some found)
      rw [named] at bare
      exact bare

/-- The first entry of an id is on the first line that mentions it. -/
theorem firstMention?_of_find?_entered {vertex : Vertex}
    (found : (lines.flatMap entered).find? (fun other => other.id == id) = some vertex) :
    ∃ line, firstMention? lines id = some line ∧
      vertex = vertexOf id (firstDeclaration? [line] id) := by
  rw [List.find?_flatMap] at found
  obtain ⟨before, line, after, split, here, unseen⟩ := List.findSome?_eq_some_iff.mp found
  apply Exists.intro line
  apply And.intro
  · apply List.find?_eq_some_iff_append.mpr
    have mentioned : (registered line).contains id = true := by
      rw [contains_registered, here]
      rfl
    refine ⟨mentioned, before, after, split, ?_⟩
    intro earlier listed
    rw [contains_registered, unseen earlier listed]
    rfl
  · exact eq_vertexOf_of_find?_entered here

/-- A line that does not mention an id does not declare it. -/
theorem firstDeclaration?_eq_none (unmentioned : ¬ (registered line).contains id = true) :
    firstDeclaration? [line] id = none := by
  rw [firstDeclaration?, List.flatMap_singleton, List.find?_eq_none]
  intro declaration isDeclared same
  apply unmentioned
  rw [List.contains_iff_mem, registered_eq, ← beq_iff_eq.mp same]
  exact List.mem_map_of_mem (List.mem_append_left _ (List.mem_map_of_mem isDeclared))

/-- The first declaration of an id is that of the first line which has one. -/
theorem firstDeclaration?_eq (lines : List (List Char)) (id : String) :
    firstDeclaration? lines id = lines.findSome? fun line => firstDeclaration? [line] id := by
  simp only [firstDeclaration?, List.find?_flatMap, List.flatMap_singleton]

/-- If the first line that mentions an id declares it, this is its first declaration. -/
theorem firstDeclaration?_of_firstMention? (first : firstMention? lines id = some line)
    {declaration : Declaration} (here : firstDeclaration? [line] id = some declaration) :
    firstDeclaration? lines id = some declaration := by
  obtain ⟨_, before, after, split, unseen⟩ := List.find?_eq_some_iff_append.mp first
  rw [firstDeclaration?_eq, List.findSome?_eq_some_iff]
  refine ⟨before, line, after, split, here, ?_⟩
  intro earlier listed
  apply firstDeclaration?_eq_none
  simpa using unseen earlier listed

end Lines

/-- A vertex is what the first line that mentions its id declares it to be first, and bare if the
line does not declare it. So it is what the diagram declares it to be first exactly if this line
declares it, or none does. -/
theorem vertex_firstMention (source : String) :
    ∀ vertex ∈ (Draft.scan source).vertices,
      ∃ line, firstMention? (scannedLines source) vertex.id = some line ∧
        vertex = vertexOf vertex.id (firstDeclaration? [line] vertex.id) ∧
          (vertex = vertexOf vertex.id (firstDeclaration? (scannedLines source) vertex.id) ↔
            (firstDeclaration? [line] vertex.id).isSome = true ∨
              firstDeclaration? (scannedLines source) vertex.id = none) := by
  intro vertex member
  have found := ((mem_vertices_scan source).mp member).1
  obtain ⟨line, first, made⟩ := firstMention?_of_find?_entered found
  refine ⟨line, first, made, ?_⟩
  cases here : firstDeclaration? [line] vertex.id with
  | some declaration =>
      rw [here] at made
      rw [firstDeclaration?_of_firstMention? first here]
      exact iff_of_true made (Or.inl rfl)
  | none =>
      rw [here] at made
      cases anywhere : firstDeclaration? (scannedLines source) vertex.id with
      | none => exact iff_of_true made (Or.inr rfl)
      | some declaration =>
          have differs : vertex ≠ vertexOf vertex.id (some declaration) :=
            fun same => vertexOf_none_ne vertex.id declaration (made.symm.trans same)
          exact iff_of_false differs (by simp)

/-- A node that is declared after its mention in a link is bare, as on the line of the link. -/
theorem vertex_firstMention_lateDeclaration :
    ⟨"B", none, none⟩ ∈ (Draft.scan "flowchart TD\nA --> B\nB[Late]").vertices ∧
      ∃ line, firstMention? (scannedLines "flowchart TD\nA --> B\nB[Late]") "B" = some line ∧
        (⟨"B", none, none⟩ : Vertex) = vertexOf "B" (firstDeclaration? [line] "B") ∧
          ((⟨"B", none, none⟩ : Vertex) =
              vertexOf "B"
                (firstDeclaration? (scannedLines "flowchart TD\nA --> B\nB[Late]") "B") ↔
            (firstDeclaration? [line] "B").isSome = true ∨
              firstDeclaration? (scannedLines "flowchart TD\nA --> B\nB[Late]") "B" = none) := by
  have member : ⟨"B", none, none⟩ ∈ (Draft.scan "flowchart TD\nA --> B\nB[Late]").vertices := by
    decide +kernel
  exact ⟨member, vertex_firstMention _ _ member⟩

/-- A node that is mentioned in a link before it is declared is bare, unlike its declaration. -/
theorem scan_lateDeclaration :
    ⟨"B", none, none⟩ ∈ (Draft.scan "flowchart TD\nA --> B\nB[Late]").vertices ∧
      (firstDeclaration? (scannedLines "flowchart TD\nA --> B\nB[Late]") "B").map declaredVertex =
        some ⟨"B", some "Late", some "square"⟩ := by
  decide +kernel

end Flowchart.Scan
