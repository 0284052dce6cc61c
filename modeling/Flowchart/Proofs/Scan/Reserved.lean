import Flowchart.Proofs.Scan.Entries

/-!
Reserved words in diagrams that are read forgivingly.

A node with brackets is passed over if its id is reserved. The ends of links are not looked at, so
a reserved word becomes a vertex exactly as the end of a link, and then it is bare.

Main statement: `reserved_vertices`.
-/

namespace Flowchart.Scan

/-- A node with brackets has no reserved id. -/
theorem accepted_of_mem_declarations {line : List Char} {declaration : Declaration}
    (member : declaration ∈ declarations line) : isReserved declaration.id = false :=
  (candidate_of_mem_declarations member).1

theorem accepted_of_mem_declared {line : List Char} {declaration : Declaration}
    (member : declaration ∈ declared line) : isReserved declaration.id = false := by
  rw [declared] at member
  split at member
  case isTrue => exact accepted_of_mem_declarations member
  case isFalse => cases member

section Drafts

variable {source : String}

/-- The ends of the arcs of a diagram are entered by its lines. -/
theorem mem_entered_of_mem_arcs {arc : Arc} (member : arc ∈ (Draft.scan source).arcs)
    {vertex : Vertex} (isEnd : vertex ∈ Plain.arcEnds arc) :
    vertex ∈ (scannedLines source).flatMap entered := by
  rw [arcs_scan] at member
  obtain ⟨line, listed, isDrawn⟩ := List.mem_flatMap.mp member
  exact List.mem_flatMap.mpr ⟨line, listed, mem_entered_of_mem_drawn isDrawn vertex isEnd⟩

/-- A vertex with a reserved id is the end of an arc. -/
theorem isEnd_of_isReserved {vertex : Vertex} (member : vertex ∈ (Draft.scan source).vertices)
    (reserved : isReserved vertex.id = true) :
    ∃ arc ∈ (Draft.scan source).arcs,
      vertex = ⟨arc.source, none, none⟩ ∨ vertex = ⟨arc.target, none, none⟩ := by
  have first := (mem_vertices_scan source).mp member
  obtain ⟨line, listed, found⟩ := List.mem_flatMap.mp (List.mem_of_find?_eq_some first.1)
  rcases mem_entered found with ⟨declaration, isDeclared, rfl⟩ | ⟨arc, isDrawn, isEnd⟩
  · have accepted : isReserved (Plain.declaredVertex declaration).id = false :=
      accepted_of_mem_declared isDeclared
    rw [accepted] at reserved
    cases reserved
  · have inArcs : arc ∈ (Draft.scan source).arcs := by
      rw [arcs_scan]
      exact List.mem_flatMap_of_mem listed isDrawn
    exact ⟨arc, inArcs, isEnd⟩

/-- The ends of the arcs of a diagram are vertices, unless they are blocks. -/
theorem mem_ids_of_isEnd {arc : Arc} (member : arc ∈ (Draft.scan source).arcs) {id : String}
    (isEnd : arc.source = id ∨ arc.target = id) (noBlock : id ∉ (Draft.scan source).blockIds) :
    id ∈ (Draft.scan source).vertices.map Vertex.id := by
  have isListed : ⟨id, none, none⟩ ∈ Plain.arcEnds arc := by
    apply List.mem_pair.mpr
    rcases isEnd with rfl | rfl
    · exact Or.inl rfl
    · exact Or.inr rfl
  rw [vertices_scan]
  apply mem_map_firstByKey.mpr
  exact ⟨List.mem_map_of_mem (mem_entered_of_mem_arcs member isListed), noBlock⟩

end Drafts

/-- A vertex with a reserved id is bare, and a reserved word is the id of a vertex exactly if it is
the end of an arc and no block. -/
theorem reserved_vertices (source : String) :
    (∀ vertex ∈ (Draft.scan source).vertices, isReserved vertex.id = true →
        vertex.text = none ∧ vertex.shape = none) ∧
      ∀ id, isReserved id = true →
        (id ∈ (Draft.scan source).vertices.map Vertex.id ↔
          id ∉ (Draft.scan source).blockIds ∧
            ∃ arc ∈ (Draft.scan source).arcs, arc.source = id ∨ arc.target = id) := by
  constructor
  · intro vertex member reserved
    obtain ⟨arc, _, isSource | isTarget⟩ := isEnd_of_isReserved member reserved
    · rw [isSource]
      exact ⟨rfl, rfl⟩
    · rw [isTarget]
      exact ⟨rfl, rfl⟩
  · intro id reserved
    constructor
    · intro listed
      obtain ⟨vertex, member, rfl⟩ := List.mem_map.mp listed
      obtain ⟨arc, inArcs, isEnd⟩ := isEnd_of_isReserved member reserved
      have named : arc.source = vertex.id ∨ arc.target = vertex.id :=
        isEnd.imp (fun same => (congrArg Vertex.id same).symm)
          fun same => (congrArg Vertex.id same).symm
      exact ⟨((mem_vertices_scan source).mp member).2, arc, inArcs, named⟩
    · intro found
      obtain ⟨noBlock, arc, inArcs, isEnd⟩ := found
      exact mem_ids_of_isEnd inArcs isEnd noBlock

/-- A link that leads to a reserved word: the word becomes a vertex, and is bare. -/
theorem reserved_vertices_linkToEnd :
    isReserved "END" = true ∧
      (⟨"END", none, none⟩ : Vertex) ∈ (Draft.scan "flowchart TD\nA --> END").vertices ∧
        ((Vertex.mk "END" none none).text = none ∧ (Vertex.mk "END" none none).shape = none) ∧
          ("END" ∈ (Draft.scan "flowchart TD\nA --> END").vertices.map Vertex.id ↔
            "END" ∉ (Draft.scan "flowchart TD\nA --> END").blockIds ∧
              ∃ arc ∈ (Draft.scan "flowchart TD\nA --> END").arcs,
                arc.source = "END" ∨ arc.target = "END") := by
  have reserved : isReserved "END" = true := by decide +kernel
  have member : (⟨"END", none, none⟩ : Vertex) ∈
      (Draft.scan "flowchart TD\nA --> END").vertices := by decide +kernel
  have general := reserved_vertices "flowchart TD\nA --> END"
  exact ⟨reserved, member, general.1 _ member reserved, general.2 "END" reserved⟩

/-- The word for the end of a block becomes a vertex if a link leads to it. -/
theorem scan_linkToEnd :
    ∃ vertex ∈ (Draft.scan "flowchart TD\nA --> B\nA --> end").vertices,
      isReserved vertex.id = true := by
  apply Exists.intro ⟨"end", none, none⟩
  decide +kernel

end Flowchart.Scan
