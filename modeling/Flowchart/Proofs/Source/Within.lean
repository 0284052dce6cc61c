import Flowchart.Diagram
import Flowchart.Proofs.Json.Limited

/-!
Sources whose comments are within the limits.

The metadata in the comments of a source is only missing if a comment goes beyond the limits. No
comment does so that has no more digits than a number may have, and no more opening brackets than
may stand inside one another.

Main definitions: `Source.Within`, `Source.Exceeds`. Main statement: `Source.within_of_small`.
-/

namespace Flowchart.Source

open Json (Small Spacious)

/-- The comments of a source are within the limits. -/
def Within (limits : Limits) (source : String) : Prop :=
  ∃ metadata, Source.metadata limits (Source.clean source) = .ok metadata

/-- A comment of a source goes beyond the limits. -/
def Exceeds (limits : Limits) (source : String) (cause : DiagramError) : Prop :=
  ∃ excess, Source.metadata limits (Source.clean source) = .error excess ∧ cause = .excess excess

theorem metadata_of_commentless {source : String} (commentless : commentObjects source = [])
    (limits : Limits) : metadata limits source = .ok [] := by
  rw [metadata, commentless]
  rfl

theorem metadata_empty (limits : Limits) : metadata limits "" = .ok [] :=
  metadata_of_commentless rfl limits

section Small

variable {limits : Limits} {payload : String}

/-- An id that can be shown gives the id of a node, or of none. -/
theorem exists_nodeId {room : Nat} {id : Json} (shown : Json.Shown limits room id)
    (spacious : Spacious room limits.showing) : ∃ found, nodeId limits id = .ok found := by
  unfold nodeId
  split
  case h_1 plain isPlain =>
    have alike : Json.Shown limits room plain := (Json.excess?_plain? isPlain).trans shown
    unfold Json.toText
    split
    case h_1 => exact ⟨_, rfl⟩
    case h_2 => exact ⟨_, congrArg (Except.map some) (alike.shown spacious _)⟩
  case h_2 =>
    split
    case h_1 => exact ⟨_, rfl⟩
    case h_2 => exact ⟨_, congrArg (Except.map some) (shown.shown spacious _)⟩

/-- A small comment gives an entry, or none. -/
theorem exists_metadataEntry
    (small : Small limits ((commentDialect limits).roomFor payload) payload.toList)
    (spacious : Spacious ((commentDialect limits).roomFor payload) limits.showing) :
    ∃ entry, metadataEntry limits payload = .ok entry := by
  unfold metadataEntry
  split
  case h_1 => exact ⟨_, rfl⟩
  case h_2 cause excess => exact absurd excess (Json.readEscaped_small small cause)
  case h_3 comment read =>
    split
    case h_1 id fields given attached =>
      have shown := (Json.shown_of_readEscaped read).field "id"
      have same : comment.field "id" = id := by
        unfold Json.given? at given
        split at given
        · cases given
        · exact Option.some.inj given
      obtain ⟨found, isId⟩ := exists_nodeId (same ▸ shown) spacious
      exact ⟨_, congrArg (Except.map _) isId⟩
    case h_2 => exact ⟨_, rfl⟩

end Small

/-- The comments of a source are within the limits if they are small and what can be read can be
shown. -/
theorem within_of_small {limits : Limits} {source : String}
    (small : ∀ payload ∈ commentObjects (Source.clean source),
      Small limits ((commentDialect limits).roomFor payload) payload.toList ∧
        Spacious ((commentDialect limits).roomFor payload) limits.showing) :
    Within limits source := by
  have each : ∀ payload ∈ commentObjects (Source.clean source),
      ∃ entry, metadataEntry limits payload = .ok entry :=
    fun payload member => exists_metadataEntry (small payload member).1 (small payload member).2
  have entries : ∃ entries,
      (commentObjects (Source.clean source)).mapM (metadataEntry limits) = .ok entries := by
    generalize commentObjects (Source.clean source) = payloads at each
    induction payloads with
    | nil => exact ⟨[], rfl⟩
    | cons payload payloads ih =>
        rw [List.forall_mem_cons] at each
        obtain ⟨entry, first⟩ := each.1
        obtain ⟨entries, others⟩ := ih each.2
        rw [List.mapM_cons, first, others]
        exact ⟨entry :: entries, rfl⟩
  obtain ⟨entries, all⟩ := entries
  exact ⟨_, congrArg (Except.map _) all⟩

/-- Without limits there is nothing to go beyond. -/
theorem within_unlimited (source : String) : Within .unlimited source :=
  within_of_small fun payload _ =>
    ⟨⟨Json.countP_opens_le payload.toList, rfl⟩, nofun⟩

end Flowchart.Source
