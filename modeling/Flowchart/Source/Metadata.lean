import Flowchart.Json.Printer
import Flowchart.Json.Reader
import Flowchart.Source.Clean

/-!
Metadata comments: a comment line that holds an object with an `id` and a `metadata` object
attaches that object to the node of this id. Comments that are no documents are passed over, but a
comment that goes beyond the limits is not.

Main definition: `Source.metadata`.
-/

namespace Flowchart.Source

open Flowchart.Text

/-- Metadata objects by node id, in the order in which the ids first appear. -/
abbrev Metadata := Keyed Attached

/-- The part of a comment line that may be an object, if the line is such a comment. -/
def commentObject? (line : List Char) : Option String := do
  let payload := trim (← afterLiteral "%%".toList (trim line))
  if payload.head? = some '\x7b' ∧ payload.getLast? = some '\x7d' then
    some (String.ofList payload)
  else none

/-- The texts in braces of all comment lines. -/
def commentObjects (source : String) : List String :=
  (splitLines source.toList).filterMap commentObject?

/-- The dialect of comments. -/
def commentDialect (limits : Limits) : Json.Dialect where
  limits := limits

/-- The node id that a value in escaped form gives. A string with half of a surrogate pair in it is
the id of no node; anywhere else such a half is shown as its escape. -/
def nodeId (limits : Limits) (id : Json) : Except Excess (Option String) :=
  match id.plain? with
  | some id => (id.toText limits).map some
  | none =>
    match id with
    | .str _ => .ok none
    | value => (value.shown limits Text.quotedEscaped).map some

/-- The node id and the metadata that a comment gives. An absent id or metadata that is no object
give none. -/
def metadataEntry (limits : Limits) (payload : String) :
    Except Excess (Option (String × Attached)) :=
  match Json.readEscaped (commentDialect limits) payload with
  | .error .malformed => .ok none
  | .error (.excess cause) => .error cause
  | .ok comment =>
    match (comment.field "id").given?, comment.field "metadata" with
    | some id, .obj fields =>
      (nodeId limits id).map fun id => id.map fun id => (id, .ofEscaped fields)
    | _, _ => .ok none

/-- The metadata of a source. A later comment for the same id replaces the earlier one. -/
def metadata (limits : Limits) (source : String) : Except Excess Metadata :=
  ((commentObjects source).mapM (metadataEntry limits)).map fun entries =>
    Keyed.ofPairs (entries.filterMap id)

/-- The comments in braces that are no documents, in order. -/
def malformedComments (limits : Limits) (source : String) : List String :=
  (commentObjects source).filter fun payload =>
    match Json.readEscaped (commentDialect limits) payload with
    | .error .malformed => true
    | _ => false

end Flowchart.Source
