import Flowchart.Failure
import Flowchart.Validation

/-!
Why a diagram cannot be read strictly.
-/

namespace Flowchart

/-- The records that an interpreter hands over. -/
inductive RecordKind where
  | vertex
  | edge
  | subgraph
deriving Repr, Inhabited, DecidableEq

/-- The name of a kind of record. -/
def RecordKind.name : RecordKind → String
  | vertex => "vertex"
  | edge => "edge"
  | subgraph => "subgraph"

/-- The causes for which a diagram is handed to the forgiving reader. Lines count from one. -/
inductive ParseError where
  | unrecognizedStatement (line : String)
  | missingDeclaration (lineNumber : Nat) (line : String)
  | duplicateDeclaration (lineNumber : Nat)
  | unmatchedEnd (lineNumber : Nat)
  | emptyDiagram
  | unclosedBlock (id : String)
  | invalidRecord (kind : RecordKind) (index : Nat) (faults : List Fault)
  | interpreterFailed (description : String)
  | edgesWithoutNodes (count : Nat)
  /-- A failure that an interpreter reports in its own words. -/
  | reported (kind : FailureKind) (message : String)
deriving Repr, Inhabited, DecidableEq

/-- How a cause is reported. -/
def ParseError.toFailure : ParseError → Failure
  | unrecognizedStatement line =>
    ⟨.grammar, "Unrecognized statement", [("line", .str line)]⟩
  | missingDeclaration lineNumber line =>
    ⟨.grammar, "Missing or unsupported diagram declaration",
      [("line_no", .int lineNumber), ("line", .str line)]⟩
  | duplicateDeclaration lineNumber =>
    ⟨.grammar, "Duplicate diagram declaration", [("line_no", .int lineNumber)]⟩
  | unmatchedEnd lineNumber => ⟨.grammar, "Unmatched end", [("line_no", .int lineNumber)]⟩
  | emptyDiagram => ⟨.grammar, "Empty diagram", []⟩
  | unclosedBlock id => ⟨.grammar, "Unclosed subgraph", [("subgraph", .str id)]⟩
  | invalidRecord kind index faults =>
    ⟨.grammar, "Invalid " ++ kind.name ++ " record from interpreter",
      [("index", .int index), ("errors", .arr (faults.map Fault.toJson))]⟩
  | interpreterFailed description =>
    ⟨.grammar, "Interpreter raised an error", [("error", .str description)]⟩
  | edgesWithoutNodes count =>
    ⟨.structural, "Interpreter returned edges without nodes", [("edges", .int count)]⟩
  | reported kind message => ⟨kind, message, []⟩

end Flowchart
