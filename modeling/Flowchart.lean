import Flowchart.Text.Digit
import Flowchart.Text.Printable
import Flowchart.Text.Uppercase
import Flowchart.Text.Word
import Flowchart.Text.Letter
import Flowchart.Text.Lines
import Flowchart.Text.Search
import Flowchart.Keyed
import Flowchart.Decimal.Written
import Flowchart.Decimal.Reader
import Flowchart.Json.Printer
import Flowchart.Json.Reader
import Flowchart.Source.Metadata
import Flowchart.Source.Detect
import Flowchart.Statement.Reader
import Flowchart.Draft.Load
import Flowchart.Draft.Scan
import Flowchart.Draft.Interpret
import Flowchart.Graph.Classify
import Flowchart.Graph.Palette
import Flowchart.Graph.Interchange
import Flowchart.Diagram
import Flowchart.Geometry.Double
import Flowchart.Geometry.Pairs
import Flowchart.Layout.Options
import Flowchart.Layout.Placement
import Flowchart.Layout.Layered.Drawing
import Flowchart.Layout.Swimlane
import Flowchart.Layout.Overlap
import Flowchart.Layout.Metrics
import Flowchart.Compile
import Flowchart.Settings.Basic
import Flowchart.Settings.File
import Flowchart.Log.Template
import Flowchart.Log.Logging
import Flowchart.Log.Report
import Flowchart.CommandLine.Run
import Flowchart.Main
import Flowchart.Proofs.Distinct
import Flowchart.Proofs.Graph.Canonical
import Flowchart.Proofs.Graph.Agreement
import Flowchart.Proofs.Draft.Meaning
import Flowchart.Proofs.Draft.Loading
import Flowchart.Proofs.Draft.Accepted
import Flowchart.Proofs.Draft.Records
import Flowchart.Proofs.Draft.Structure
import Flowchart.Proofs.Graph.Attached
import Flowchart.Proofs.Draft.Closed
import Flowchart.Proofs.Draft.Received
import Flowchart.Proofs.Recovery
import Flowchart.Proofs.Text.Front
import Flowchart.Proofs.Text.Trim
import Flowchart.Proofs.Statement.Notation
import Flowchart.Proofs.Statement.Nodes
import Flowchart.Proofs.Statement.Links
import Flowchart.Proofs.Statement.RoundTrip
import Flowchart.Proofs.Text.Finding
import Flowchart.Proofs.Text.Yielding
import Flowchart.Proofs.Statement.Named
import Flowchart.Proofs.Sorted
import Flowchart.Proofs.Scan.Claims
import Flowchart.Proofs.Plain.Diagram
import Flowchart.Proofs.Plain.Text
import Flowchart.Proofs.Plain.Source
import Flowchart.Proofs.Plain.Words
import Flowchart.Proofs.Plain.Brackets
import Flowchart.Proofs.Plain.Declarations
import Flowchart.Proofs.Plain.Connections
import Flowchart.Proofs.Plain.Strict
import Flowchart.Proofs.Plain.Lines
import Flowchart.Proofs.Plain.Forgiving
import Flowchart.Proofs.Plain.Mentions
import Flowchart.Proofs.Plain.Agreement
import Flowchart.Proofs.Plain.Meaning
import Flowchart.Proofs.Scan.Lines
import Flowchart.Proofs.Scan.Scopes
import Flowchart.Proofs.Scan.Entries
import Flowchart.Proofs.Scan.Reserved
import Flowchart.Proofs.Scan.FirstMention
import Flowchart.Proofs.Plain.Labels
import Flowchart.Proofs.Scan.Labels
import Flowchart.Proofs.Source.Untouched
import Flowchart.Proofs.Source.Insertion
import Flowchart.Proofs.Statement.Ignored
import Flowchart.Proofs.Draft.Asides
import Flowchart.Proofs.Json.Shown
import Flowchart.Proofs.Graph.Sound
import Flowchart.Proofs.Graph.Reading
import Flowchart.Proofs.Layout.Rearranged
import Flowchart.Proofs.Draft.Spelled
import Flowchart.Proofs.Graph.Portable
import Flowchart.Proofs.Graph.Exchange
import Flowchart.Proofs.Pipeline
import Flowchart.Proofs.Layout.Bounds
import Flowchart.Proofs.Layout.Placed
import Flowchart.Proofs.Layout.Lanes
import Flowchart.Proofs.Layout.Page
import Flowchart.Proofs.Layout.Order
import Flowchart.Proofs.Layout.Forgetful
import Flowchart.Proofs.Layout.Resolved
import Flowchart.Proofs.Layout.Pushed
import Flowchart.Proofs.Layout.Separated
import Flowchart.Proofs.Layout.Balanced
import Flowchart.Proofs.Geometry.Segments
import Flowchart.Proofs.Geometry.Mirror
import Flowchart.Proofs.Layout.Crossings
import Flowchart.Proofs.Layout.Independent
import Flowchart.Proofs.Layout.Abreast
import Flowchart.Proofs.Layout.Flush
import Flowchart.Proofs.Layout.Symmetric
import Flowchart.Proofs.Graph.Explicit
import Flowchart.Proofs.Graph.Kinds
import Flowchart.Proofs.Graph.References
import Flowchart.Proofs.Statement.Keywords
import Flowchart.Proofs.Draft.Generated
import Flowchart.Proofs.Scan.Squares
import Flowchart.Proofs.Scan.Hyphens
import Flowchart.Proofs.Scan.Pipes
import Flowchart.Proofs.Scan.Spans
import Flowchart.Proofs.Text.Replacing
import Flowchart.Proofs.Text.Labels
import Flowchart.Proofs.Graph.Labels
import Flowchart.Proofs.Graph.Normal
import Flowchart.Proofs.Text.LineEnds
import Flowchart.Proofs.Source.Fences
import Flowchart.Proofs.Source.Settled
import Flowchart.Proofs.Graph.Total
import Flowchart.Proofs.Layout.Total
import Flowchart.Proofs.Total
import Flowchart.Proofs.Graph.Loadable
import Flowchart.Proofs.Text.LineFronts
import Flowchart.Proofs.Source.Detected
import Flowchart.Proofs.Layout.Picture
import Flowchart.Proofs.Layout.Crowded
import Flowchart.Proofs.Json.Documents
import Flowchart.Proofs.Log.Decided
import Flowchart.Proofs.Log.Lines
import Flowchart.Proofs.CommandLine.Ends
import Flowchart.Proofs.Layout.Explored
