import NetDiagram.Text.Basic
import NetDiagram.Text.Blank
import NetDiagram.Decimal.Shortest
import NetDiagram.Decimal.Style
import NetDiagram.Decimal.Reading
import NetDiagram.Json
import NetDiagram.Xml
import NetDiagram.Colour
import NetDiagram.Direction
import NetDiagram.Geometry
import NetDiagram.Log
import NetDiagram.Path
import NetDiagram.Classification
import NetDiagram.Diagnostic
import NetDiagram.Source.Span
import NetDiagram.Source.Token
import NetDiagram.Source.Statement
import NetDiagram.Source.Survey
import NetDiagram.Topology.Basic
import NetDiagram.Topology.Assembly
import NetDiagram.Topology.Check
import NetDiagram.Topology.Export
import NetDiagram.Layout.Settings
import NetDiagram.Layout.Box
import NetDiagram.Layout.Placement
import NetDiagram.Settings.Value
import NetDiagram.Settings.Basic
import NetDiagram.Settings.Decode
import NetDiagram.Toml.Scalar
import NetDiagram.Toml.Table
import NetDiagram.Toml.Document
import NetDiagram.Document.Basic
import NetDiagram.Document.Cells
import NetDiagram.Document.Flowchart
import NetDiagram.Document.Scene
import NetDiagram.Document.SceneJson
import NetDiagram.Diagram
import NetDiagram.Journal.Parsing
import NetDiagram.Journal.Drawing
import NetDiagram.CommandLine.Arguments
import NetDiagram.CommandLine.Failure
import NetDiagram.CommandLine.Files
import NetDiagram.CommandLine.Run
import NetDiagram.Main
import NetDiagram.Proofs.Naming.Decoding
import NetDiagram.Proofs.Reading.Tokens
import NetDiagram.Proofs.Reading.Forms
import NetDiagram.Proofs.Reading.Leftmost
import NetDiagram.Proofs.Reading.Lines
import NetDiagram.Proofs.Reading.Problems
import NetDiagram.Proofs.Reading.Extraction
import NetDiagram.Proofs.Reading.Verdicts
import NetDiagram.Proofs.Grouping.FirstAppearance
import NetDiagram.Proofs.Grouping.Tree
import NetDiagram.Proofs.Grouping.Assembly
import NetDiagram.Proofs.Drawing.Links
import NetDiagram.Proofs.Drawing.Presentation
import NetDiagram.Proofs.Drawing.Cells
import NetDiagram.Proofs.Drawing.Flowchart
import NetDiagram.Proofs.Drawing.Scene
import NetDiagram.Proofs.Placing.Nesting
import NetDiagram.Proofs.Placing.Margins
import NetDiagram.Proofs.Placing.Separation
import NetDiagram.Proofs.Bonds.Arena
import NetDiagram.Proofs.Bonds.Assembly
import NetDiagram.Proofs.Bonds.Consistency
import NetDiagram.Proofs.Bonds.Fields
import NetDiagram.Proofs.Outline.Hierarchy
import NetDiagram.Proofs.Outline.Cells
import NetDiagram.Proofs.Markup.Grammar
import NetDiagram.Proofs.Markup.Writing
import NetDiagram.Proofs.Markup.Values
import NetDiagram.Proofs.Markup.Labels
import NetDiagram.Proofs.Outline.Graph
import NetDiagram.Proofs.Notation.Grammar
import NetDiagram.Proofs.Notation.Writing
import NetDiagram.Proofs.Notation.Values
import NetDiagram.Proofs.Placing.Containment
import NetDiagram.Proofs.Reading.Independence
import NetDiagram.Proofs.Reading.Printing
import NetDiagram.Proofs.Reading.Positions
import NetDiagram.Proofs.Reading.Mismatches
import NetDiagram.Proofs.Reading.Brackets
import NetDiagram.Proofs.Reading.Scanning
import NetDiagram.Proofs.Grouping.Connections
import NetDiagram.Proofs.Grouping.Correspondence
import NetDiagram.Proofs.Grouping.Growth
import NetDiagram.Proofs.Grouping.Reprinting
import NetDiagram.Proofs.Grouping.Loops
import NetDiagram.Proofs.Grouping.Noise
import NetDiagram.Proofs.Drawing.Blocks
import NetDiagram.Proofs.Drawing.Order
import NetDiagram.Proofs.Drawing.Labels
import NetDiagram.Proofs.Drawing.Clauses
import NetDiagram.Proofs.Drawing.Spelling
import NetDiagram.Proofs.Drawing.Names
import NetDiagram.Proofs.Drawing.Accounting
import NetDiagram.Proofs.Drawing.Styling
import NetDiagram.Proofs.Outline.Spots
import NetDiagram.Proofs.Outline.Offsets
import NetDiagram.Proofs.Bonds.Centers
import NetDiagram.Proofs.Bonds.Seeds
import NetDiagram.Proofs.Drawing.Ends
import NetDiagram.Proofs.Drawing.Agreement
import NetDiagram.Proofs.Placing.Direction
import NetDiagram.Proofs.Placing.Growth
import NetDiagram.Proofs.Running.Writing
import NetDiagram.Proofs.Running.Outcome
