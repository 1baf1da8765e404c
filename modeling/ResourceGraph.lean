import ResourceGraph.Analysis.Descriptor
import ResourceGraph.Analysis.Response
import ResourceGraph.Analyzer
import ResourceGraph.Argument
import ResourceGraph.Block
import ResourceGraph.Cli
import ResourceGraph.CommandLine
import ResourceGraph.Context
import ResourceGraph.Decimal.Binary
import ResourceGraph.Decimal.Layout
import ResourceGraph.Decimal.Shortest
import ResourceGraph.Declaration
import ResourceGraph.Dependency.Map
import ResourceGraph.Dependency.Reference
import ResourceGraph.Dependency.Resolve
import ResourceGraph.Digest.Blake3
import ResourceGraph.Document
import ResourceGraph.Error
import ResourceGraph.Graph.Edge
import ResourceGraph.Graph.Endpoint
import ResourceGraph.Graph.File
import ResourceGraph.Graph.Materialize
import ResourceGraph.Graph.Node
import ResourceGraph.Graph.Session
import ResourceGraph.Graph.Store
import ResourceGraph.Grouping
import ResourceGraph.Header
import ResourceGraph.Ignore.Glob
import ResourceGraph.Ignore.Rules
import ResourceGraph.Import
import ResourceGraph.Json.Lexer
import ResourceGraph.Json.Reader
import ResourceGraph.Json.Value
import ResourceGraph.Json.Writer
import ResourceGraph.Kind
import ResourceGraph.Main
import ResourceGraph.Notes
import ResourceGraph.Parsed
import ResourceGraph.Path
import ResourceGraph.Records
import ResourceGraph.Registry
import ResourceGraph.Scan
import ResourceGraph.Settings
import ResourceGraph.Shell.Run
import ResourceGraph.Shell.Script
import ResourceGraph.Shell.Tool
import ResourceGraph.Sorted
import ResourceGraph.Sources
import ResourceGraph.Text.Blank
import ResourceGraph.Text.Case
import ResourceGraph.Text.CaseTable
import ResourceGraph.Text.Find
import ResourceGraph.Text.Lines
import ResourceGraph.Text.Range
import ResourceGraph.Text.Utf8
import ResourceGraph.Text.Width
import ResourceGraph.Text.Word
import ResourceGraph.TextTable
import ResourceGraph.Toml.Reader
import ResourceGraph.Toml.Scalar
import ResourceGraph.Toml.Value
import ResourceGraph.Toml.Writer
import ResourceGraph.Total
import ResourceGraph.Workspace
import ResourceGraph.Proofs.Ascending
import ResourceGraph.Proofs.Grouping.Filing
import ResourceGraph.Proofs.Grouping
import ResourceGraph.Proofs.Dependency.Symbols
import ResourceGraph.Proofs.Encounter
import ResourceGraph.Proofs.Answers
import ResourceGraph.Proofs.Graph.Calls
import ResourceGraph.Proofs.Graph.Stores
import ResourceGraph.Proofs.Graph.TypeNames
import ResourceGraph.Proofs.Graph.Runs
import ResourceGraph.Proofs.Graph.Tallies
import ResourceGraph.Proofs.Graph.Integrity
import ResourceGraph.Proofs.Graph.Confidence
import ResourceGraph.Proofs.Graph.Replace
import ResourceGraph.Proofs.Graph.NodeIds
import ResourceGraph.Proofs.Graph.ExactIds
import ResourceGraph.Proofs.Dependency.Edges
import ResourceGraph.Proofs.Registry
import ResourceGraph.Proofs.Text.Find
import ResourceGraph.Proofs.Text.Cut
import ResourceGraph.Proofs.Dependency.Declared
import ResourceGraph.Proofs.Context
import ResourceGraph.Proofs.Document
import ResourceGraph.Proofs.Import
import ResourceGraph.Proofs.Dependency.Spelled
import ResourceGraph.Proofs.Graph.Isolation
import ResourceGraph.Proofs.Graph.Merge
import ResourceGraph.Proofs.Graph.Parts
import ResourceGraph.Proofs.Graph.Order
import ResourceGraph.Proofs.Graph.ModuleOutputs
import ResourceGraph.Proofs.Dependency.Blocks
import ResourceGraph.Proofs.Listing
import ResourceGraph.Proofs.Json.Lexer
import ResourceGraph.Proofs.Rejected
import ResourceGraph.Proofs.Json.Reader
import ResourceGraph.Proofs.Response
import ResourceGraph.Proofs.Dependency.Paths
import ResourceGraph.Proofs.Dependency.Entries
import ResourceGraph.Proofs.Dependency.Fewer
import ResourceGraph.Proofs.Dependency.Addresses
import ResourceGraph.Proofs.Dependency.Arguments
import ResourceGraph.Proofs.Dependency.Categories
import ResourceGraph.Proofs.Dependency.Implicit
import ResourceGraph.Proofs.Grouping.Order
import ResourceGraph.Proofs.Grouping.Names
import ResourceGraph.Proofs.Batches
import ResourceGraph.Proofs.Braces
import ResourceGraph.Proofs.Headers
import ResourceGraph.Proofs.Nesting
import ResourceGraph.Proofs.Text.Lines
import ResourceGraph.Proofs.Comments
import ResourceGraph.Proofs.Cleaning
import ResourceGraph.Proofs.Dependency.Mentions
import ResourceGraph.Proofs.Text.Order
import ResourceGraph.Proofs.Notes
import ResourceGraph.Proofs.Graph.Maps
import ResourceGraph.Proofs.Json.Depth
import ResourceGraph.Proofs.Json.Writer
import ResourceGraph.Proofs.Graph.Properties
