import PrismaNest.Artifact.Controller
import PrismaNest.Artifact.FileSet
import PrismaNest.Artifact.Kind
import PrismaNest.Artifact.Request
import PrismaNest.Artifact.Service
import PrismaNest.Code.Import
import PrismaNest.Code.Line
import PrismaNest.Command.Arguments
import PrismaNest.Command.Generate
import PrismaNest.Command.Help
import PrismaNest.Command.Outcome
import PrismaNest.Command.Scaffold
import PrismaNest.Data.Json
import PrismaNest.Data.Json.Printer
import PrismaNest.Data.Json.Reader
import PrismaNest.Data.Moment
import PrismaNest.Data.Value
import PrismaNest.Entries
import PrismaNest.Export.Manifest
import PrismaNest.Export.Recording
import PrismaNest.Export.Writer
import PrismaNest.Failure
import PrismaNest.Files.Path
import PrismaNest.Files.Tree
import PrismaNest.Generation.Report
import PrismaNest.Generation.Run
import PrismaNest.Journal.Event
import PrismaNest.Main
import PrismaNest.Naming.Identifier
import PrismaNest.Naming.Plural
import PrismaNest.Naming.Words
import PrismaNest.Number.Binary64
import PrismaNest.Number.Display
import PrismaNest.Number.Shortest
import PrismaNest.Proofs.Artifact.Bodies
import PrismaNest.Proofs.Artifact.Collisions
import PrismaNest.Proofs.Artifact.ControllerCode
import PrismaNest.Proofs.Artifact.ControllerImports
import PrismaNest.Proofs.Artifact.Documentation
import PrismaNest.Proofs.Artifact.Endpoints
import PrismaNest.Proofs.Artifact.ExactImports
import PrismaNest.Proofs.Artifact.Imports
import PrismaNest.Proofs.Artifact.Indentation
import PrismaNest.Proofs.Artifact.Linking
import PrismaNest.Proofs.Artifact.Nesting
import PrismaNest.Proofs.Artifact.Ownership
import PrismaNest.Proofs.Artifact.Placement
import PrismaNest.Proofs.Artifact.Properties
import PrismaNest.Proofs.Artifact.PropertyClasses
import PrismaNest.Proofs.Artifact.References
import PrismaNest.Proofs.Artifact.Serving
import PrismaNest.Proofs.Blocks.Comments
import PrismaNest.Proofs.Blocks.Concatenation
import PrismaNest.Proofs.Blocks.Document
import PrismaNest.Proofs.Blocks.Header
import PrismaNest.Proofs.Blocks.Leftmost
import PrismaNest.Proofs.Blocks.Scan
import PrismaNest.Proofs.Code.Documentation
import PrismaNest.Proofs.Code.ImportLines
import PrismaNest.Proofs.Code.ImportReading
import PrismaNest.Proofs.Code.Indentation
import PrismaNest.Proofs.Code.Methods
import PrismaNest.Proofs.Code.Nesting
import PrismaNest.Proofs.Command.ExitStatus
import PrismaNest.Proofs.Command.Runs
import PrismaNest.Proofs.Entries
import PrismaNest.Proofs.Export.Canonical
import PrismaNest.Proofs.Export.Delivered
import PrismaNest.Proofs.Export.Deliveries
import PrismaNest.Proofs.Export.Faults
import PrismaNest.Proofs.Export.Interruption
import PrismaNest.Proofs.Export.Recording
import PrismaNest.Proofs.Export.Reloading
import PrismaNest.Proofs.Export.Settlement
import PrismaNest.Proofs.Export.Steps
import PrismaNest.Proofs.Export.Targets
import PrismaNest.Proofs.Files.Locations
import PrismaNest.Proofs.Files.Names
import PrismaNest.Proofs.Files.NormalPaths
import PrismaNest.Proofs.Files.Retention
import PrismaNest.Proofs.Files.Tree
import PrismaNest.Proofs.Gathering
import PrismaNest.Proofs.Generation.Assignments
import PrismaNest.Proofs.Generation.Incremental
import PrismaNest.Proofs.Generation.Loading
import PrismaNest.Proofs.Generation.Preview
import PrismaNest.Proofs.Generation.Requests
import PrismaNest.Proofs.Generation.Selections
import PrismaNest.Proofs.Generation.Stages
import PrismaNest.Proofs.Json.Documents
import PrismaNest.Proofs.Json.Numbers
import PrismaNest.Proofs.Json.Strings
import PrismaNest.Proofs.Naming.Casing
import PrismaNest.Proofs.Naming.Division
import PrismaNest.Proofs.Naming.Joining
import PrismaNest.Proofs.Naming.Plural
import PrismaNest.Proofs.Naming.Routes
import PrismaNest.Proofs.Naming.Seams
import PrismaNest.Proofs.Naming.Words
import PrismaNest.Proofs.Portable.Documents
import PrismaNest.Proofs.Portable.Lexemes
import PrismaNest.Proofs.Portable.Scalars
import PrismaNest.Proofs.Portable.Sources
import PrismaNest.Proofs.Portable.Tokens
import PrismaNest.Proofs.Portable.Values
import PrismaNest.Proofs.Scaffold.Delivery
import PrismaNest.Proofs.Scaffold.Placeholders
import PrismaNest.Proofs.Scaffold.Templates
import PrismaNest.Proofs.Schema.CommentLines
import PrismaNest.Proofs.Schema.Concatenation
import PrismaNest.Proofs.Schema.Consistency
import PrismaNest.Proofs.Schema.Declarations
import PrismaNest.Proofs.Schema.Decorators
import PrismaNest.Proofs.Schema.Fields
import PrismaNest.Proofs.Schema.Names
import PrismaNest.Proofs.Schema.Nesting
import PrismaNest.Proofs.Schema.Records
import PrismaNest.Proofs.Schema.TrailingComments
import PrismaNest.Proofs.Settings.Documents
import PrismaNest.Proofs.Settings.Formats
import PrismaNest.Proofs.Settings.Layers
import PrismaNest.Proofs.Settings.Merging
import PrismaNest.Proofs.Settings.Validity
import PrismaNest.Proofs.Text.Absence
import PrismaNest.Proofs.Text.Brackets
import PrismaNest.Proofs.Text.ByteLines
import PrismaNest.Proofs.Text.CommentLines
import PrismaNest.Proofs.Text.LineEnds
import PrismaNest.Proofs.Text.Lists
import PrismaNest.Proofs.Text.Lowering
import PrismaNest.Proofs.Text.Numerals
import PrismaNest.Proofs.Text.Pieces
import PrismaNest.Proofs.Text.Runs
import PrismaNest.Proofs.Text.Symbols
import PrismaNest.Proofs.Validation.Assignments
import PrismaNest.Proofs.Validation.Records
import PrismaNest.Proofs.Validation.Taking
import PrismaNest.Proofs.Workspace.Actions
import PrismaNest.Proofs.Workspace.Additions
import PrismaNest.Proofs.Workspace.Agreement
import PrismaNest.Proofs.Workspace.Amounts
import PrismaNest.Proofs.Workspace.Blindness
import PrismaNest.Proofs.Workspace.Clock
import PrismaNest.Proofs.Workspace.Failures
import PrismaNest.Proofs.Workspace.Faults
import PrismaNest.Proofs.Workspace.Folders
import PrismaNest.Proofs.Workspace.Placing
import PrismaNest.Proofs.Workspace.PlainWrites
import PrismaNest.Proofs.Workspace.Reading
import PrismaNest.Proofs.Workspace.Results
import PrismaNest.Proofs.Workspace.Retention
import PrismaNest.Proofs.Workspace.TemporaryNames
import PrismaNest.Proofs.Workspace.Writing
import PrismaNest.Proofs.Yaml.Lexing
import PrismaNest.Proofs.Yaml.Meanings
import PrismaNest.Proofs.Yaml.ScalarTokens
import PrismaNest.Proofs.Yaml.Trees
import PrismaNest.Proofs.Yaml.Visits
import PrismaNest.Scaffold.Run
import PrismaNest.Scaffold.Template
import PrismaNest.Schema.Basic
import PrismaNest.Schema.Block
import PrismaNest.Schema.Reading
import PrismaNest.Schema.Shape
import PrismaNest.Settings.Basic
import PrismaNest.Settings.File
import PrismaNest.Settings.Shape
import PrismaNest.Text.Blank
import PrismaNest.Text.CodePoint
import PrismaNest.Text.DecimalDigit
import PrismaNest.Text.Digest
import PrismaNest.Text.Lines
import PrismaNest.Text.LowerCase
import PrismaNest.Text.Printable
import PrismaNest.Text.Quoted
import PrismaNest.Text.Ranges
import PrismaNest.Text.Utf8
import PrismaNest.Text.WordChar
import PrismaNest.Validation.Issue
import PrismaNest.Validation.Reader
import PrismaNest.Validation.Shape
import PrismaNest.Workspace.Basic
import PrismaNest.Workspace.Files
import PrismaNest.Workspace.Timer
import PrismaNest.Yaml.Composition
import PrismaNest.Yaml.Document
import PrismaNest.Yaml.Fault
import PrismaNest.Yaml.Graph
import PrismaNest.Yaml.Merge
import PrismaNest.Yaml.Scalar
import PrismaNest.Yaml.Tag
import PrismaNest.Yaml.Timestamp
import PrismaNest.Yaml.Token
import PrismaNest.Yaml.Token.Block
import PrismaNest.Yaml.Token.Lexer
import PrismaNest.Yaml.Token.Plain
import PrismaNest.Yaml.Token.Property
import PrismaNest.Yaml.Token.Quoted
