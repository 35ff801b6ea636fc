import RouteCensus.Call.Nesting
import RouteCensus.Call.Observation
import RouteCensus.Call.Recognize
import RouteCensus.Check.Issue
import RouteCensus.Check.Scalar
import RouteCensus.Command.Console
import RouteCensus.Command.EndpointTable
import RouteCensus.Command.Options
import RouteCensus.Command.Run
import RouteCensus.Contracts.Document
import RouteCensus.Contracts.Store
import RouteCensus.Contracts.Timestamp
import RouteCensus.Endpoint.Basic
import RouteCensus.Endpoint.Descriptor
import RouteCensus.Endpoint.Index
import RouteCensus.Endpoint.Report
import RouteCensus.Endpoint.Schema
import RouteCensus.Expr.Literal
import RouteCensus.Expr.Object
import RouteCensus.Expr.Url
import RouteCensus.Json.Display
import RouteCensus.Json.Reader
import RouteCensus.Json.Value
import RouteCensus.Json.Writer
import RouteCensus.Main
import RouteCensus.Number.Double
import RouteCensus.Number.Integer
import RouteCensus.Number.Shortest
import RouteCensus.Proofs.Call.Bodies
import RouteCensus.Proofs.Call.Comments
import RouteCensus.Proofs.Call.Consistency
import RouteCensus.Proofs.Call.Correspondence
import RouteCensus.Proofs.Call.Likeness
import RouteCensus.Proofs.Call.OneHop
import RouteCensus.Proofs.Call.PathTemplates
import RouteCensus.Proofs.Call.Reordering
import RouteCensus.Proofs.Call.Schemas
import RouteCensus.Proofs.Call.Similarity
import RouteCensus.Proofs.Call.SourceOrder
import RouteCensus.Proofs.Call.Spellings
import RouteCensus.Proofs.Call.StringLiterals
import RouteCensus.Proofs.Call.Words
import RouteCensus.Proofs.Call.Wrappers
import RouteCensus.Proofs.Command.Agreement
import RouteCensus.Proofs.Command.Containment
import RouteCensus.Proofs.Command.Scan
import RouteCensus.Proofs.Contracts.Calendar
import RouteCensus.Proofs.Contracts.Document
import RouteCensus.Proofs.Contracts.Registers
import RouteCensus.Proofs.Contracts.RoundTrip
import RouteCensus.Proofs.Contracts.Timestamp
import RouteCensus.Proofs.Contracts.VersionGate
import RouteCensus.Proofs.Endpoint.Description
import RouteCensus.Proofs.Endpoint.FirstWins
import RouteCensus.Proofs.Endpoint.History
import RouteCensus.Proofs.Endpoint.Union
import RouteCensus.Proofs.Expr.Composite
import RouteCensus.Proofs.Expr.Leaves
import RouteCensus.Proofs.Expr.Template
import RouteCensus.Proofs.Json.Limits
import RouteCensus.Proofs.Json.Lines
import RouteCensus.Proofs.Json.LongNumbers
import RouteCensus.Proofs.Json.RoundTrip
import RouteCensus.Proofs.Json.Scalars
import RouteCensus.Proofs.Json.Steps
import RouteCensus.Proofs.Route.Admission
import RouteCensus.Proofs.Route.Bases
import RouteCensus.Proofs.Route.Controllers
import RouteCensus.Proofs.Route.NormalForm
import RouteCensus.Proofs.Route.Placeholders
import RouteCensus.Proofs.Route.Queries
import RouteCensus.Proofs.Route.Readings
import RouteCensus.Proofs.Route.Segments
import RouteCensus.Proofs.Route.Titles
import RouteCensus.Proofs.Scope.Ancestry
import RouteCensus.Proofs.Scope.BoundNames
import RouteCensus.Proofs.Scope.Declarations
import RouteCensus.Proofs.Scope.Frames
import RouteCensus.Proofs.Scope.Pattern
import RouteCensus.Proofs.Scope.Rearrangement
import RouteCensus.Proofs.Scope.Resolution
import RouteCensus.Proofs.Scope.Simulation
import RouteCensus.Proofs.Scope.Walk
import RouteCensus.Proofs.Source.Faults
import RouteCensus.Proofs.Terminal.Markup
import RouteCensus.Proofs.Terminal.Wrap
import RouteCensus.Proofs.Text.Case
import RouteCensus.Proofs.Text.LowerCase
import RouteCensus.Proofs.Text.Pieces
import RouteCensus.Proofs.Text.Utf8
import RouteCensus.Proofs.Workspace.Accepted
import RouteCensus.Proofs.Workspace.Effects
import RouteCensus.Proofs.Workspace.Extensions
import RouteCensus.Proofs.Workspace.Files
import RouteCensus.Proofs.Workspace.Isolation
import RouteCensus.Proofs.Workspace.Limits
import RouteCensus.Proofs.Workspace.Listing
import RouteCensus.Proofs.Workspace.Report
import RouteCensus.Proofs.Workspace.Writes
import RouteCensus.Route.Names
import RouteCensus.Route.Params
import RouteCensus.Route.Url
import RouteCensus.Scope.Pattern
import RouteCensus.Scope.Survey
import RouteCensus.Scope.Table
import RouteCensus.Source.Grammar
import RouteCensus.Source.Node
import RouteCensus.Source.Outline
import RouteCensus.Terminal.Color
import RouteCensus.Terminal.Emoji
import RouteCensus.Terminal.EmojiTable
import RouteCensus.Terminal.Handler
import RouteCensus.Terminal.Literal
import RouteCensus.Terminal.Markup
import RouteCensus.Terminal.Style
import RouteCensus.Terminal.Table
import RouteCensus.Terminal.Wrap
import RouteCensus.Text.Blank
import RouteCensus.Text.Case
import RouteCensus.Text.CaseTable
import RouteCensus.Text.CodePoints
import RouteCensus.Text.Digit
import RouteCensus.Text.Lines
import RouteCensus.Text.Pieces
import RouteCensus.Text.Printable
import RouteCensus.Text.Utf8
import RouteCensus.Text.Width
import RouteCensus.Text.Word
import RouteCensus.Workspace.Analysis
import RouteCensus.Workspace.EnvFile
import RouteCensus.Workspace.Path
import RouteCensus.Workspace.Scan
import RouteCensus.Workspace.Settings
import RouteCensus.Workspace.Snapshot
import RouteCensus.Workspace.Tree
