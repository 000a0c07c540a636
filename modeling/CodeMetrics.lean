import CodeMetrics.Tree.Node
import CodeMetrics.Tree.Cursor
import CodeMetrics.Tree.Kind
import CodeMetrics.Tree.Parents
import CodeMetrics.Tree.Outline
import CodeMetrics.Tree.OutlineText
import CodeMetrics.Tree.Damage
import CodeMetrics.Text.CharSet
import CodeMetrics.Text.Identifier
import CodeMetrics.Text.Printable
import CodeMetrics.Text.Digit
import CodeMetrics.Text.Quoted
import CodeMetrics.OrderedTable
import CodeMetrics.Metrics.Record
import CodeMetrics.Log
import CodeMetrics.Metrics.Function
import CodeMetrics.Metrics.File
import CodeMetrics.Metrics.Result
import CodeMetrics.Report.Blocks
import CodeMetrics.Report.Json
import CodeMetrics.Number.Binary64
import CodeMetrics.Number.Shortest
import CodeMetrics.Number.Numeral
import CodeMetrics.Value.Moment
import CodeMetrics.Value.Basic
import CodeMetrics.Toml.Text
import CodeMetrics.Toml.Scalar
import CodeMetrics.Toml.Document
import CodeMetrics.Files.OsError
import CodeMetrics.Files.Path
import CodeMetrics.Files.Disk
import CodeMetrics.Text.Utf8
import CodeMetrics.Language
import CodeMetrics.Failure
import CodeMetrics.Failure.Raised
import CodeMetrics.Settings.Basic
import CodeMetrics.Settings.Environment
import CodeMetrics.Settings.Load
import CodeMetrics.Session.Basic
import CodeMetrics.Session.Source
import CodeMetrics.Session.Analyze
import CodeMetrics.Report.Sheet
import CodeMetrics.Report.Basic
import CodeMetrics.CommandLine.Command
import CodeMetrics.CommandLine.Arguments
import CodeMetrics.Console.CellWidth
import CodeMetrics.Console.Cells
import CodeMetrics.Console.Emoji
import CodeMetrics.Console.EmojiTable
import CodeMetrics.Console.Markup
import CodeMetrics.Console.Drawing
import CodeMetrics.CommandLine.Standard
import CodeMetrics.Main
import CodeMetrics.Proofs.Tree.Subtree
import CodeMetrics.Proofs.Tree.Positions
import CodeMetrics.Proofs.Tree.Links
import CodeMetrics.Proofs.Metrics.Counts
import CodeMetrics.Proofs.Metrics.Function
import CodeMetrics.Proofs.Metrics.File
import CodeMetrics.Proofs.Metrics.Functions
import CodeMetrics.Proofs.Tree.Lineage
import CodeMetrics.Proofs.Tree.Visits
import CodeMetrics.Proofs.Metrics.Nested
import CodeMetrics.Proofs.Tree.Ancestors
import CodeMetrics.Proofs.Tree.Hanging
import CodeMetrics.Proofs.Tree.Shape
import CodeMetrics.Proofs.Metrics.Locality
import CodeMetrics.Proofs.Metrics.Merge
import CodeMetrics.Proofs.Tree.Outline
import CodeMetrics.Proofs.Metrics.Comments
import CodeMetrics.Proofs.Metrics.Specifiers
import CodeMetrics.Proofs.Settings.Layers
import CodeMetrics.Proofs.Session.Isolation
import CodeMetrics.Proofs.Session.Opening
import CodeMetrics.Proofs.Session.Tolerance
import CodeMetrics.Proofs.Value.Threshold
import CodeMetrics.Proofs.CommandLine.Gate
import CodeMetrics.Proofs.CommandLine.Outcome
import CodeMetrics.Proofs.Settings.Stages
import CodeMetrics.Proofs.Value.Showing
import CodeMetrics.Proofs.Settings.Causes
import CodeMetrics.Proofs.Settings.Containment
import CodeMetrics.Proofs.CommandLine.Refusal
import CodeMetrics.Proofs.Number.Overflow
import CodeMetrics.Proofs.Settings.Limits
import CodeMetrics.Proofs.Session.Usability
import CodeMetrics.Proofs.Text.Pieces
import CodeMetrics.Proofs.Text.Quoted
import CodeMetrics.Proofs.Report.Blocks
import CodeMetrics.Proofs.Tree.Damage
import CodeMetrics.Proofs.Metrics.Conditions
import CodeMetrics.Proofs.Metrics.Callees
import CodeMetrics.Proofs.Report.JsonTokens
import CodeMetrics.Proofs.Report.Json
import CodeMetrics.Proofs.Tree.Kinds
import CodeMetrics.Proofs.Tree.Counterparts
import CodeMetrics.Proofs.Metrics.Outermost
import CodeMetrics.Proofs.Metrics.Chains
import CodeMetrics.Proofs.Tree.Growth
import CodeMetrics.Proofs.Metrics.Growth
import CodeMetrics.Proofs.Metrics.Shares
import CodeMetrics.Proofs.Text.Utf8
import CodeMetrics.Proofs.Session.Reading
import CodeMetrics.Proofs.Files.Path
import CodeMetrics.Proofs.Session.Stages
import CodeMetrics.Proofs.Session.Labels
import CodeMetrics.Proofs.Session.Grammars
import CodeMetrics.Proofs.Metrics.Reports
import CodeMetrics.Proofs.Metrics.VisitOrder
import CodeMetrics.Proofs.Number.Numeral
import CodeMetrics.Proofs.Settings.Spelling
