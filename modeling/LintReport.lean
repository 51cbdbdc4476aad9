import LintReport.CommandLine.Choice
import LintReport.CommandLine.Ending
import LintReport.CommandLine.Help
import LintReport.CommandLine.Program
import LintReport.CommandLine.Render
import LintReport.CommandLine.Session
import LintReport.CommandLine.Switch
import LintReport.CommandLine.Usage
import LintReport.Diagnostic.Location
import LintReport.Diagnostic.Message
import LintReport.Diagnostic.Pointer
import LintReport.Diagnostic.Report
import LintReport.Diagnostic.Resolution
import LintReport.Diagnostic.Severity
import LintReport.Files.Documents
import LintReport.Files.Path
import LintReport.Files.Reader
import LintReport.Files.Tree
import LintReport.Journal
import LintReport.Json.Read
import LintReport.Json.Token
import LintReport.Limits
import LintReport.Log
import LintReport.Main
import LintReport.Proofs.Bounded
import LintReport.Proofs.Bytes
import LintReport.Proofs.Codes
import LintReport.Proofs.Columns
import LintReport.Proofs.Coordinates
import LintReport.Proofs.Counts
import LintReport.Proofs.Digits
import LintReport.Proofs.Erasing
import LintReport.Proofs.EscapeFree
import LintReport.Proofs.Excerpts
import LintReport.Proofs.ExitStatus
import LintReport.Proofs.Extents
import LintReport.Proofs.Fallback
import LintReport.Proofs.Faults
import LintReport.Proofs.FirstFault
import LintReport.Proofs.Graph
import LintReport.Proofs.Groups
import LintReport.Proofs.Growth
import LintReport.Proofs.Independence
import LintReport.Proofs.Infinity
import LintReport.Proofs.Inside
import LintReport.Proofs.Items
import LintReport.Proofs.Layers
import LintReport.Proofs.Layouts
import LintReport.Proofs.Levels
import LintReport.Proofs.Marking
import LintReport.Proofs.Marks
import LintReport.Proofs.Numbering
import LintReport.Proofs.Numerals
import LintReport.Proofs.Outcome
import LintReport.Proofs.Partition
import LintReport.Proofs.Parts
import LintReport.Proofs.Paths
import LintReport.Proofs.Positions
import LintReport.Proofs.Precedence
import LintReport.Proofs.Printing
import LintReport.Proofs.Ranking
import LintReport.Proofs.Reachable
import LintReport.Proofs.Readings
import LintReport.Proofs.Recency
import LintReport.Proofs.References
import LintReport.Proofs.Refusals
import LintReport.Proofs.Relative
import LintReport.Proofs.ReportResults
import LintReport.Proofs.Reports
import LintReport.Proofs.Requests
import LintReport.Proofs.RoundTrip
import LintReport.Proofs.Search
import LintReport.Proofs.Spelling
import LintReport.Proofs.Stored
import LintReport.Proofs.Stripping
import LintReport.Proofs.Transparency
import LintReport.Proofs.Unreadable
import LintReport.Proofs.Unusable
import LintReport.Proofs.Windows
import LintReport.Rendering.Codeframe
import LintReport.Rendering.Excerpt
import LintReport.Rendering.Group
import LintReport.Rendering.Layout
import LintReport.Rendering.Listing
import LintReport.Rendering.Output
import LintReport.Rendering.Palette
import LintReport.Rendering.Selection
import LintReport.Rendering.Stylish
import LintReport.Rendering.Summary
import LintReport.Settings.Basic
import LintReport.Settings.File
import LintReport.Settings.Steps
import LintReport.Terminal.Color
import LintReport.Terminal.Console
import LintReport.Terminal.Style
import LintReport.Text.Blank
import LintReport.Text.Casing
import LintReport.Text.CodeRange
import LintReport.Text.Digit
import LintReport.Text.Lines
import LintReport.Text.Numeral
import LintReport.Text.Pad
import LintReport.Text.Percent
import LintReport.Text.Printable
import LintReport.Text.Quoted
import LintReport.Text.Similarity
import LintReport.Text.Template
import LintReport.Text.Utf8
import LintReport.Text.Wrap
import LintReport.Toml.Document
import LintReport.Toml.Literal
import LintReport.Toml.Moment
import LintReport.Toml.Number
import LintReport.Toml.Parts
import LintReport.Toml.Text
import LintReport.Toml.Tree
import LintReport.Value.Basic
import LintReport.Value.Binary64
import LintReport.Value.Moment
import LintReport.Value.Rounded
import LintReport.Yaml.Cursor
import LintReport.Yaml.Document
import LintReport.Yaml.Event
import LintReport.Yaml.Scalar
import LintReport.Yaml.Scan
import LintReport.Yaml.Token
