import CheckScript.Calendar.Date
import CheckScript.Calendar.Fields
import CheckScript.Calendar.Format
import CheckScript.Calendar.Internet
import CheckScript.Calendar.Scan
import CheckScript.Calendar.Time
import CheckScript.Checks.Report
import CheckScript.Checks.Suite
import CheckScript.Cli.Program
import CheckScript.Cli.Request
import CheckScript.Cli.Words
import CheckScript.Command.Arguments
import CheckScript.Command.Builtin
import CheckScript.Command.Data
import CheckScript.Command.Extract
import CheckScript.Command.ParseDate
import CheckScript.Command.Template
import CheckScript.Command.Text
import CheckScript.Compile
import CheckScript.Context
import CheckScript.Dict
import CheckScript.Files.Path
import CheckScript.Files.Tree
import CheckScript.Json.Basic
import CheckScript.Json.Numeral
import CheckScript.Json.Printer
import CheckScript.Json.Quoted
import CheckScript.Json.Reader
import CheckScript.Main
import CheckScript.Number.Binary64
import CheckScript.Number.Decimal
import CheckScript.Pattern
import CheckScript.Pattern.Classes
import CheckScript.Pattern.Expr
import CheckScript.Pattern.Program
import CheckScript.Pattern.Reader
import CheckScript.Pattern.Regex
import CheckScript.Pattern.Search
import CheckScript.Pattern.Size
import CheckScript.Pattern.Size.Basic
import CheckScript.Pattern.Size.Machine
import CheckScript.Pattern.Size.WordTree
import CheckScript.Proofs.Script.Compiling
import CheckScript.Proofs.Script.Composition
import CheckScript.Proofs.Script.LayoutIndependence
import CheckScript.Proofs.Script.Running
import CheckScript.Proofs.Source.Alike
import CheckScript.Proofs.Source.Canonical
import CheckScript.Proofs.Source.Grouping
import CheckScript.Proofs.Source.Lines
import CheckScript.Proofs.Source.Relayout
import CheckScript.Proofs.Step.Joining
import CheckScript.Proofs.Text.Blank
import CheckScript.Registry
import CheckScript.Script
import CheckScript.Source.Diagnostic
import CheckScript.Source.Layout
import CheckScript.Source.Line
import CheckScript.Source.Outline
import CheckScript.Source.Tree
import CheckScript.Step.Basic
import CheckScript.Step.Error
import CheckScript.Step.Join
import CheckScript.Tests.Discovery
import CheckScript.Tests.Display
import CheckScript.Tests.File
import CheckScript.Tests.Header
import CheckScript.Tests.Session
import CheckScript.Tests.Verdict
import CheckScript.Text.Blank
import CheckScript.Text.Bytes
import CheckScript.Text.Digit
import CheckScript.Text.Letter
import CheckScript.Text.Outline
import CheckScript.Text.Quoted
import CheckScript.Text.Read
import CheckScript.Text.Split
import CheckScript.Toml.Basic
import CheckScript.Toml.Decode
import CheckScript.Toml.Moment
import CheckScript.Toml.Reader
import CheckScript.Toml.Scalar
import CheckScript.Toml.Table
import CheckScript.Unicode.Age
import CheckScript.Unicode.Break
import CheckScript.Unicode.CaseFold
import CheckScript.Unicode.Category
import CheckScript.Unicode.CharSet
import CheckScript.Unicode.Property
import CheckScript.Unicode.Recent
import CheckScript.Unicode.Script
import CheckScript.Unicode.Sequences
import CheckScript.Unicode.Table
import CheckScript.Value
import CheckScript.ValueJson
import CheckScript.ValueToml
import CheckScript.Proofs.Step.Schedule
import CheckScript.Proofs.Step.Isolation
import CheckScript.Proofs.Script.Scoping
import CheckScript.Proofs.Source.Places
import CheckScript.Proofs.Script.CompileErrors
import CheckScript.Proofs.Source.Partition
import CheckScript.Proofs.Source.StructuralErrors
import CheckScript.Proofs.Json.Quoted
import CheckScript.Proofs.Script.Arguments
import CheckScript.Proofs.Json.Reading
import CheckScript.Proofs.Json.Grammar
import CheckScript.Proofs.Json.RoundTrip
import CheckScript.Proofs.Dict.Bindings
import CheckScript.Proofs.Source.OpenLevels
import CheckScript.Proofs.Source.Nesting
import CheckScript.Proofs.Script.Registries
import CheckScript.Proofs.Tests.Verdicts
import CheckScript.Proofs.Checks.Reporting
import CheckScript.Proofs.Script.Comments
import CheckScript.Proofs.Script.Unescaping
import CheckScript.Proofs.Command.Splitting
import CheckScript.Proofs.Command.Templates
import CheckScript.Proofs.Tests.Files
import CheckScript.Proofs.Step.Fusion
import CheckScript.Proofs.Script.Cutting
import CheckScript.Proofs.Script.Failures
import CheckScript.Proofs.Value.Canonical
import CheckScript.Proofs.Value.Formats
import CheckScript.Proofs.Tests.Sessions
import CheckScript.Proofs.Pattern.Groups
import CheckScript.Proofs.Pattern.Captures
import CheckScript.Proofs.Command.Extraction
import CheckScript.Proofs.Text.Digits
import CheckScript.Proofs.Calendar.Scan
import CheckScript.Proofs.Calendar.Fields
import CheckScript.Proofs.Calendar.Stamps
import CheckScript.Proofs.Calendar.MailDates
import CheckScript.Proofs.Command.Dates
import CheckScript.Proofs.Checks.Recognition
import CheckScript.Proofs.Source.Walking
import CheckScript.Proofs.Source.Words
import CheckScript.Proofs.Text.ByteOrder
import CheckScript.Proofs.Value.Contexts
