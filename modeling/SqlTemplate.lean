import SqlTemplate.Arguments.Error
import SqlTemplate.Arguments.File
import SqlTemplate.Arguments.Infer
import SqlTemplate.Arguments.SkipMark
import SqlTemplate.Binding.Bind
import SqlTemplate.Binding.Error
import SqlTemplate.Binding.Format
import SqlTemplate.Binding.Skip
import SqlTemplate.Command.Error
import SqlTemplate.Command.Options
import SqlTemplate.Command.Request
import SqlTemplate.Command.Run
import SqlTemplate.Console
import SqlTemplate.Console.Standard
import SqlTemplate.Double.Arithmetic
import SqlTemplate.Double.Basic
import SqlTemplate.Double.Notation
import SqlTemplate.Double.Rounding
import SqlTemplate.Double.Shortest
import SqlTemplate.File.Path
import SqlTemplate.File.Template
import SqlTemplate.File.Tree
import SqlTemplate.Interpreter
import SqlTemplate.Json.Error
import SqlTemplate.Json.Reader
import SqlTemplate.Json.Writer
import SqlTemplate.Main
import SqlTemplate.Numeral.Basic
import SqlTemplate.Numeral.Digits
import SqlTemplate.Numeral.Leading
import SqlTemplate.Numeral.Literal
import SqlTemplate.Numeral.Pattern
import SqlTemplate.Proofs.Arguments.File
import SqlTemplate.Proofs.Arguments.Shape
import SqlTemplate.Proofs.Arguments.Token
import SqlTemplate.Proofs.Arguments.Word
import SqlTemplate.Proofs.Binding.Accepted
import SqlTemplate.Proofs.Binding.Aligned
import SqlTemplate.Proofs.Binding.Block
import SqlTemplate.Proofs.Binding.Convertible
import SqlTemplate.Proofs.Binding.Cursor
import SqlTemplate.Proofs.Binding.IntegerText
import SqlTemplate.Proofs.Binding.Limit
import SqlTemplate.Proofs.Binding.Numeric
import SqlTemplate.Proofs.Binding.ReadBack
import SqlTemplate.Proofs.Binding.Realign
import SqlTemplate.Proofs.Binding.Refusal
import SqlTemplate.Proofs.Binding.Replay
import SqlTemplate.Proofs.Binding.Run
import SqlTemplate.Proofs.Binding.SkipMark
import SqlTemplate.Proofs.Binding.Unambiguous
import SqlTemplate.Proofs.Binding.WholeNumber
import SqlTemplate.Proofs.Binding.Written
import SqlTemplate.Proofs.Command.Build
import SqlTemplate.Proofs.Command.Deliver
import SqlTemplate.Proofs.Command.Failure
import SqlTemplate.Proofs.Command.Priority
import SqlTemplate.Proofs.Double.Decimal
import SqlTemplate.Proofs.Double.Integer
import SqlTemplate.Proofs.Double.Overflow
import SqlTemplate.Proofs.Double.ReadBack
import SqlTemplate.Proofs.Double.Text
import SqlTemplate.Proofs.File.Path
import SqlTemplate.Proofs.File.Template
import SqlTemplate.Proofs.File.Tree
import SqlTemplate.Proofs.Json.Lossless
import SqlTemplate.Proofs.Json.Number
import SqlTemplate.Proofs.Json.RoundTrip
import SqlTemplate.Proofs.Json.Shape
import SqlTemplate.Proofs.Json.String
import SqlTemplate.Proofs.Numeral.Digits
import SqlTemplate.Proofs.Numeral.Front
import SqlTemplate.Proofs.Numeral.Limit
import SqlTemplate.Proofs.Numeral.Literal
import SqlTemplate.Proofs.Numeral.Longest
import SqlTemplate.Proofs.Numeral.Pattern
import SqlTemplate.Proofs.Numeral.Written
import SqlTemplate.Proofs.Outcome
import SqlTemplate.Proofs.Query.Closure
import SqlTemplate.Proofs.Query.Concat
import SqlTemplate.Proofs.Query.Expansion
import SqlTemplate.Proofs.Query.Order
import SqlTemplate.Proofs.Query.Pass
import SqlTemplate.Proofs.Query.Skip
import SqlTemplate.Proofs.Report.Export
import SqlTemplate.Proofs.Session.Bind
import SqlTemplate.Proofs.Session.Object
import SqlTemplate.Proofs.Session.Run
import SqlTemplate.Proofs.Settings.Load
import SqlTemplate.Proofs.Template.Braces
import SqlTemplate.Proofs.Template.Canonical
import SqlTemplate.Proofs.Template.Concat
import SqlTemplate.Proofs.Template.Counts
import SqlTemplate.Proofs.Template.Faults
import SqlTemplate.Proofs.Template.Reading
import SqlTemplate.Proofs.Template.Run
import SqlTemplate.Proofs.Template.Writing
import SqlTemplate.Proofs.Text.Hex
import SqlTemplate.Proofs.Text.Newline
import SqlTemplate.Proofs.Text.Pattern
import SqlTemplate.Proofs.Text.Separated
import SqlTemplate.Proofs.Text.Utf8
import SqlTemplate.Proofs.Toml.Limit
import SqlTemplate.Proofs.Toml.Shape
import SqlTemplate.Proofs.Value.Shape
import SqlTemplate.Proofs.Yaml.Shape
import SqlTemplate.Query
import SqlTemplate.Report.Export
import SqlTemplate.Report.Table
import SqlTemplate.Session
import SqlTemplate.Session.Object
import SqlTemplate.Settings.Basic
import SqlTemplate.Settings.File
import SqlTemplate.Template.Basic
import SqlTemplate.Template.Parser
import SqlTemplate.Template.Token
import SqlTemplate.Text.Basic
import SqlTemplate.Text.Blank
import SqlTemplate.Text.Case
import SqlTemplate.Text.Cased
import SqlTemplate.Text.Digit
import SqlTemplate.Text.Hex
import SqlTemplate.Text.Newline
import SqlTemplate.Text.Pattern
import SqlTemplate.Text.Printable
import SqlTemplate.Text.Quoted
import SqlTemplate.Text.Surrogate
import SqlTemplate.Text.Utf8
import SqlTemplate.Text.Width
import SqlTemplate.Toml.Quoted
import SqlTemplate.Toml.Reader
import SqlTemplate.Toml.Scalar
import SqlTemplate.Toml.Table
import SqlTemplate.Validation
import SqlTemplate.Value.Basic
import SqlTemplate.Value.Calendar
import SqlTemplate.Value.Entries
import SqlTemplate.Value.Shown
import SqlTemplate.Yaml.Block
import SqlTemplate.Yaml.Cursor
import SqlTemplate.Yaml.Kind
import SqlTemplate.Yaml.Layout
import SqlTemplate.Yaml.Node
import SqlTemplate.Yaml.Quoted
import SqlTemplate.Yaml.Reader
import SqlTemplate.Yaml.Scalar
import SqlTemplate.Yaml.Token
