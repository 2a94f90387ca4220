import SheetGrammar.Address
import SheetGrammar.Classifier
import SheetGrammar.Command.Basic
import SheetGrammar.Command.Execution
import SheetGrammar.Command.Log
import SheetGrammar.Command.Option
import SheetGrammar.Config.Derive
import SheetGrammar.Config.Entry
import SheetGrammar.Config.Read
import SheetGrammar.Decimal.Shortest
import SheetGrammar.Decimal.Text
import SheetGrammar.DerivePlan
import SheetGrammar.Error
import SheetGrammar.Evaluator
import SheetGrammar.Failure
import SheetGrammar.Grammar.Basic
import SheetGrammar.Grammar.RowType
import SheetGrammar.Inputs
import SheetGrammar.Json.Basic
import SheetGrammar.Json.Number
import SheetGrammar.Json.Printer
import SheetGrammar.Json.Reader
import SheetGrammar.Json.Structured
import SheetGrammar.Json.Text
import SheetGrammar.Main
import SheetGrammar.NameList
import SheetGrammar.Pattern
import SheetGrammar.Pattern.Basic
import SheetGrammar.Pattern.Class
import SheetGrammar.Pattern.Escape
import SheetGrammar.Pattern.Program
import SheetGrammar.Pattern.Reader
import SheetGrammar.Pattern.Room
import SheetGrammar.Preview
import SheetGrammar.Proofs.Address
import SheetGrammar.Proofs.Address.Numeration
import SheetGrammar.Proofs.Classifier.Bound
import SheetGrammar.Proofs.Classifier.Conformance
import SheetGrammar.Proofs.Classifier.Drops
import SheetGrammar.Proofs.Classifier.Failures
import SheetGrammar.Proofs.Classifier.Frames
import SheetGrammar.Proofs.Classifier.Growth
import SheetGrammar.Proofs.Classifier.Lockstep
import SheetGrammar.Proofs.Classifier.Reachability
import SheetGrammar.Proofs.Classifier.Run
import SheetGrammar.Proofs.Classifier.Search
import SheetGrammar.Proofs.Classifier.Stack
import SheetGrammar.Proofs.Classifier.Walk
import SheetGrammar.Proofs.Command.Steps
import SheetGrammar.Proofs.Command.TwoStages
import SheetGrammar.Proofs.Config.Derive
import SheetGrammar.Proofs.Config.DeriveFailures
import SheetGrammar.Proofs.Config.DeriveSpelling
import SheetGrammar.Proofs.Config.DeriveValidity
import SheetGrammar.Proofs.Config.Entry
import SheetGrammar.Proofs.Config.Expression
import SheetGrammar.Proofs.Config.Filling
import SheetGrammar.Proofs.Config.Order
import SheetGrammar.Proofs.Config.Read
import SheetGrammar.Proofs.Config.ReadSpelling
import SheetGrammar.Proofs.Config.ReadValidity
import SheetGrammar.Proofs.Config.Respelling
import SheetGrammar.Proofs.Config.Routing
import SheetGrammar.Proofs.Config.Spelling
import SheetGrammar.Proofs.DerivePlan
import SheetGrammar.Proofs.DerivePlan.Joining
import SheetGrammar.Proofs.Encoding
import SheetGrammar.Proofs.Evaluator
import SheetGrammar.Proofs.Except
import SheetGrammar.Proofs.Grammar
import SheetGrammar.Proofs.Grammar.Extraction
import SheetGrammar.Proofs.Json.Floats
import SheetGrammar.Proofs.Json.Numbers
import SheetGrammar.Proofs.Json.RoundTrip
import SheetGrammar.Proofs.Json.Strings
import SheetGrammar.Proofs.NameList
import SheetGrammar.Proofs.NameList.NormalForm
import SheetGrammar.Proofs.ReadPlan
import SheetGrammar.Proofs.Preview.Alignment
import SheetGrammar.Proofs.Preview.Lines
import SheetGrammar.Proofs.Record.Columns
import SheetGrammar.Proofs.Record.File
import SheetGrammar.Proofs.Record.Json
import SheetGrammar.Proofs.Record.Outline
import SheetGrammar.Proofs.Record.Postorder
import SheetGrammar.Proofs.Record.Walk
import SheetGrammar.Proofs.Record.Yaml
import SheetGrammar.Proofs.Rule.Appending
import SheetGrammar.Proofs.Rule.Failures
import SheetGrammar.Proofs.Rule.Interruption
import SheetGrammar.Proofs.Rule.Locality
import SheetGrammar.Proofs.Rule.Visibility
import SheetGrammar.Proofs.Sheet.Independence
import SheetGrammar.Proofs.Sheet.Transcoding
import SheetGrammar.Proofs.Sheet.Unicode
import SheetGrammar.Proofs.Structured
import SheetGrammar.Proofs.Text.Blank
import SheetGrammar.Proofs.Yaml.Blocks
import SheetGrammar.Proofs.Yaml.Building
import SheetGrammar.Proofs.Yaml.Gaps
import SheetGrammar.Proofs.Yaml.Named
import SheetGrammar.Proofs.Yaml.Numbers
import SheetGrammar.Proofs.Yaml.Plain
import SheetGrammar.Proofs.Yaml.Quotes
import SheetGrammar.Proofs.Yaml.Reading
import SheetGrammar.Proofs.Yaml.Records
import SheetGrammar.Proofs.Yaml.Reorder
import SheetGrammar.Proofs.Yaml.Scanning
import SheetGrammar.Proofs.Yaml.Tokens
import SheetGrammar.ReadPlan
import SheetGrammar.Record.Basic
import SheetGrammar.Record.Format
import SheetGrammar.Record.Json
import SheetGrammar.Record.Reader
import SheetGrammar.Record.Value
import SheetGrammar.Record.Yaml
import SheetGrammar.Rule
import SheetGrammar.Selector
import SheetGrammar.Sheet.Basic
import SheetGrammar.Sheet.Csv
import SheetGrammar.Sheet.Delimiter
import SheetGrammar.Sheet.Path
import SheetGrammar.Sheet.Workbook
import SheetGrammar.Structured
import SheetGrammar.Text.Blank
import SheetGrammar.Text.CharSet
import SheetGrammar.Text.Encoding
import SheetGrammar.Text.Encoding.Basic
import SheetGrammar.Text.Encoding.CodePage
import SheetGrammar.Text.Hex
import SheetGrammar.Text.Quoted
import SheetGrammar.Text.Unicode.Ages
import SheetGrammar.Text.Unicode.Basic
import SheetGrammar.Text.Unicode.Categories
import SheetGrammar.Text.Unicode.Folding
import SheetGrammar.Text.Unicode.Lookup
import SheetGrammar.Text.Unicode.Properties
import SheetGrammar.Text.Unicode.ScriptExtensions
import SheetGrammar.Text.Unicode.Scripts
import SheetGrammar.Text.Unicode.Valued
import SheetGrammar.Word
import SheetGrammar.Yaml.Basic
import SheetGrammar.Yaml.Cursor
import SheetGrammar.Yaml.Node
import SheetGrammar.Yaml.Printer
import SheetGrammar.Yaml.Resolve
import SheetGrammar.Yaml.Scalar
import SheetGrammar.Yaml.Structured
import SheetGrammar.Yaml.Style
import SheetGrammar.Yaml.Token
import SheetGrammar.Yaml.Token.Reader
import SheetGrammar.Yaml.Token.Tag
