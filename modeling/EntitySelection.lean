import EntitySelection.Binary64.Arithmetic
import EntitySelection.Binary64.Basic
import EntitySelection.Binary64.Layout
import EntitySelection.Binary64.Rounding
import EntitySelection.Binary64.Shortest
import EntitySelection.Command.Arguments
import EntitySelection.Command.Help
import EntitySelection.Command.Run
import EntitySelection.Comparator
import EntitySelection.Comparison
import EntitySelection.Csv
import EntitySelection.Dataset
import EntitySelection.Extractor
import EntitySelection.Failure
import EntitySelection.Files
import EntitySelection.Json.Fault
import EntitySelection.Json.Reader
import EntitySelection.Json.Writer
import EntitySelection.Main
import EntitySelection.Named
import EntitySelection.Numeral
import EntitySelection.Predicate
import EntitySelection.PredicateSet
import EntitySelection.Proofs.Binary64.Decimal
import EntitySelection.Proofs.Binary64.Error
import EntitySelection.Proofs.Binary64.Nearest
import EntitySelection.Proofs.Binary64.Shortest
import EntitySelection.Proofs.Binary64.Sign
import EntitySelection.Proofs.Binary64.Value
import EntitySelection.Proofs.Command.Datasets
import EntitySelection.Proofs.Command.Decoding
import EntitySelection.Proofs.Command.Explaining
import EntitySelection.Proofs.Command.Hyphens
import EntitySelection.Proofs.Command.Routes
import EntitySelection.Proofs.Command.Selecting
import EntitySelection.Proofs.Command.Spelling
import EntitySelection.Proofs.Comparison.Band
import EntitySelection.Proofs.Comparison.Coherence
import EntitySelection.Proofs.Comparison.Split
import EntitySelection.Proofs.Comparison.Tolerance
import EntitySelection.Proofs.Csv.Enclosed
import EntitySelection.Proofs.Dataset.Framing
import EntitySelection.Proofs.Dataset.Table
import EntitySelection.Proofs.Extractor.Catalogue
import EntitySelection.Proofs.Extractor.Composition
import EntitySelection.Proofs.Extractor.Segments
import EntitySelection.Proofs.Extractor.Walk
import EntitySelection.Proofs.Json.Documents
import EntitySelection.Proofs.Json.Extension
import EntitySelection.Proofs.Json.Floats
import EntitySelection.Proofs.Json.Numbers
import EntitySelection.Proofs.Json.RoundTrip
import EntitySelection.Proofs.Json.Strings
import EntitySelection.Proofs.Numeral.Decimal
import EntitySelection.Proofs.Numeral.Grammar
import EntitySelection.Proofs.Numeral.Layout
import EntitySelection.Proofs.Numeral.Scripts
import EntitySelection.Proofs.Predicate.Contract
import EntitySelection.Proofs.Predicate.Field
import EntitySelection.Proofs.PredicateSet.Acceptance
import EntitySelection.Proofs.PredicateSet.Building
import EntitySelection.Proofs.PredicateSet.Normal
import EntitySelection.Proofs.PredicateSet.Records
import EntitySelection.Proofs.Query.Extension
import EntitySelection.Proofs.Query.Grammar
import EntitySelection.Proofs.Query.Interchange
import EntitySelection.Proofs.Query.Order
import EntitySelection.Proofs.Query.Padding
import EntitySelection.Proofs.Query.Registered
import EntitySelection.Proofs.Query.RoundTrip
import EntitySelection.Proofs.Registry.Agreement
import EntitySelection.Proofs.Registry.Atomic
import EntitySelection.Proofs.Registry.Defaults
import EntitySelection.Proofs.Registry.History
import EntitySelection.Proofs.Registry.Log
import EntitySelection.Proofs.Registry.Longest
import EntitySelection.Proofs.Registry.Requests
import EntitySelection.Proofs.Registry.Tokens
import EntitySelection.Proofs.Schema.Checked
import EntitySelection.Proofs.Schema.Issues
import EntitySelection.Proofs.Selection.Choice
import EntitySelection.Proofs.Selection.Conservation
import EntitySelection.Proofs.Selection.Decomposition
import EntitySelection.Proofs.Selection.Neighbours
import EntitySelection.Proofs.Selection.Offence
import EntitySelection.Proofs.Selection.Outcome
import EntitySelection.Proofs.Selection.Pointwise
import EntitySelection.Proofs.Selection.Positional
import EntitySelection.Proofs.Selection.Recast
import EntitySelection.Proofs.Selection.Report
import EntitySelection.Proofs.Selection.Specification
import EntitySelection.Proofs.Selection.Table
import EntitySelection.Proofs.Success
import EntitySelection.Proofs.Text.Blank
import EntitySelection.Proofs.Text.Hexadecimal
import EntitySelection.Proofs.Text.Line
import EntitySelection.Proofs.Text.Utf8
import EntitySelection.Proofs.Workshop.Assignment
import EntitySelection.Proofs.Workshop.Session
import EntitySelection.Proofs.Workshop.Update
import EntitySelection.Query
import EntitySelection.Query.Model
import EntitySelection.Registry
import EntitySelection.Registry.Procedure
import EntitySelection.Schema.Checked
import EntitySelection.Schema.Issue
import EntitySelection.Schema.Scalar
import EntitySelection.Selection
import EntitySelection.Selection.Choice
import EntitySelection.Selection.Report
import EntitySelection.Text.Blank
import EntitySelection.Text.Digit
import EntitySelection.Text.Line
import EntitySelection.Text.Lowercase
import EntitySelection.Text.Printable
import EntitySelection.Text.Quoted
import EntitySelection.Text.Range
import EntitySelection.Text.Utf8
import EntitySelection.Value.Basic
import EntitySelection.Value.Key
import EntitySelection.Value.Moment
import EntitySelection.Value.Number
import EntitySelection.Value.Render
import EntitySelection.Workshop.Item
import EntitySelection.Workshop.Session
import EntitySelection.Workshop.Update
import EntitySelection.Yaml.Base64
import EntitySelection.Yaml.Character
import EntitySelection.Yaml.Cursor
import EntitySelection.Yaml.Document
import EntitySelection.Yaml.Fault
import EntitySelection.Yaml.Moment
import EntitySelection.Yaml.Node
import EntitySelection.Yaml.Scalar
import EntitySelection.Yaml.Tag
import EntitySelection.Yaml.Token
import EntitySelection.Yaml.Token.Block
import EntitySelection.Yaml.Token.Plain
import EntitySelection.Yaml.Token.Property
import EntitySelection.Yaml.Token.Quoted
import EntitySelection.Yaml.Token.Stream
import EntitySelection.Yaml.Tree
