import Swell.CommandLine
import Swell.CommandLine.Arguments
import Swell.Decimal.Binary
import Swell.Decimal.Layout
import Swell.Decimal.Reader
import Swell.Decimal.Shortest
import Swell.Descriptor
import Swell.Document
import Swell.Fault
import Swell.Files
import Swell.Files.Tree
import Swell.Grammar
import Swell.History
import Swell.Json.Reader
import Swell.Json.Shape
import Swell.Json.Value
import Swell.Level
import Swell.Main
import Swell.ParseFault
import Swell.Pattern
import Swell.Pattern.CharClass
import Swell.Pattern.Engine
import Swell.Pattern.Engine.Standard
import Swell.Pattern.Expr
import Swell.Pattern.Reader
import Swell.Pipeline
import Swell.Pipeline.Stage
import Swell.Pipeline.Value
import Swell.Proofs.CommandLine.Agreement
import Swell.Proofs.CommandLine.Capture
import Swell.Proofs.CommandLine.Completeness
import Swell.Proofs.CommandLine.Reports
import Swell.Proofs.Document.Fields
import Swell.Proofs.Document.Loading
import Swell.Proofs.Document.Marks
import Swell.Proofs.Grammar.Chop
import Swell.Proofs.Grammar.Enforcement
import Swell.Proofs.Grammar.Exactness
import Swell.Proofs.Grammar.Levels
import Swell.Proofs.Grammar.Motor
import Swell.Proofs.Grammar.Reread
import Swell.Proofs.Grammar.Severity
import Swell.Proofs.Grammar.TokenOrder
import Swell.Proofs.Grammar.Tokens
import Swell.Proofs.Grammar.Verdict
import Swell.Proofs.History.Growth
import Swell.Proofs.History.Lines
import Swell.Proofs.Json.RoundTrip
import Swell.Proofs.Json.Shape
import Swell.Proofs.Level.Spelling
import Swell.Proofs.Pattern.Closing
import Swell.Proofs.Pattern.ClosingClass
import Swell.Proofs.Pattern.Enclosed
import Swell.Proofs.Pattern.Matching
import Swell.Proofs.Pipeline.Account
import Swell.Proofs.Pipeline.Advisory
import Swell.Proofs.Pipeline.Calls
import Swell.Proofs.Pipeline.Contract
import Swell.Proofs.Pipeline.Order
import Swell.Proofs.Pipeline.Outcome
import Swell.Proofs.Recogniser.Choice
import Swell.Proofs.Recogniser.Counting
import Swell.Proofs.Recogniser.Drive
import Swell.Proofs.Recogniser.Faults
import Swell.Proofs.Recogniser.Growth
import Swell.Proofs.Recogniser.Invocations
import Swell.Proofs.Recogniser.Nesting
import Swell.Proofs.Recogniser.Questions
import Swell.Proofs.Recogniser.Rearranged
import Swell.Proofs.Recogniser.Shift
import Swell.Proofs.Recogniser.Single
import Swell.Proofs.Recogniser.Steps
import Swell.Proofs.Recogniser.Unread
import Swell.Proofs.Result
import Swell.Proofs.Scalar.Order
import Swell.Proofs.Sentence.Atoms
import Swell.Proofs.Sentence.Symbols
import Swell.Proofs.Sentence.Words
import Swell.Proofs.Settings.Check
import Swell.Proofs.Settings.Resolution
import Swell.Proofs.Signal.Affine
import Swell.Proofs.Signal.Ascending
import Swell.Proofs.Signal.Bends
import Swell.Proofs.Signal.Bins
import Swell.Proofs.Signal.Elimination
import Swell.Proofs.Signal.Fitting
import Swell.Proofs.Signal.Levels
import Swell.Proofs.Signal.NaturalSpline
import Swell.Proofs.Signal.Neighbours
import Swell.Proofs.Signal.Resampling
import Swell.Proofs.Signal.Segments
import Swell.Proofs.Text.Digits
import Swell.Recogniser
import Swell.Report
import Swell.Scalar
import Swell.Sentence
import Swell.Settings
import Swell.Settings.Load
import Swell.Settings.Overlay
import Swell.Signal.Classifier
import Swell.Signal.Series
import Swell.Signal.Spline
import Swell.Tag
import Swell.Text.Blank
import Swell.Text.CaseFold
import Swell.Text.Category
import Swell.Text.CodeRun
import Swell.Text.Digit
import Swell.Text.Pieces
import Swell.Text.Property
import Swell.Text.Quoted
import Swell.Text.Script
import Swell.Verdict
import Swell.Vessel
import Swell.Yaml.Core
import Swell.Yaml.Cursor
import Swell.Yaml.Node
import Swell.Yaml.ScalarText
import Swell.Yaml.Token
import Swell.Yaml.Token.Reader
import Swell.Yaml.Tree
