import TemplateExpr.Calendar.Date
import TemplateExpr.Calendar.Instant
import TemplateExpr.Calendar.Reader
import TemplateExpr.Config.Basic
import TemplateExpr.Config.Quoting
import TemplateExpr.Config.Reader
import TemplateExpr.Config.Writer
import TemplateExpr.Console.CommandLine
import TemplateExpr.Console.Lines
import TemplateExpr.Console.Program
import TemplateExpr.Console.Session
import TemplateExpr.Console.Usage
import TemplateExpr.Denylist
import TemplateExpr.Error
import TemplateExpr.Eval.Interpreter
import TemplateExpr.Eval.Machine
import TemplateExpr.Eval.Methods
import TemplateExpr.Eval.Operators
import TemplateExpr.Evaluator
import TemplateExpr.Fields
import TemplateExpr.Json.Basic
import TemplateExpr.Json.Reader
import TemplateExpr.Json.Writer
import TemplateExpr.Library.Aggregate
import TemplateExpr.Library.Arguments
import TemplateExpr.Library.Call
import TemplateExpr.Library.Dates
import TemplateExpr.Library.Formula
import TemplateExpr.Library.Logic
import TemplateExpr.Library.Math
import TemplateExpr.Library.Texts
import TemplateExpr.Main
import TemplateExpr.Number.Arith
import TemplateExpr.Number.Basic
import TemplateExpr.Number.Fixed
import TemplateExpr.Number.Layout
import TemplateExpr.Number.Numeral
import TemplateExpr.Number.Power
import TemplateExpr.Number.Round
import TemplateExpr.Number.Shortest
import TemplateExpr.Proofs.Calendar.Arithmetic
import TemplateExpr.Proofs.Calendar.DayNumber
import TemplateExpr.Proofs.Calendar.Moments
import TemplateExpr.Proofs.Calendar.Succession
import TemplateExpr.Proofs.Calendar.Written
import TemplateExpr.Proofs.Checked
import TemplateExpr.Proofs.Config.RoundTrip
import TemplateExpr.Proofs.Config.Strings
import TemplateExpr.Proofs.Console.Requests
import TemplateExpr.Proofs.Console.Session
import TemplateExpr.Proofs.Denylist.Constructs
import TemplateExpr.Proofs.Denylist.Names
import TemplateExpr.Proofs.Eval.Budget
import TemplateExpr.Proofs.Eval.Chains
import TemplateExpr.Proofs.Eval.Clock
import TemplateExpr.Proofs.Eval.Correspondence
import TemplateExpr.Proofs.Eval.Dependence
import TemplateExpr.Proofs.Eval.Naming
import TemplateExpr.Proofs.Eval.Outcome
import TemplateExpr.Proofs.Eval.Paths
import TemplateExpr.Proofs.Eval.Values
import TemplateExpr.Proofs.Evaluator.Boundary
import TemplateExpr.Proofs.Evaluator.Dependence
import TemplateExpr.Proofs.Evaluator.Depth
import TemplateExpr.Proofs.Evaluator.Expansion
import TemplateExpr.Proofs.Evaluator.Fallback
import TemplateExpr.Proofs.Evaluator.Keys
import TemplateExpr.Proofs.Evaluator.Positions
import TemplateExpr.Proofs.Evaluator.Resilience
import TemplateExpr.Proofs.Json.WellFormed
import TemplateExpr.Proofs.Library.Access
import TemplateExpr.Proofs.Library.Aggregates
import TemplateExpr.Proofs.Library.Choices
import TemplateExpr.Proofs.Library.Refusals
import TemplateExpr.Proofs.Number.Exact
import TemplateExpr.Proofs.Number.FixedPlaces
import TemplateExpr.Proofs.Number.FixedRounding
import TemplateExpr.Proofs.Number.LastPlace
import TemplateExpr.Proofs.Number.Leading
import TemplateExpr.Proofs.Number.Line
import TemplateExpr.Proofs.Number.Literal
import TemplateExpr.Proofs.Number.Nearest
import TemplateExpr.Proofs.Number.Offsets
import TemplateExpr.Proofs.Number.Readings
import TemplateExpr.Proofs.Number.Rounded
import TemplateExpr.Proofs.Number.Shortest
import TemplateExpr.Proofs.Number.Successor
import TemplateExpr.Proofs.Number.Whole
import TemplateExpr.Proofs.Number.WholeDigits
import TemplateExpr.Proofs.Number.Written
import TemplateExpr.Proofs.Scope.Flatten
import TemplateExpr.Proofs.Scope.History
import TemplateExpr.Proofs.Scope.Standard
import TemplateExpr.Proofs.Scope.User
import TemplateExpr.Proofs.Stateful
import TemplateExpr.Proofs.Syntax.Acceptance
import TemplateExpr.Proofs.Syntax.Balance
import TemplateExpr.Proofs.Syntax.Completeness
import TemplateExpr.Proofs.Syntax.Descent
import TemplateExpr.Proofs.Syntax.Detection
import TemplateExpr.Proofs.Syntax.Edges
import TemplateExpr.Proofs.Syntax.ErrorPosition
import TemplateExpr.Proofs.Syntax.Extent
import TemplateExpr.Proofs.Syntax.Grammar
import TemplateExpr.Proofs.Syntax.Height
import TemplateExpr.Proofs.Syntax.Limit
import TemplateExpr.Proofs.Syntax.Lookahead
import TemplateExpr.Proofs.Syntax.Numbers
import TemplateExpr.Proofs.Syntax.Quoted
import TemplateExpr.Proofs.Syntax.Relocation
import TemplateExpr.Proofs.Syntax.Runs
import TemplateExpr.Proofs.Syntax.Soundness
import TemplateExpr.Proofs.Syntax.Sources
import TemplateExpr.Proofs.Syntax.Spacing
import TemplateExpr.Proofs.Syntax.Tiling
import TemplateExpr.Proofs.Syntax.Totality
import TemplateExpr.Proofs.Syntax.Tree
import TemplateExpr.Proofs.Template.Scan
import TemplateExpr.Proofs.Template.Tokens
import TemplateExpr.Proofs.Text.Blank
import TemplateExpr.Proofs.Text.Digits
import TemplateExpr.Proofs.Text.LowerCase
import TemplateExpr.Proofs.Text.Order
import TemplateExpr.Proofs.Text.Runs
import TemplateExpr.Proofs.Text.Split
import TemplateExpr.Proofs.Text.Units
import TemplateExpr.Proofs.Value.Coercion
import TemplateExpr.Proofs.Value.Documents
import TemplateExpr.Proofs.Value.Equality
import TemplateExpr.Proofs.Value.Items
import TemplateExpr.Proofs.Value.Json
import TemplateExpr.Proofs.Value.Leading
import TemplateExpr.Proofs.Value.Order
import TemplateExpr.Proofs.Value.Parts
import TemplateExpr.Proofs.Value.Pieces
import TemplateExpr.Proofs.Value.Slices
import TemplateExpr.Scope.Basic
import TemplateExpr.Scope.Standard
import TemplateExpr.Scope.User
import TemplateExpr.Syntax.Expr
import TemplateExpr.Syntax.Lexer
import TemplateExpr.Syntax.Outline
import TemplateExpr.Syntax.Parser
import TemplateExpr.Syntax.Token
import TemplateExpr.Template
import TemplateExpr.Text.Alphabetic
import TemplateExpr.Text.Blank
import TemplateExpr.Text.CaseRun
import TemplateExpr.Text.Cased
import TemplateExpr.Text.GraphemeBreak
import TemplateExpr.Text.Graphemes
import TemplateExpr.Text.LowerCase
import TemplateExpr.Text.Numeric
import TemplateExpr.Text.Printable
import TemplateExpr.Text.Ranges
import TemplateExpr.Text.Search
import TemplateExpr.Text.Units
import TemplateExpr.Text.UpperCase
import TemplateExpr.Value.Access
import TemplateExpr.Value.Basic
import TemplateExpr.Value.Coercion
import TemplateExpr.Value.Equality
import TemplateExpr.Value.Json
