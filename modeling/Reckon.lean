import Reckon.Code.Basic
import Reckon.Conversion.Formula
import Reckon.Conversion.Pending
import Reckon.Environment
import Reckon.Evaluation.Machine
import Reckon.Fault
import Reckon.Function.Builtin
import Reckon.Function.Host
import Reckon.Function.Sample
import Reckon.Json.Escape
import Reckon.Json.Printer
import Reckon.Json.Reader
import Reckon.Lexeme.Basic
import Reckon.Lexeme.Bracket
import Reckon.Lexeme.Literal
import Reckon.Lexeme.Scan
import Reckon.Number.Binary
import Reckon.Number.Decimal
import Reckon.Number.Notation
import Reckon.Number.Shortest
import Reckon.Operator
import Reckon.Pattern.CharSet
import Reckon.Pattern.Database.Age
import Reckon.Pattern.Database.Binary
import Reckon.Pattern.Database.Break
import Reckon.Pattern.Database.Category
import Reckon.Pattern.Database.Script
import Reckon.Pattern.Delimited
import Reckon.Pattern.Named
import Reckon.Pattern.Parser
import Reckon.Pattern.Program
import Reckon.Pattern.Search
import Reckon.Pattern.Size
import Reckon.Pattern.Tree
import Reckon.Proofs.Evaluation.Faults
import Reckon.Proofs.Evaluation.Locality
import Reckon.Proofs.Evaluation.Run
import Reckon.Proofs.Expression.Basic
import Reckon.Proofs.Expression.Evaluation
import Reckon.Proofs.Code.Parts
import Reckon.Proofs.Conversion.Faults
import Reckon.Proofs.Conversion.Grammar
import Reckon.Proofs.Grammar.Basic
import Reckon.Proofs.Grammar.Completeness
import Reckon.Proofs.Grammar.Parse
import Reckon.Proofs.Grammar.Soundness
import Reckon.Proofs.Conversion.Parsing
import Reckon.Proofs.Lexeme.Append
import Reckon.Proofs.Lexeme.Name
import Reckon.Proofs.Outcome
import Reckon.Proofs.Session.Freezing
import Reckon.Proofs.Session.History
import Reckon.Proofs.Session.Integrity
import Reckon.Proofs.Session.Locality
import Reckon.Proofs.Session.Closure
import Reckon.Proofs.Session.Frame
import Reckon.Proofs.Session.Stages
import Reckon.Proofs.Statement.Expression
import Reckon.Proofs.Statement.Heads
import Reckon.Proofs.Statement.Preparation
import Reckon.Proofs.Text.Stretch
import Reckon.Session.Basic
import Reckon.Session.Statement
import Reckon.Table
import Reckon.Text.Blank
import Reckon.Text.Category
import Reckon.Text.Folding
import Reckon.Text.Letter
import Reckon.Text.Quoted
import Reckon.Value.Arithmetic
import Reckon.Value.Basic
import Reckon.Value.Comparison
import Reckon.Value.Member
import Reckon.Value.View
import Reckon.Proofs.Conversion.Call
import Reckon.Proofs.Session.Calling
import Reckon.Proofs.Session.Binding
import Reckon.Proofs.Code.Height
import Reckon.Proofs.Environment.Names
import Reckon.Proofs.Evaluation.Limit
import Reckon.Proofs.Lexeme.Spelling
import Reckon.Proofs.Session.Literal
import Reckon.Proofs.Number.Rounding
import Reckon.Proofs.Number.Packing
import Reckon.Proofs.Number.Reading
import Reckon.Proofs.Number.Notation
import Reckon.Proofs.Json.RoundTrip
import Reckon.Proofs.Lexeme.Container
import Reckon.Proofs.Session.Json
import Reckon.Proofs.Conversion.Selector
import Reckon.Proofs.Evaluation.Acceptance
import Reckon.Proofs.Evaluation.Budget
import Reckon.Proofs.Lexeme.Passage
import Reckon.Proofs.Session.Repetition
import Reckon.Proofs.Lexeme.Spacing
import Reckon.Proofs.Grammar.Miscount
import Reckon.Proofs.Conversion.Arity
import Reckon.Proofs.Conversion.Position
import Reckon.Proofs.Json.Spelling
import Reckon.Proofs.Json.Reading
import Reckon.Proofs.Evaluation.Equality
import Reckon.Proofs.Statement.Forms
import Reckon.Proofs.Session.Member
import Reckon.Proofs.Number.Order
import Reckon.Proofs.Number.Integer
import Reckon.Proofs.Number.Modulo
import Reckon.Proofs.Evaluation.Comparison
import Reckon.Proofs.Lexeme.Literal
import Reckon.Proofs.Pattern.Delimited
import Reckon.Proofs.Function.Argument
import Reckon.Proofs.Lexeme.Numeral
import Reckon.Proofs.Conversion.Parenthesis
import Reckon.Proofs.Lexeme.Balance
import Reckon.Proofs.Conversion.Counter
