import Rulebook.Decimal.Numeral
import Rulebook.Decimal.Printing
import Rulebook.Document.Decode
import Rulebook.Document.Forms
import Rulebook.Engine.Basic
import Rulebook.Engine.Session
import Rulebook.Eval
import Rulebook.Expr.Basic
import Rulebook.Expr.Limits
import Rulebook.Expr.Parse
import Rulebook.Expr.Token
import Rulebook.Facts
import Rulebook.Filters
import Rulebook.Json.Draft
import Rulebook.Json.Number
import Rulebook.Json.Text
import Rulebook.Json.Token
import Rulebook.Json.Value
import Rulebook.Keyed
import Rulebook.Package.Basic
import Rulebook.Package.Compile
import Rulebook.Package.Run
import Rulebook.Proofs.Decimal.Printing
import Rulebook.Proofs.Decimal.Reading
import Rulebook.Proofs.Document.Facts
import Rulebook.Proofs.Document.Package
import Rulebook.Proofs.Document.Records
import Rulebook.Proofs.Engine.Service
import Rulebook.Proofs.Eval.Agreement
import Rulebook.Proofs.Eval.Arithmetic
import Rulebook.Proofs.Eval.Duality
import Rulebook.Proofs.Eval.Failure
import Rulebook.Proofs.Eval.Formula
import Rulebook.Proofs.Eval.Groups
import Rulebook.Proofs.Eval.Limit
import Rulebook.Proofs.Eval.Membership
import Rulebook.Proofs.Eval.Names
import Rulebook.Proofs.Eval.Outcome
import Rulebook.Proofs.Eval.Reads
import Rulebook.Proofs.Eval.Writes
import Rulebook.Proofs.Expr.Bounds
import Rulebook.Proofs.Expr.Escaping
import Rulebook.Proofs.Expr.Faults
import Rulebook.Proofs.Expr.Grammar
import Rulebook.Proofs.Expr.Lexing
import Rulebook.Proofs.Expr.Lookahead
import Rulebook.Proofs.Expr.Parsing
import Rulebook.Proofs.Expr.Printing
import Rulebook.Proofs.Expr.Reading
import Rulebook.Proofs.Expr.Scanning
import Rulebook.Proofs.Facts.Marks
import Rulebook.Proofs.Json.Grammar
import Rulebook.Proofs.Json.Lexing
import Rulebook.Proofs.Json.Printing
import Rulebook.Proofs.Json.Reading
import Rulebook.Proofs.Keyed
import Rulebook.Proofs.Package.Changes
import Rulebook.Proofs.Package.Compiling
import Rulebook.Proofs.Package.Deletion
import Rulebook.Proofs.Package.Groups
import Rulebook.Proofs.Package.Independence
import Rulebook.Proofs.Package.Interpretation
import Rulebook.Proofs.Package.Placement
import Rulebook.Proofs.Package.Recovery
import Rulebook.Proofs.Package.Report
import Rulebook.Proofs.Package.Representation
import Rulebook.Proofs.Package.Safety
import Rulebook.Proofs.Package.Trace
import Rulebook.Proofs.Package.Visits
import Rulebook.Proofs.Text.Classes
import Rulebook.Text.Quoted
import Rulebook.Text.Ranges
import Rulebook.Text.Scanner
