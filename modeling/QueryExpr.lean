import QueryExpr.Main
import QueryExpr.Proofs.Text.Slices
import QueryExpr.Proofs.Token.Lexemes
import QueryExpr.Proofs.Expr.Placement
import QueryExpr.Proofs.Term.Source
import QueryExpr.Proofs.Expr.Fidelity
import QueryExpr.Proofs.Calendar.RoundTrip
import QueryExpr.Proofs.Token.Spelling
import QueryExpr.Proofs.Expr.Literals
import QueryExpr.Proofs.Expr.Phrases
import QueryExpr.Proofs.Term.RoundTrip
import QueryExpr.Proofs.Term.Constants
import QueryExpr.Proofs.Sql.Reader
import QueryExpr.Proofs.Sql.Templates
import QueryExpr.Proofs.Number.Sign
import QueryExpr.Proofs.Term.Walks
import QueryExpr.Proofs.Term.Resolved
import QueryExpr.Proofs.Query.Runs
import QueryExpr.Proofs.Sql.Chunks
import QueryExpr.Proofs.Sql.Safety
import QueryExpr.Proofs.Query.Aliases
import QueryExpr.Proofs.Term.Faults
import QueryExpr.Proofs.Sql.Emission
import QueryExpr.Proofs.Query.Needed
import QueryExpr.Proofs.Rule.Lookup
import QueryExpr.Proofs.Expr.Operands
import QueryExpr.Proofs.Expr.Grammar
import QueryExpr.Proofs.Expr.Recognition
import QueryExpr.Proofs.Expr.Agreement
import QueryExpr.Proofs.Expr.Prefixes
import QueryExpr.Proofs.Query.Refusals
import QueryExpr.Proofs.Query.RawTables
import QueryExpr.Proofs.Query.Placeholders
import QueryExpr.Proofs.Rule.Arities
import QueryExpr.Proofs.Rule.References
import QueryExpr.Proofs.Query.Aggregation
import QueryExpr.Proofs.Query.Repetition
import QueryExpr.Proofs.Expr.Paraphrase
import QueryExpr.Proofs.Sql.Paraphrase
import QueryExpr.Proofs.Term.Formulas
import QueryExpr.Proofs.Query.Roots
import QueryExpr.Proofs.Term.Numerals
import QueryExpr.Proofs.Term.Signs
import QueryExpr.Proofs.Sql.Dashes
import QueryExpr.Proofs.Sql.LineComments
import QueryExpr.Proofs.Expr.UnsupportedCalls
import QueryExpr.Proofs.Query.Lines
import QueryExpr.Proofs.Term.Details
import QueryExpr.Proofs.Token.Segmentation
import QueryExpr.Proofs.Expr.Endings
import QueryExpr.Proofs.Text.Case
import QueryExpr.Proofs.CommandLine.Orders
import QueryExpr.Proofs.Schema.Consistency
import QueryExpr.Proofs.Schema.Paths
import QueryExpr.Proofs.Settings.Expansion
import QueryExpr.Proofs.Rule.Display
import QueryExpr.Proofs.Sql.Comments
