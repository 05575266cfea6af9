import QueryExpr.Expr.Parse
import QueryExpr.Expr.Resolve
import QueryExpr.Term.Complaint

/-!
# Compiling texts

From a text to a typed term: as it is, or only if it is valid, or only if it also can be used as a
required type.
-/

namespace QueryExpr

/-- Why a text gives no term. -/
inductive CompileError where
  /-- The text is no expression. -/
  | syntactic (error : SyntaxError)
  /-- The expression has a call of a form that the language lacks. -/
  | unsupported (error : Unsupported)
  /-- The term is invalid. -/
  | invalid (complaint : Complaint)
  deriving DecidableEq, Repr, Inhabited

/-- What is wrong, in words. -/
def CompileError.message : CompileError → String
  | .syntactic error => "Syntax error: " ++ error.message
  | .unsupported error => error.message
  | .invalid complaint => complaint.message

/-- The term of a text, valid or not. -/
def compile (schema : Schema) (source : String) : Except CompileError Term :=
  match Expr.parse source with
  | .error e => .error (.syntactic e)
  | .ok expr => (expr.resolve schema source.toList).mapError .unsupported

/-- The term of a text, if it is valid. The context is for the complaint only. -/
def compileValid (schema : Schema) (source : String) (context : Option String) :
    Except CompileError Term := do
  let t ← compile schema source
  (t.check context).mapError .invalid
  return t

/-- The term of a text, if it is valid and can be used as the required type. -/
def compileTyped (schema : Schema) (source : String) (required : DataType) :
    Except CompileError Term := do
  let t ← compileValid schema source none
  match (t.dataType.getD .null).mismatch? (some required) with
  | none => return t
  | some fault => throw (.invalid (.about fault t none))

end QueryExpr
