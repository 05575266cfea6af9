import QueryExpr.DataType
import QueryExpr.NodeType

/-!
# Rules

A rule says what one kind of node does with operands of certain types: the type of the result and the
SQL that computes it. The SQL is a template in which operands are referred to by their position,
counted from one.
-/

namespace QueryExpr

/-- A piece of an SQL template. -/
inductive Part where
  /-- Text that is copied. -/
  | literal (text : String)
  /-- The SQL of the operand at this position, counted from one. -/
  | child (index : Nat)
  deriving DecidableEq, Repr, Inhabited

/-- A rule for one combination of operand types. -/
structure Rule where
  nodeType : NodeType
  result : DataType
  /-- The name of the function, method or attribute. -/
  name : Option String
  signature : List DataType
  template : List Part
  /-- The rule as a reader sees it, with its concrete types. -/
  display : String
  deriving DecidableEq, Repr, Inhabited

namespace Rule

/-- The rule is the one for this kind of node, with this name and operands of these types. -/
def isFor (r : Rule) (nodeType : NodeType) (name : Option String) (signature : List DataType) :
    Bool :=
  r.nodeType = nodeType && r.name = name && r.signature = signature

/-- The template as one text, operands as placeholders. -/
def templateSource (r : Rule) : String :=
  String.join <| r.template.map fun
    | .literal text => text
    | .child index => "\x7bs" ++ toString index ++ "\x7d"

/-- The operand types in parentheses. -/
def signatureText (r : Rule) : String :=
  "(" ++ ", ".intercalate (r.signature.map DataType.name) ++ ")"

end Rule
end QueryExpr
