import QueryExpr.Term.Walk

/-!
# Complaints about invalid terms

A complaint names the fault, the whole expression and the part of it that causes the fault. Faults of
operands spread upwards as `subnode`, so the cause is the first node that has a fault of its own.
-/

namespace QueryExpr

/-- Why an expression cannot be used. -/
structure Complaint where
  fault : Fault
  /-- The source of the whole expression. -/
  root : String
  /-- The source of the part that causes the fault. -/
  cause : String
  /-- The clause in which the expression is used. -/
  context : Option String
  /-- The cause is the whole expression. -/
  causeIsRoot : Bool
  /-- What is wrong with the cause. -/
  detail : String
  deriving DecidableEq, Repr, Inhabited

namespace Complaint

/-- The operand types of a node, quoted; nothing if an operand has no type. -/
def operandTypes? (t : Term) : Option (List String) :=
  t.children.mapM fun c => c.dataType.map fun type => "`" ++ type.name ++ "`"

/-- What a fault means at a node. -/
def detailOf (fault : Fault) (cause : Term) : String :=
  match fault with
  | .subnode => "AST subnodes are invalid (Internal vSQL error)."
  | .nodeType => "AST node has unknown type (Internal vSQL error)."
  | .arity => "AST node has wrong arity (Internal vSQL error)."
  | .subnodeTypes =>
    match operandTypes? cause with
    | some types => "Type combination " ++ ", ".intercalate types ++ " is not supported."
    | none => "Expression contains invalid sub expression."
  | .field =>
    let identifier :=
      match cause.head with
      | .field identifier _ => identifier
      | _ => ""
    "Expression references the unknown field `" ++ identifier ++ "`."
  | .malformed _ => "Constant `" ++ cause.value?.getD "" ++ "` is malformed."
  | .name =>
    let name :=
      match cause.head with
      | .func name => "function name `" ++ name ++ "`"
      | .meth name => "method name `" ++ name ++ "`"
      | .attr name => "attribute name `" ++ name ++ "`"
      | _ => "name"
    "The " ++ name ++ " is unknown."
  | .listTypes =>
    "List type can't be determined, since it contains unsupported or mixed types."
  | .mixedSet => "Set type can't be determined, since it contains mixed types."
  | .setTypes => "Set type can't be determined, since it contains unsupported or mixed types."
  | .dataType required =>
    "The expression should be of type `" ++ required.name ++ "` but is of type `" ++
      (cause.dataType.map DataType.name).getD "None" ++ "`."

/-- A complaint about a part of an expression. -/
def aboutPart (fault : Fault) (root cause : Term) (context : Option String) : Complaint where
  fault := fault
  root := root.source
  cause := cause.source
  context := context
  causeIsRoot := false
  detail := detailOf fault cause

/-- A complaint about a whole expression. -/
def about (fault : Fault) (root : Term) (context : Option String) : Complaint :=
  { aboutPart fault root root context with causeIsRoot := true }

/-- Where the fault is. -/
def location (c : Complaint) : String :=
  let clause :=
    match c.context with
    | some context => "`" ++ context ++ "`"
    | none => "vSQL"
  if c.causeIsRoot then "Error in " ++ clause ++ " expression `" ++ c.root ++ "`"
  else "Error in " ++ clause ++ " subexpression `" ++ c.cause ++ "` of `" ++ c.root ++ "`"

/-- The complaint as a message. -/
def message (c : Complaint) : String := c.location ++ ": " ++ c.detail

end Complaint

namespace Term

/-- The fault that the node has of its own. -/
def ownFault? (t : Term) : Option Fault :=
  match t.fault with
  | some .subnode => none
  | fault => fault

/-- Complain about an invalid term: about the first node below it with a fault of its own, and about
the term itself if there is none. -/
def check (t : Term) (context : Option String) : Except Complaint Unit :=
  match t.fault with
  | none => .ok ()
  | some fault =>
    match t.descendants.findSome? fun n => n.ownFault?.map fun f => (f, n) with
    | some (f, n) => .error (.aboutPart f t n context)
    | none => .error (.about fault t context)

end Term
end QueryExpr
