import QueryExpr.Query.Joins
import QueryExpr.Sql.Constant
import QueryExpr.Term.Complaint
import QueryExpr.Term.Infer

/-!
# SQL of terms

A node with a rule gives the template of the rule, with the SQL of its operands put in; constants,
collections and references to fields have SQL of their own. On the way the tables of the references
are registered. Registrations stay even if the emission fails later.
-/

namespace QueryExpr

/-- Makes SQL while registering tables, or fails at a node that has no rule. -/
abbrev Emission := Joins → Joins × Except Term String

namespace Emission

/-- Text without further ado. -/
def text (sql : String) : Emission := fun j => (j, .ok sql)

/-- One emission after the other. -/
def append (a b : Emission) : Emission := fun j =>
  match a j with
  | (j, .error t) => (j, .error t)
  | (j, .ok front) =>
    match b j with
    | (j, .error t) => (j, .error t)
    | (j, .ok back) => (j, .ok (front ++ back))

/-- Several emissions, with commas between them. -/
def items : List Emission → Emission
  | [] => text ""
  | [e] => e
  | e :: es => e.append ((text ", ").append (items es))

/-- A template with the emissions of the operands put in. -/
def template (operands : List Emission) : List Part → Emission
  | [] => text ""
  | .literal sql :: parts => (text sql).append (template operands parts)
  | .child 0 :: parts => template operands parts
  | .child (index + 1) :: parts =>
    match operands[index]? with
    | some e => e.append (template operands parts)
    | none => template operands parts

end Emission

namespace Term

/-- What stands after the last dot. -/
def lastName (path : String) : String :=
  match Text.cutLast '.' path.toList with
  | some (_, name) => String.ofList name
  | none => path

/-- The SQL of a reference to a field, given the alias of its table. Request parameters are read by a
function that is named for the kind of parameter. -/
def fieldSql (t : Term) (identifier : String) (field : Option Field) (parent : Option Term)
    (label : Option String) : String :=
  let isParam := "params.".toList.isPrefixOf (t.fullIdentifier?.getD "").toList
  let sql :=
    match parent, isParam with
    | some parent, true =>
      "livingapi_pkg.reqparam_" ++ lastName (parent.fullIdentifier?.getD "") ++ "('" ++ identifier ++
        "')"
    | _, _ =>
      let sql := (field.bind Field.sql).getD "null"
      match label with
      | some label => Text.replaceAll "{a}" label sql
      | none => sql
  sql ++ " " ++ Sql.comment t.source

/-- The SQL of a reference to a field, with its tables registered. -/
def emitField (groups : Groups) (t : Term) (identifier : String) (field : Option Field)
    (parent : Option Term) : Emission := fun j =>
  let (j, label) := t.register groups j
  (j, .ok (t.fieldSql identifier field parent label))

mutual

/-- The SQL of a term. -/
def emit (groups : Groups) : Term → Emission
  | .node head verdict content slots =>
    match head with
    | .field identifier field =>
      emitField groups (.node head verdict content slots) identifier field slots.head?
    | .const value => .text (Sql.constant value)
    | .list | .set =>
      match verdict.dataType.bind Sql.collection? with
      | some (front, back) =>
        (Emission.text front).append ((Emission.items (emitAll groups slots)).append (.text back))
      | none => .text (toString slots.length)
    | _ =>
      match rule? (.node head verdict content slots) with
      | some rule => .template (emitAll groups slots) rule.template
      | none => fun j => (j, .error (.node head verdict content slots))

/-- The SQL of each of several terms. -/
def emitAll (groups : Groups) : List Term → List Emission
  | [] => []
  | t :: ts => t.emit groups :: emitAll groups ts

end

/-- The node needs a rule and has none. -/
def lacksRule (t : Term) : Bool :=
  match t.head with
  | .field _ _ | .const _ | .list | .set => false
  | _ => t.rule?.isNone

/-- The SQL of a term that is valid. -/
def toSql (groups : Groups) (t : Term) (context : Option String) (j : Joins) :
    Joins × Except Complaint String :=
  match t.check context with
  | .error c => (j, .error c)
  | .ok () =>
    match t.emit groups j with
    | (j, .ok sql) => (j, .ok sql)
    | (j, .error culprit) =>
      if t.lacksRule then (j, .error (.about .nodeType t context))
      else (j, .error (.aboutPart .nodeType t culprit context))

end Term
end QueryExpr
