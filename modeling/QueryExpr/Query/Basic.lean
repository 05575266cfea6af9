import QueryExpr.Compile
import QueryExpr.Query.Joins
import QueryExpr.Query.Order

/-!
# Queries

A query collects what to select, from which tables, under which conditions and in which order. Select
expressions are either all plain or all aggregated.
-/

namespace QueryExpr

/-- An expression of the select clause. -/
structure SelectEntry where
  /-- The SQL with its comment; counting has none. -/
  sql : String
  /-- The alias of the column. -/
  label : Option String
  aggregate : Option Aggregate
  deriving DecidableEq, Repr, Inhabited

namespace SelectEntry

/-- The expression without its alias. -/
def renderBare (e : SelectEntry) : String :=
  match e.aggregate with
  | some .count => "count(*)"
  | some .group | none => e.sql
  | some aggregate => aggregate.functionName ++ "(" ++ e.sql ++ ")"

/-- The expression with its alias. -/
def render (e : SelectEntry) : String :=
  match e.label with
  | some label => e.renderBare ++ " as " ++ label
  | none => e.renderBare

end SelectEntry

/-- A query under construction. -/
structure Query where
  comment : Option String := none
  /-- The variables that expressions can start from. -/
  vars : Vars := {}
  /-- Plain select expressions. -/
  selects : OrderedMap String SelectEntry := {}
  /-- Aggregated select expressions. -/
  aggregates : OrderedMap String SelectEntry := {}
  /-- Tables and conditions. -/
  joins : Joins := {}
  orderBy : List String := []
  offset : Option Nat := none
  limit : Option Nat := none
  deriving DecidableEq, Repr, Inhabited

/-- Why a step of a query is refused. -/
inductive QueryError where
  /-- The expression is no valid term. -/
  | compile (error : CompileError)
  /-- Plain and aggregated select expressions do not mix. -/
  | mixedAggregation
  /-- Values of the type cannot be aggregated this way. -/
  | aggregate (source : String) (type : DataType) (how : Aggregate)
  /-- There is a table with this alias already. -/
  | duplicateAlias (label : String)
  /-- There is no variable of this name. -/
  | unknownField (name : String)
  /-- There is no aggregation of this name. -/
  | unknownAggregate (name : String)
  deriving DecidableEq, Repr, Inhabited

/-- Why the step is refused, in words. -/
def QueryError.message : QueryError → String
  | .compile error => error.message
  | .mixedAggregation => "Can't mix aggregated and non-aggregated select expressions"
  | .aggregate source type how =>
    "Can't aggregate expression '" ++ source ++ "' of type " ++ type.name ++ " using aggregation " ++
      how.name
  | .duplicateAlias label => "duplicate table alias '" ++ label ++ "'"
  | .unknownField name => "Unknown field '" ++ name ++ "'!"
  | .unknownAggregate name => "Unknown aggregate '" ++ name ++ "'"

namespace Query

/-- A query over these variables. -/
def ofVars (vars : Vars) : Query := { vars }

/-- Bind a variable. -/
def bindVar (q : Query) (name : String) (field : Field) : Query :=
  { q with vars := q.vars.insert name field }

/-- What the expressions of the query can refer to. -/
def scope (q : Query) (groups : Groups) : Schema := ⟨groups, q.vars⟩

end Query
end QueryExpr
