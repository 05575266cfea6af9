import QueryExpr.Query.Basic
import QueryExpr.Sql.Emit

/-!
# Steps of a query

Each step hands back the query and what came of it. A step that is refused leaves the query as it was;
only a refused aggregation leaves the tables of its expression registered.
-/

namespace QueryExpr.Query

/-! ### Expressions -/

/-- Register the tables of a term. -/
def registerRefs (groups : Groups) (t : Term) (j : Joins) : Joins :=
  t.fieldRefs.foldl (fun j ref => (ref.register groups j).1) j

/-- Compile an expression for a clause and register its tables. -/
def enlist (groups : Groups) (q : Query) (source clause : String) :
    Query × Except QueryError Term :=
  match compileValid (q.scope groups) source (some clause) with
  | .error e => (q, .error (.compile e))
  | .ok t => ({ q with joins := registerRefs groups t q.joins }, .ok t)

/-- The SQL of a term for a clause. -/
def emit (groups : Groups) (q : Query) (t : Term) (context : Option String) :
    Query × Except QueryError String :=
  let (joins, sql) := t.toSql groups context q.joins
  ({ q with joins }, sql.mapError fun c => .compile (.invalid c))

/-- The SQL of a term for a clause, with its source as a comment. -/
def emitCommented (groups : Groups) (q : Query) (t : Term) (clause : String) :
    Query × Except QueryError String :=
  let (q, sql) := q.emit groups t (some clause)
  (q, sql.map fun sql => Sql.withComment sql (some t.source))

/-- Go on with the value of a step that was not refused. -/
def andThen {α β : Type} (step : Query × Except QueryError α)
    (next : Query → α → Query × Except QueryError β) : Query × Except QueryError β :=
  match step with
  | (q, .error e) => (q, .error e)
  | (q, .ok a) => next q a

/-! ### Tables -/

/-- Read the table of a variable, whether an expression refers to it or not. -/
def register (groups : Groups) (q : Query) (name : String) :
    Query × Except QueryError (Option String) :=
  match q.vars.get? name with
  | none => (q, .error (.unknownField name))
  | some field =>
    match q.joins.aliases.get? name with
    | some label => (q, .ok label)
    | none =>
      let (joins, label) := q.joins.enter groups name field name none
      ({ q with joins }, .ok label)

/-- Read a table given as SQL. -/
def fromSql (q : Query) (table : String) (comment label : Option String) :
    Query × Except QueryError Unit :=
  match label with
  | none =>
    ({ q with joins.tables := q.joins.tables.insert table ⟨table, comment, none⟩ }, .ok ())
  | some name =>
    if q.joins.tables.values.any fun t => t.label = some name then
      (q, .error (.duplicateAlias name))
    else
      ({ q with
          joins.tables :=
            q.joins.tables.insert (table ++ " " ++ name) ⟨table, comment, some name⟩ },
        .ok ())

/-! ### Select -/

/-- Select an expression. -/
def selectPlain (groups : Groups) (q : Query) (source : String) (label : Option String) :
    Query × Except QueryError Unit :=
  if q.aggregates.isEmpty then
    andThen (q.enlist groups source "select") fun q t =>
      andThen (q.emitCommented groups t "select") fun q sql =>
        let entry : SelectEntry := ⟨sql, label, none⟩
        ({ q with selects := q.selects.insertNew entry.render entry }, .ok ())
  else (q, .error .mixedAggregation)

/-- The SQL of an aggregated expression. Counting is about records and ignores its expression. -/
def aggregateSql (groups : Groups) (q : Query) (source : String) (aggregate : Aggregate) :
    Query × Except QueryError String :=
  if aggregate = .count then (q, .ok "")
  else
    andThen (q.enlist groups source "select") fun q t =>
      let type := t.dataType.getD .null
      if type.supports aggregate then q.emitCommented groups t "select"
      else (q, .error (.aggregate t.source type aggregate))

/-- Select an aggregation of an expression. -/
def selectAggregate (groups : Groups) (q : Query) (source : String) (label : Option String)
    (aggregate : Aggregate) : Query × Except QueryError Unit :=
  if q.selects.isEmpty then
    andThen (q.aggregateSql groups source aggregate) fun q sql =>
      let entry : SelectEntry := ⟨sql, label, some aggregate⟩
      ({ q with aggregates := q.aggregates.insertNew entry.render entry }, .ok ())
  else (q, .error .mixedAggregation)

/-- Select an expression, or an aggregation of it. -/
def select (groups : Groups) (q : Query) (source : String) (label : Option String) :
    Option Aggregate → Query × Except QueryError Unit
  | none => q.selectPlain groups source label
  | some aggregate => q.selectAggregate groups source label aggregate

/-- Select an expression given as SQL. -/
def selectSql (q : Query) (sql : String) (comment label : Option String) :
    Query × Except QueryError Unit :=
  if q.aggregates.isEmpty then
    ({ q with selects := q.selects.insertNew sql ⟨Sql.withComment sql comment, label, none⟩ },
      .ok ())
  else (q, .error .mixedAggregation)

/-! ### Conditions and order -/

/-- The term as a condition: one that is not a truth value is converted. -/
def asCondition (t : Term) : Term :=
  if t.dataType = some .bool then t else .mkFunc "bool" [t]

/-- Require an expression to be true. -/
def require (groups : Groups) (q : Query) (source : String) : Query × Except QueryError Unit :=
  andThen (q.enlist groups source "where") fun q t =>
    andThen (q.emit groups (asCondition t) (some "where")) fun q sql =>
      ({ q with joins := q.joins.addCondition (sql ++ " = 1") (some t.source) }, .ok ())

/-- Add a condition given as SQL. -/
def requireSql (q : Query) (sql : String) (comment : Option String) : Query :=
  { q with joins := q.joins.addCondition sql comment }

/-- Order by an expression. -/
def order (groups : Groups) (q : Query) (source : String) (dir : Option SortDir)
    (nulls : Option NullsOrder) : Query × Except QueryError Unit :=
  andThen (q.enlist groups source "orderby") fun q t =>
    andThen (q.emitCommented groups t "orderby") fun q sql =>
      ({ q with orderBy := q.orderBy ++ [orderItem sql dir nulls] }, .ok ())

/-- Order by an expression given as SQL. -/
def orderSql (q : Query) (sql : String) (dir : Option SortDir) (nulls : Option NullsOrder) : Query :=
  { q with orderBy := q.orderBy ++ [orderItem sql dir nulls] }

end QueryExpr.Query
