import QueryExpr.Query.Basic
import QueryExpr.Query.Layout

/-!
# The text of a query
-/

namespace QueryExpr.Query

/-- A clause that is left out if it has no items. -/
def optionalClause (keyword separator : String) (items : List String) : List Layout :=
  if items.isEmpty then [] else Layout.clause keyword separator items

/-- A clause with an item that stands in if there is none. -/
def clauseOr (keyword fallback : String) (items : List String) : List Layout :=
  Layout.clause keyword "," (if items.isEmpty then [fallback] else items)

/-- The select expressions. -/
def selectItems (q : Query) : List String :=
  (q.selects.values ++ q.aggregates.values).map SelectEntry.render

/-- The expressions that the records are grouped by. -/
def groupItems (q : Query) : List String :=
  (q.aggregates.values.filter fun e => e.aggregate = some .group).map SelectEntry.renderBare

/-- The clauses in their order. -/
def layout (q : Query) : List Layout :=
  (match q.comment with
    | some text => Layout.line (Sql.comment text)
    | none => []) ++
  clauseOr "select" "42" q.selectItems ++
  clauseOr "from" "dual" (q.joins.tables.values.map Table.render) ++
  optionalClause "where" " and" q.joins.conditions.values ++
  optionalClause "group by" "," q.groupItems ++
  optionalClause "order by" "," q.orderBy ++
  (match q.offset with
    | some n => Layout.line ("offset " ++ toString n ++ " rows")
    | none => []) ++
  (match q.limit with
    | some n => Layout.line ("fetch next " ++ toString n ++ " rows only")
    | none => [])

/-- The indentation that is used unless another one is asked for. -/
def defaultIndent : String := "\t"

/-- The query as SQL. Without an indentation it is one line. -/
def render (q : Query) (indent : String) : String := Layout.write indent q.layout

end QueryExpr.Query
