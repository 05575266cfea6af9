/-!
# Aggregations

What a query can do with the values that a select expression takes over the records of a group.
-/

namespace QueryExpr

/-- An aggregation of a select expression. -/
inductive Aggregate where
  /-- Records with equal values form one group. -/
  | group
  /-- The number of records. -/
  | count
  /-- The least value. -/
  | min
  /-- The greatest value. -/
  | max
  /-- The sum of the values. -/
  | sum
  deriving DecidableEq, Repr, Inhabited

namespace Aggregate

/-- All aggregations. -/
def all : List Aggregate := [.group, .count, .min, .max, .sum]

/-- The name of the SQL function; grouping is no function and never appears as one. -/
def functionName : Aggregate → String
  | .group => "group"
  | .count => "count"
  | .min => "min"
  | .max => "max"
  | .sum => "sum"

/-- The name used in messages. -/
def name : Aggregate → String
  | .group => "GROUP"
  | .count => "COUNT"
  | .min => "MIN"
  | .max => "MAX"
  | .sum => "SUM"

/-- Reads a function name, in any mixture of ASCII upper and lower case. -/
def ofName? (text : String) : Option Aggregate :=
  all.find? fun a => a.functionName = text.toLower

end Aggregate
end QueryExpr
