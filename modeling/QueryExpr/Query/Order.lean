/-!
# Order of the result
-/

namespace QueryExpr

/-- The direction of an order. -/
inductive SortDir where
  | asc
  | desc
  deriving DecidableEq, Repr, Inhabited

namespace SortDir

/-- The word in SQL. -/
def text : SortDir → String
  | .asc => "asc"
  | .desc => "desc"

/-- Reads the word, in any mixture of ASCII upper and lower case. -/
def ofText? (text : String) : Option SortDir :=
  [SortDir.asc, .desc].find? fun d => d.text = text.toLower

/-- What is wrong with a word that is no direction. -/
def unknownMessage (text : String) : String := "unknown sort direction '" ++ text ++ "'"

end SortDir

/-- Where the missing value stands in an order. -/
inductive NullsOrder where
  | first
  | last
  deriving DecidableEq, Repr, Inhabited

namespace NullsOrder

/-- The word in SQL. -/
def text : NullsOrder → String
  | .first => "first"
  | .last => "last"

/-- Reads the word, in any mixture of ASCII upper and lower case. -/
def ofText? (text : String) : Option NullsOrder :=
  [NullsOrder.first, .last].find? fun o => o.text = text.toLower

/-- What is wrong with a word that is no such place. -/
def unknownMessage (text : String) : String := "unknown nulls order '" ++ text ++ "'"

end NullsOrder

/-- An expression of the `order by` clause. -/
def orderItem (sql : String) (dir : Option SortDir) (nulls : Option NullsOrder) : String :=
  let sql :=
    match dir with
    | some dir => sql ++ " " ++ dir.text
    | none => sql
  match nulls with
  | some nulls => sql ++ " nulls " ++ nulls.text
  | none => sql

end QueryExpr
