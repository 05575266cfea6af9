import QueryExpr.Term.Constant
import QueryExpr.Text.Search

/-!
# Constants and collections in SQL
-/

namespace QueryExpr.Sql

/-- A text between single quotes, which are written twice inside it. The empty text is the missing
value in SQL. -/
def quote (value : String) : String :=
  if value = "" then "null" else "'" ++ Text.replaceAll "'" "''" value ++ "'"

/-- The SQL of a constant. -/
def constant : Constant → String
  | .none => "null"
  | .bool value => if value then "1" else "0"
  | .int value => toString value
  | .number value => value.write
  | .str value | .clob value => quote value
  | .color value => toString value.packed
  | .date value => "to_date('" ++ String.ofList value.write ++ "', 'YYYY-MM-DD')"
  | .dateTime value =>
    "to_date('" ++ String.ofList (value.write ' ') ++ "', 'YYYY-MM-DD HH24:MI:SS')"

/-- What stands before and after the items of a collection of this type. Collections without an item
type have no SQL for their items. -/
def collection? : DataType → Option (String × String)
  | .intList => some ("integers(", ")")
  | .numberList => some ("numbers(", ")")
  | .strList => some ("varchars(", ")")
  | .clobList => some ("clobs(", ")")
  | .dateList | .dateTimeList => some ("dates(", ")")
  | .intSet => some ("vsqlimpl_pkg.set_intlist(integers(", "))")
  | .numberSet => some ("vsqlimpl_pkg.set_numberlist(numbers(", "))")
  | .strSet => some ("vsqlimpl_pkg.set_strlist(varchars(", "))")
  | .dateSet | .dateTimeSet => some ("vsqlimpl_pkg.set_datetimelist(dates(", "))")
  | _ => none

end QueryExpr.Sql
