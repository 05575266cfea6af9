import QueryExpr.Calendar.Writing
import QueryExpr.Color
import QueryExpr.DataType
import QueryExpr.NodeType
import QueryExpr.Number.Shortest
import QueryExpr.Text.StringLiteral

/-!
# Constants

The values that stand in an expression, their types and their texts.
-/

namespace QueryExpr

/-- A constant. -/
inductive Constant where
  | none
  | bool (value : Bool)
  | int (value : Int64)
  | number (value : Binary64)
  | str (value : String)
  | clob (value : String)
  | color (value : Color)
  | date (value : Calendar.Date)
  | dateTime (value : Calendar.DateTime)
  deriving DecidableEq, Repr, Inhabited

namespace Constant

/-- The kind of the constant. -/
def kind : Constant → ConstantKind
  | .none => .none
  | .bool _ => .bool
  | .int _ => .int
  | .number _ => .number
  | .str _ => .str
  | .clob _ => .clob
  | .color _ => .color
  | .date _ => .date
  | .dateTime _ => .dateTime

/-- The type of the constant. -/
def dataType : Constant → DataType
  | .none => .null
  | .bool _ => .bool
  | .int _ => .int
  | .number _ => .number
  | .str _ => .str
  | .clob _ => .clob
  | .color _ => .color
  | .date _ => .date
  | .dateTime _ => .dateTime

/-- The value as text, without the marks of a literal; the missing value has none. -/
def valueText? : Constant → Option String
  | .none => Option.none
  | .bool value => some (if value then "True" else "False")
  | .int value => some (toString value)
  | .number value => some value.write
  | .str value | .clob value => some value
  | .color value => some value.hex
  | .date value => some (String.ofList value.write)
  | .dateTime value => some (String.ofList (value.write 'T'))

/-- The literal that denotes the constant. -/
def literal : Constant → String
  | .none => "None"
  | .bool value => if value then "True" else "False"
  | .int value => toString value
  | .number value => value.write
  | .str value | .clob value => Text.stringLiteral value
  | .color value => value.literal
  | .date value => "@(" ++ String.ofList value.write ++ ")"
  | .dateTime value => "@(" ++ String.ofList (value.write 'T') ++ ")"

end Constant
end QueryExpr
