import QueryExpr.Aggregate

/-!
# The types of values

Every valid expression has exactly one of 26 types: scalars, the deltas between moments, lists and
sets of scalars, and the types of the empty value, list and set. A value can be used where another
type is required only by widening (`usableAs`): an integer as a number, a date list as a list of
moments, the empty list as any list.
-/

namespace QueryExpr

/-- The type of a value. -/
inductive DataType where
  | null
  | bool
  | int
  | number
  | str
  | clob
  | color
  | geo
  | date
  | dateTime
  | dateDelta
  | dateTimeDelta
  | monthDelta
  | nullList
  | intList
  | numberList
  | strList
  | clobList
  | dateList
  | dateTimeList
  | nullSet
  | intSet
  | numberSet
  | strSet
  | dateSet
  | dateTimeSet
  deriving DecidableEq, Repr, Inhabited

namespace DataType

/-- All types, in their conventional order. -/
def all : List DataType :=
  [.null, .bool, .int, .number, .str, .clob, .color, .geo, .date, .dateTime, .dateDelta,
   .dateTimeDelta, .monthDelta, .nullList, .intList, .numberList, .strList, .clobList, .dateList,
   .dateTimeList, .nullSet, .intSet, .numberSet, .strSet, .dateSet, .dateTimeSet]

/-- The name of the type in rules and messages. -/
def name : DataType → String
  | .null => "NULL"
  | .bool => "BOOL"
  | .int => "INT"
  | .number => "NUMBER"
  | .str => "STR"
  | .clob => "CLOB"
  | .color => "COLOR"
  | .geo => "GEO"
  | .date => "DATE"
  | .dateTime => "DATETIME"
  | .dateDelta => "DATEDELTA"
  | .dateTimeDelta => "DATETIMEDELTA"
  | .monthDelta => "MONTHDELTA"
  | .nullList => "NULLLIST"
  | .intList => "INTLIST"
  | .numberList => "NUMBERLIST"
  | .strList => "STRLIST"
  | .clobList => "CLOBLIST"
  | .dateList => "DATELIST"
  | .dateTimeList => "DATETIMELIST"
  | .nullSet => "NULLSET"
  | .intSet => "INTSET"
  | .numberSet => "NUMBERSET"
  | .strSet => "STRSET"
  | .dateSet => "DATESET"
  | .dateTimeSet => "DATETIMESET"

/-- The type with exactly this name. -/
def ofExactName? (text : String) : Option DataType := all.find? fun t => t.name = text

/-- Reads a name, in any mixture of ASCII upper and lower case. -/
def ofName? (text : String) : Option DataType := ofExactName? text.toUpper

/-- The types of lists. -/
def isList : DataType → Bool
  | .nullList | .intList | .numberList | .strList | .clobList | .dateList | .dateTimeList => true
  | _ => false

/-- The types of sets. -/
def isSet : DataType → Bool
  | .nullSet | .intSet | .numberSet | .strSet | .dateSet | .dateTimeSet => true
  | _ => false

/-- The aggregations of values of the type, counting apart: only what can be added has a sum, and
only what is ordered has a least and a greatest value. -/
def aggregates : DataType → List Aggregate
  | .bool | .int | .number | .dateDelta | .dateTimeDelta | .monthDelta => [.group, .min, .max, .sum]
  | .str | .date | .dateTime => [.group, .min, .max]
  | .color => [.group]
  | _ => []

/-- Values of the type can be aggregated this way. Counting always works. -/
def supports (type : DataType) (aggregate : Aggregate) : Bool :=
  aggregate = .count || type.aggregates.contains aggregate

/-- A value of the first type can stand where the second is required. -/
def usableAs (given required : DataType) : Bool :=
  if given = required then true
  else
    match given, required with
    | .null, _ => true
    | .str, .clob | .clob, .str => true
    | .bool, .number | .int, .number | .bool, .int => true
    | .intList, .numberList | .dateList, .dateTimeList => true
    | .intSet, .numberSet | .dateSet, .dateTimeSet => true
    | .nullList, r => r.isList
    | .nullSet, r => r.isSet
    | _, _ => false

end DataType
end QueryExpr
