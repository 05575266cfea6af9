import QueryExpr.DataType

/-!
# What can be wrong with a node

An invalid node records one fault and stays in the tree, so that the rest of the tree can still be
looked at. `subnode` only says that something below is wrong; every other fault is a cause of its own.
-/

namespace QueryExpr

/-- The kinds of literals that can be written without denoting a value. -/
inductive LiteralKind where
  | bool
  | int
  | number
  | date
  | dateTime
  | timestamp
  | color
  deriving DecidableEq, Repr, Inhabited

/-- Why a node is invalid. -/
inductive Fault where
  /-- Some operand is invalid. -/
  | subnode
  /-- The node has no rule although it passed for valid. -/
  | nodeType
  /-- The function or method exists, but not with this number of arguments. -/
  | arity
  /-- There is no rule for this combination of operand types. -/
  | subnodeTypes
  /-- The field is unknown. -/
  | field
  /-- The literal denotes no value. -/
  | malformed (kind : LiteralKind)
  /-- The function, method or attribute is unknown. -/
  | name
  /-- The items of a list have no common item type. -/
  | listTypes
  /-- The items of a set have different types. -/
  | mixedSet
  /-- There are no sets of such items. -/
  | setTypes
  /-- The expression cannot be used as the required type. -/
  | dataType (required : DataType)
  deriving DecidableEq, Repr, Inhabited

/-- The name of the fault of such a literal. -/
def LiteralKind.name : LiteralKind → String
  | .bool => "CONST_BOOL"
  | .int => "CONST_INT"
  | .number => "CONST_NUMBER"
  | .date => "CONST_DATE"
  | .dateTime => "CONST_DATETIME"
  | .timestamp => "CONST_TIMESTAMP"
  | .color => "CONST_COLOR"

namespace Fault

/-- All faults. -/
def all : List Fault :=
  [.subnode, .nodeType, .arity, .subnodeTypes, .field, .malformed .bool, .malformed .int,
   .malformed .number, .malformed .date, .malformed .dateTime, .malformed .timestamp,
   .malformed .color, .name, .listTypes, .mixedSet, .setTypes] ++ DataType.all.map .dataType

/-- The name of the fault. -/
def label : Fault → String
  | .subnode => "SUBNODEERROR"
  | .nodeType => "NODETYPE"
  | .arity => "ARITY"
  | .subnodeTypes => "SUBNODETYPES"
  | .field => "FIELD"
  | .malformed kind => kind.name
  | .name => "NAME"
  | .listTypes => "LISTUNSUPPORTEDTYPES"
  | .mixedSet => "SETMIXEDTYPES"
  | .setTypes => "SETUNSUPPORTEDTYPES"
  | .dataType required => "DATATYPE_" ++ required.name

/-- The fault with this name. -/
def ofLabel? (text : String) : Option Fault := all.find? fun f => f.label = text

/-- The fault is that of a literal. -/
def isMalformed : Fault → Bool
  | .malformed _ => true
  | _ => false

end Fault

/-- The fault of using a value of type `given` where `required` is expected, if any. Without a
requirement every type will do. -/
def DataType.mismatch? (given : DataType) : Option DataType → Option Fault
  | none => none
  | some required => if given.usableAs required then none else some (.dataType required)

end QueryExpr
