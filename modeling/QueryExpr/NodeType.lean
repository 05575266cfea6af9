import QueryExpr.Operator

/-!
# The kinds of expression nodes

One tag for each shape of node. The tag, together with a name and the types of the operands, selects
the rule of a node.
-/

namespace QueryExpr

/-- The kinds of constants. -/
inductive ConstantKind where
  | none
  | bool
  | int
  | number
  | str
  | clob
  | date
  | dateTime
  | timestamp
  | color
  deriving DecidableEq, Repr, Inhabited

/-- The shape of a node. -/
inductive NodeType where
  | field
  | const (kind : ConstantKind)
  | list
  | set
  | binary (op : BinaryOp)
  | slice
  | unary (op : UnaryOp)
  | cond
  | attr
  | func
  | meth
  deriving DecidableEq, Repr, Inhabited

/-- The name of the kind in node names. -/
def ConstantKind.name : ConstantKind → String
  | .none => "CONST_NONE"
  | .bool => "CONST_BOOL"
  | .int => "CONST_INT"
  | .number => "CONST_NUMBER"
  | .str => "CONST_STR"
  | .clob => "CONST_CLOB"
  | .date => "CONST_DATE"
  | .dateTime => "CONST_DATETIME"
  | .timestamp => "CONST_TIMESTAMP"
  | .color => "CONST_COLOR"

/-- The name of the node with this operator. -/
def BinaryOp.nodeName : BinaryOp → String
  | .eq => "CMP_EQ"
  | .ne => "CMP_NE"
  | .lt => "CMP_LT"
  | .le => "CMP_LE"
  | .gt => "CMP_GT"
  | .ge => "CMP_GE"
  | .add => "BINOP_ADD"
  | .sub => "BINOP_SUB"
  | .mul => "BINOP_MUL"
  | .trueDiv => "BINOP_TRUEDIV"
  | .floorDiv => "BINOP_FLOORDIV"
  | .mod => "BINOP_MOD"
  | .shiftLeft => "BINOP_SHIFTLEFT"
  | .shiftRight => "BINOP_SHIFTRIGHT"
  | .bitAnd => "BINOP_BITAND"
  | .bitOr => "BINOP_BITOR"
  | .bitXor => "BINOP_BITXOR"
  | .and => "BINOP_AND"
  | .or => "BINOP_OR"
  | .contains => "BINOP_CONTAINS"
  | .notContains => "BINOP_NOTCONTAINS"
  | .is => "BINOP_IS"
  | .isNot => "BINOP_ISNOT"
  | .item => "BINOP_ITEM"

/-- The name of the node with this operator. -/
def UnaryOp.nodeName : UnaryOp → String
  | .not => "UNOP_NOT"
  | .neg => "UNOP_NEG"
  | .bitNot => "UNOP_BITNOT"

namespace NodeType

/-- All kinds of nodes, in their conventional order. -/
def all : List NodeType :=
  [.field, .const .none, .const .bool, .const .int, .const .number, .const .str, .const .clob,
   .const .date, .const .dateTime, .const .timestamp, .const .color, .list, .set, .binary .eq,
   .binary .ne, .binary .lt, .binary .le, .binary .gt, .binary .ge, .binary .add, .binary .mul,
   .binary .sub, .binary .floorDiv, .binary .trueDiv, .binary .mod, .binary .and, .binary .or,
   .binary .contains, .binary .notContains, .binary .is, .binary .isNot, .binary .item,
   .binary .shiftLeft, .binary .shiftRight, .binary .bitAnd, .binary .bitOr, .binary .bitXor,
   .slice, .unary .not, .unary .neg, .unary .bitNot, .cond, .attr, .func, .meth]

/-- The name of the kind of node. -/
def name : NodeType → String
  | .field => "FIELD"
  | .const kind => kind.name
  | .list => "LIST"
  | .set => "SET"
  | .binary op => op.nodeName
  | .slice => "TERNOP_SLICE"
  | .unary op => op.nodeName
  | .cond => "TERNOP_IF"
  | .attr => "ATTR"
  | .func => "FUNC"
  | .meth => "METH"

/-- Reads a name, in any mixture of ASCII upper and lower case. -/
def ofName? (text : String) : Option NodeType := all.find? fun t => t.name = text.toUpper

/-- A title for readers. -/
def title : NodeType → String
  | .field => "Field reference"
  | .const .none => "Constant `None`"
  | .const .bool => "Boolean constant"
  | .const .int => "Integer constant"
  | .const .number => "Number constant"
  | .const .str => "String constant"
  | .const .clob => "CLOB constant"
  | .const .date => "Date constant"
  | .const .dateTime | .const .timestamp => "Datetime constant"
  | .const .color => "Color constant"
  | .list => "List"
  | .set => "Set"
  | .binary .eq => "Equality comparison (`A == B`)"
  | .binary .ne => "Inequality comparison (`A != B`)"
  | .binary .lt => "Less-than comparison (`A < B`)"
  | .binary .le => "Less-than or equal comparison (`A <= B`)"
  | .binary .gt => "Greater-than comparison (`A > B`)"
  | .binary .ge => "Greater-than or equal comparison (`A >= B`)"
  | .binary .add => "Addition (`A + B`)"
  | .binary .mul => "Multiplication (`A * B`)"
  | .binary .sub => "Subtraction (`A - B`)"
  | .binary .floorDiv => "Floor division (`A // B`)"
  | .binary .trueDiv => "True division (`A / B`)"
  | .binary .mod => "Modulo operation (`A % B`)"
  | .binary .and => "Logical \"and\" operation (`A and B`)"
  | .binary .or => "Logical \"or\" operation (`A or B`)"
  | .binary .contains => "Containment test (`A in B`)"
  | .binary .notContains => "Inverted containment test (`A not in B`)"
  | .binary .is => "Identity test (`A is B`)"
  | .binary .isNot => "Inverted identity test (`A is not B`)"
  | .binary .item => "Item access operation (`A[B]`)"
  | .binary .shiftLeft => "Left shift operation (`A << B`)"
  | .binary .shiftRight => "Right shift operation (`A >> B`)"
  | .binary .bitAnd => "Bitwise \"and\" operation (`A & B`)"
  | .binary .bitOr => "Bitwise \"or\" operation (`A | B`)"
  | .binary .bitXor => "Bitwise \"exclusive or\" operation (`A ^ B`)"
  | .slice => "Slice operation (`A[B:C]`)"
  | .unary .not => "Logical negation operation (`not A`)"
  | .unary .neg => "Arithmetic negation operation (`-A`)"
  | .unary .bitNot => "Bitwise \"not\" operation (`~A`)"
  | .cond => "if/else operation (`A if COND else B`)"
  | .attr => "Attribute access operation (`A.name`)"
  | .func => "Function call (`name(A, ...)`)"
  | .meth => "Method call (`A.name(B, ...)`)"

/-- The operator words that a rule writes as `?`, in order. -/
def operatorWords : NodeType → List String
  | .binary .and => ["and"]
  | .binary .or => ["or"]
  | .binary .contains => ["in"]
  | .binary .notContains => ["not in"]
  | .binary .is => ["is"]
  | .binary .isNot => ["is not"]
  | .unary .not => ["not"]
  | .cond => ["if", "else"]
  | _ => []

end NodeType
end QueryExpr
