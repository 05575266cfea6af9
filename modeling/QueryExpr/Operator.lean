/-!
# Operators

The operators of the expression language. Item access `A[B]` counts as an operator with two operands.
Each operator has a binding strength: a larger number binds tighter, and an operand whose strength is
too small is put in parentheses when an expression is written out.
-/

namespace QueryExpr

/-- Operators with two operands. -/
inductive BinaryOp where
  | eq
  | ne
  | lt
  | le
  | gt
  | ge
  | add
  | sub
  | mul
  | trueDiv
  | floorDiv
  | mod
  | shiftLeft
  | shiftRight
  | bitAnd
  | bitOr
  | bitXor
  | and
  | or
  | contains
  | notContains
  | is
  | isNot
  | item
  deriving DecidableEq, Repr, Inhabited

namespace BinaryOp

/-- All operators. -/
def all : List BinaryOp :=
  [.eq, .ne, .lt, .le, .gt, .ge, .add, .sub, .mul, .trueDiv, .floorDiv, .mod, .shiftLeft,
   .shiftRight, .bitAnd, .bitOr, .bitXor, .and, .or, .contains, .notContains, .is, .isNot, .item]

/-- The operator as written between its operands; item access has no such text. -/
def text : BinaryOp → String
  | .eq => "=="
  | .ne => "!="
  | .lt => "<"
  | .le => "<="
  | .gt => ">"
  | .ge => ">="
  | .add => "+"
  | .sub => "-"
  | .mul => "*"
  | .trueDiv => "/"
  | .floorDiv => "//"
  | .mod => "%"
  | .shiftLeft => "<<"
  | .shiftRight => ">>"
  | .bitAnd => "&"
  | .bitOr => "|"
  | .bitXor => "^"
  | .and => "and"
  | .or => "or"
  | .contains => "in"
  | .notContains => "not in"
  | .is => "is"
  | .isNot => "is not"
  | .item => ""

/-- The operator with this text. -/
def ofText? (text : String) : Option BinaryOp := all.find? fun op => op.text = text

/-- The binding strength. -/
def precedence : BinaryOp → Nat
  | .item => 16
  | .mul | .trueDiv | .floorDiv | .mod => 12
  | .add | .sub => 11
  | .shiftLeft | .shiftRight => 10
  | .bitAnd => 9
  | .bitXor => 8
  | .bitOr => 7
  | .eq | .ne | .lt | .le | .gt | .ge | .contains | .notContains | .is | .isNot => 6
  | .and | .or => 4

end BinaryOp

/-- Operators written in front of their operand. -/
inductive UnaryOp where
  | not
  | neg
  | bitNot
  deriving DecidableEq, Repr, Inhabited

namespace UnaryOp

/-- All operators. -/
def all : List UnaryOp := [.not, .neg, .bitNot]

/-- The operator as written, with the space that a word needs after it. -/
def text : UnaryOp → String
  | .not => "not "
  | .neg => "-"
  | .bitNot => "~"

/-- The binding strength. -/
def precedence : UnaryOp → Nat
  | .not => 5
  | .neg | .bitNot => 14

end UnaryOp
end QueryExpr
