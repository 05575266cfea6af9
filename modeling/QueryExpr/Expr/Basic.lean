import QueryExpr.Expr.Literal
import QueryExpr.Operator

/-!
# Expression trees

What the grammar makes of a text: nothing is resolved or typed yet, and every node knows the bytes of
the source that it covers.
-/

namespace QueryExpr

/-- A range of bytes of the source. -/
structure Span where
  start : Nat
  stop : Nat
  deriving DecidableEq, Repr, Inhabited

/-- Where a node stands. -/
structure Place where
  /-- The node itself, without parentheses around it. -/
  span : Span
  /-- With the parentheses around it: what the node takes up of its parent. -/
  outer : Span
  deriving DecidableEq, Repr, Inhabited

/-- The place of a node without parentheses around it. -/
def Place.bare (start stop : Nat) : Place := ⟨⟨start, stop⟩, ⟨start, stop⟩⟩

/-- How an argument is passed. -/
inductive ArgKind where
  /-- `f(x)` -/
  | positional
  /-- `f(name=x)` -/
  | keyword (name : String)
  /-- `f(*x)` -/
  | star
  /-- `f(**x)` -/
  | starStar
  deriving DecidableEq, Repr, Inhabited

/-- An expression as parsed. -/
inductive Expr where
  /-- A literal. -/
  | const (place : Place) (value : Literal)
  /-- A name. -/
  | name (place : Place) (name : String)
  /-- A bound that a slice leaves out. -/
  | absent
  /-- `[a, b]` -/
  | list (place : Place) (items : List Expr)
  /-- A set in braces; the empty one is written with a slash between them. -/
  | set (place : Place) (items : List Expr)
  /-- `obj.name` -/
  | attr (place : Place) (obj : Expr) (name : String)
  /-- `callee(args)`, with one kind for each argument. -/
  | call (place : Place) (callee : Expr) (kinds : List ArgKind) (args : List Expr)
  /-- `obj[index]` -/
  | item (place : Place) (obj index : Expr)
  /-- `obj[low:high]` -/
  | slice (place : Place) (obj low high : Expr)
  /-- `left op right` -/
  | binary (place : Place) (op : BinaryOp) (left right : Expr)
  /-- `op obj` -/
  | unary (place : Place) (op : UnaryOp) (obj : Expr)
  /-- `yes if test else no` -/
  | cond (place : Place) (yes test no : Expr)
  deriving Repr, Inhabited, BEq

namespace Expr

/-- Where the node stands; an absent bound takes up nothing. -/
def place : Expr → Place
  | .const p _ | .name p _ | .list p _ | .set p _ | .attr p _ _ | .call p _ _ _ | .item p _ _
  | .slice p _ _ _ | .binary p _ _ _ | .unary p _ _ | .cond p _ _ _ => p
  | .absent => .bare 0 0

/-- The bytes of the node itself. -/
def span (e : Expr) : Span := e.place.span

/-- The bytes of the node with the parentheses around it. -/
def outer (e : Expr) : Span := e.place.outer

/-- The node at another place. -/
def withPlace (p : Place) : Expr → Expr
  | .const _ v => .const p v
  | .name _ n => .name p n
  | .absent => .absent
  | .list _ items => .list p items
  | .set _ items => .set p items
  | .attr _ obj n => .attr p obj n
  | .call _ callee kinds args => .call p callee kinds args
  | .item _ obj index => .item p obj index
  | .slice _ obj low high => .slice p obj low high
  | .binary _ op left right => .binary p op left right
  | .unary _ op obj => .unary p op obj
  | .cond _ yes test no => .cond p yes test no

/-- The node inside parentheses that reach from `start` to `stop`. -/
def parenthesized (start stop : Nat) (e : Expr) : Expr :=
  e.withPlace ⟨e.span, ⟨start, stop⟩⟩

/-- The bound is not left out. -/
def isPresent : Expr → Bool
  | .absent => false
  | _ => true

/-! ### Nodes over their operands

A node with operands covers the source from the outer end of its first to that of its last part. -/

/-- `left op right` -/
def mkBinary (op : BinaryOp) (left right : Expr) : Expr :=
  .binary (.bare left.outer.start right.outer.stop) op left right

/-- `op obj`, with the operator at `start`. -/
def mkUnary (op : UnaryOp) (start : Nat) (obj : Expr) : Expr :=
  .unary (.bare start obj.outer.stop) op obj

/-- `yes if test else no` -/
def mkCond (yes test no : Expr) : Expr :=
  .cond (.bare yes.outer.start no.outer.stop) yes test no

/-- `obj.name`, with the name ending at `stop`. -/
def mkAttr (obj : Expr) (name : String) (stop : Nat) : Expr :=
  .attr (.bare obj.outer.start stop) obj name

/-- `callee(args)`, with the closing parenthesis ending at `stop`. -/
def mkCall (callee : Expr) (args : List (ArgKind × Expr)) (stop : Nat) : Expr :=
  .call (.bare callee.outer.start stop) callee (args.map Prod.fst) (args.map Prod.snd)

/-- `obj[index]`, with the closing bracket ending at `stop`. -/
def mkItem (obj index : Expr) (stop : Nat) : Expr :=
  .item (.bare obj.outer.start stop) obj index

/-- `obj[low:high]`, with the closing bracket ending at `stop`. -/
def mkSlice (obj low high : Expr) (stop : Nat) : Expr :=
  .slice (.bare obj.outer.start stop) obj low high

end Expr
end QueryExpr
