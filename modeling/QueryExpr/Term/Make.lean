import QueryExpr.Term.Infer

/-!
# Building terms

Constructors that write the source of the node that they build. Constants are written as literals, and
an operand is put in parentheses wherever its binding strength requires it, so that the source reads
back as the same term.
-/

namespace QueryExpr.Term

/-! ### Pieces of source -/

/-- A slot, in parentheses if asked for. -/
def slotIn (parenthesize : Bool) (index : Nat) : List Fragment :=
  if parenthesize then [.text "(", .slot index, .text ")"] else [.slot index]

/-- Slots from `first` on, with commas between them. -/
def slotItems (first : Nat) : Nat → List Fragment
  | 0 => []
  | 1 => [.slot first]
  | count + 2 => .slot first :: .text ", " :: slotItems (first + 1) (count + 1)

/-! ### Leaves -/

/-- A constant. -/
def mkConst (value : Constant) : Term := make (.const value) [.text value.literal] []

/-- A moment, to the second. -/
def mkDateTime (value : Calendar.DateTime) : Term := mkConst (.dateTime value.wholeSecond)

/-- The missing value in the place of a bound that is left out; it takes up no source. -/
def absent : Term := make (.const .none) [] []

/-- A variable. -/
def mkRoot (field : Field) : Term :=
  make (.field field.identifier (some field)) [.text field.identifier] []

/-- A variable that is not known. -/
def mkUnknownRoot (identifier : String) : Term :=
  make (.field identifier none) [.text identifier] []

/-- The field that an identifier names after the term. -/
def member? (groups : Groups) (parent : Term) (identifier : String) : Option Field :=
  parent.field?.bind fun field => groups.member? field identifier

/-- `parent.identifier` as a reference to a field. -/
def mkFieldRef (groups : Groups) (parent : Term) (identifier : String) : Term :=
  make (.field identifier (member? groups parent identifier))
    [.slot 0, .text ".", .text identifier] [parent]

/-! ### Nodes with operands -/

/-- `[a, b]` -/
def mkList (items : List Term) : Term :=
  make .list (.text "[" :: slotItems 0 items.length ++ [.text "]"]) items

/-- A set in braces. Empty braces would not be a set, so the empty one has a slash in them. -/
def mkSet (items : List Term) : Term :=
  make .set
    (.text "\x7b" :: (if items.isEmpty then [.text "/"] else slotItems 0 items.length) ++
      [.text "\x7d"])
    items

/-- `left op right`, or `left[right]`. -/
def mkBinary (op : BinaryOp) (left right : Term) : Term :=
  let front := slotIn (left.precedence < op.precedence) 0
  let content :=
    match op with
    | .item => front ++ [.text "[", .slot 1, .text "]"]
    | op => front ++ .text (" " ++ op.text ++ " ") :: slotIn (right.precedence ≤ op.precedence) 1
  make (.binary op) content [left, right]

/-- `op obj` -/
def mkUnary (op : UnaryOp) (obj : Term) : Term :=
  make (.unary op) (.text op.text :: slotIn (obj.precedence ≤ op.precedence) 0) [obj]

/-- `yes if test else no` -/
def mkCond (yes test no : Term) : Term :=
  let operand (t : Term) (index : Nat) := slotIn (t.precedence ≤ Head.cond.precedence) index
  make .cond
    (operand yes 0 ++ .text " if " :: operand test 1 ++ .text " else " :: operand no 2)
    [yes, test, no]

/-- `obj[low:high]`; a bound may be left out. -/
def mkSlice (obj : Term) (low high : Option Term) : Term :=
  make .slice
    (slotIn (obj.precedence < Head.slice.precedence) 0 ++
      [.text "[", .slot 1, .text ":", .slot 2, .text "]"])
    [obj, low.getD absent, high.getD absent]

/-- `obj.name` -/
def mkAttr (obj : Term) (name : String) : Term :=
  make (.attr name)
    (slotIn (obj.precedence < (Head.attr name).precedence) 0 ++ [.text ".", .text name]) [obj]

/-- `name(args)` -/
def mkFunc (name : String) (args : List Term) : Term :=
  make (.func name) (.text name :: .text "(" :: slotItems 0 args.length ++ [.text ")"]) args

/-- `obj.name(args)` -/
def mkMeth (obj : Term) (name : String) (args : List Term) : Term :=
  make (.meth name)
    (slotIn (obj.precedence < (Head.meth name).precedence) 0 ++
      .text "." :: .text name :: .text "(" :: slotItems 1 args.length ++ [.text ")"])
    (obj :: args)

end QueryExpr.Term
