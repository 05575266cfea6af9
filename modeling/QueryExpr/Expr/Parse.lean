import QueryExpr.Expr.Basic
import QueryExpr.Token.Scan

/-!
# Parsing

Expressions are read from left to right with a stack of unfinished constructs. The grammar has these
levels, loosest first: conditional, `or`, `and`, `not`, comparisons, `|`, `^`, `&`, shifts, sums,
products, signs, and the postfix forms (attribute, call, subscript). The operators of a level from
`or` to the products associate to the left, the else branch of a conditional nests to the right.

Between two tokens the parser is in one of a few situations (`State`): it wants an operand, it has
just completed one, or it is in the middle of a construct of several tokens. A token that no
situation admits ends the parse, so the failure is at the first token with which the text cannot go
on.
-/

namespace QueryExpr

/-! ### Levels -/

/-- The level of the conditional, the loosest. -/
def condLevel : Nat := 0

/-- The level of `or`: the first branch of a conditional and its test have it. -/
def orLevel : Nat := 1

/-- The level of `not`. -/
def notLevel : Nat := 3

/-- The level on which an operator associates. Item access is a postfix form and has its own. -/
def BinaryOp.level : BinaryOp → Nat
  | .or => orLevel
  | .and => 2
  | .eq | .ne | .lt | .le | .gt | .ge | .contains | .notContains | .is | .isNot => 4
  | .bitOr => 5
  | .bitXor => 6
  | .bitAnd => 7
  | .shiftLeft | .shiftRight => 8
  | .add | .sub => 9
  | .mul | .trueDiv | .floorDiv | .mod => 10
  | .item => 12

/-- The level of an operator in front of its operand; the operand is of the same level. -/
def UnaryOp.level : UnaryOp → Nat
  | .not => notLevel
  | .neg | .bitNot => 11

/-- The operator that a single token spells. -/
def Token.binaryOp? : Token → Option BinaryOp
  | .keyword .or => some .or
  | .keyword .and => some .and
  | .keyword .inside => some .contains
  | .symbol .eqEq => some .eq
  | .symbol .ne => some .ne
  | .symbol .lt => some .lt
  | .symbol .le => some .le
  | .symbol .gt => some .gt
  | .symbol .ge => some .ge
  | .symbol .pipe => some .bitOr
  | .symbol .caret => some .bitXor
  | .symbol .amp => some .bitAnd
  | .symbol .shiftLeft => some .shiftLeft
  | .symbol .shiftRight => some .shiftRight
  | .symbol .plus => some .add
  | .symbol .minus => some .sub
  | .symbol .star => some .mul
  | .symbol .slash => some .trueDiv
  | .symbol .slashSlash => some .floorDiv
  | .symbol .percent => some .mod
  | _ => none

/-- The value of a token that is an operand by itself, names apart. -/
def Token.literal? : Token → Option Literal
  | .keyword .noneValue => some .none
  | .keyword .trueValue => some (.bool true)
  | .keyword .falseValue => some (.bool false)
  | .int text => some (.ofInt text)
  | .float text => some (.ofFloat text)
  | .str value => some (.str value)
  | .date text => some (.ofDate text)
  | .color text => some (.ofColor text)
  | _ => none

namespace Parse

/-! ### Unfinished constructs -/

/-- A construct that has begun and waits for an operand. Items and arguments are kept newest first. -/
inductive Frame where
  /-- `left op` -/
  | binary (op : BinaryOp) (left : Expr)
  /-- `op` in front of its operand -/
  | unary (op : UnaryOp) (start : Nat)
  /-- `yes if` -/
  | test (yes : Expr)
  /-- `yes if test else` -/
  | otherwise (yes test : Expr)
  /-- `(` -/
  | paren (start : Nat)
  /-- `[` with the items before the current one -/
  | list (start : Nat) (items : List Expr)
  /-- An opening brace with the items before the current one -/
  | set (start : Nat) (items : List Expr)
  /-- `callee(` with the arguments before the current one, and the kind of the current one -/
  | call (callee : Expr) (args : List (ArgKind × Expr)) (kind : ArgKind)
  /-- `obj[`, with the bracket at `start` -/
  | subscript (obj : Expr) (start : Nat)
  /-- `obj[low:` -/
  | slice (obj low : Expr)
  deriving Repr, Inhabited

/-- The loosest level of an operand that may stand after the frame without parentheses. -/
def Frame.demand : Frame → Nat
  | .binary op _ => op.level + 1
  | .unary op _ => op.level
  | .test _ => orLevel
  | _ => condLevel

/-- The loosest level of an operand that may follow. -/
def demand : List Frame → Nat
  | [] => condLevel
  | f :: _ => f.demand

/-- Complete the constructs on top of the stack that bind at least as tightly as `level`, innermost
first. Brackets and the test of a conditional stay open. -/
def close (level : Nat) : List Frame → Expr → List Frame × Expr
  | .binary op left :: fs, e =>
    if level ≤ op.level then close level fs (.mkBinary op left e) else (.binary op left :: fs, e)
  | .unary op start :: fs, e =>
    if level ≤ op.level then close level fs (.mkUnary op start e) else (.unary op start :: fs, e)
  | .otherwise yes test :: fs, e =>
    if level ≤ condLevel then close level fs (.mkCond yes test e)
    else (.otherwise yes test :: fs, e)
  | fs, e => (fs, e)

/-! ### Situations -/

/-- What may come instead of an operand. -/
inductive Opening where
  /-- Nothing. -/
  | plain
  /-- The end of a list or of arguments: the bracket has just been opened. -/
  | first
  /-- The end of a list, a set or of arguments: a comma came before. -/
  | more
  /-- The slash of the empty set. -/
  | brace
  /-- The colon of a slice. -/
  | index
  /-- The end of a slice. -/
  | bound
  /-- The word `not` after `is`. -/
  | identity
  deriving DecidableEq, Repr, Inhabited

/-- The situation of the parser between two tokens. -/
inductive State where
  /-- An operand is wanted. -/
  | want (frames : List Frame) (opening : Opening)
  /-- An operand is complete. `single` says that it is one token. -/
  | complete (frames : List Frame) (operand : Expr) (single : Bool)
  /-- After the slash of an empty set that begins at `start`. -/
  | emptySet (frames : List Frame) (start : Nat)
  /-- After the point of an attribute. -/
  | member (frames : List Frame) (obj : Expr)
  /-- After an operand and the word `not`. -/
  | notIn (frames : List Frame) (operand : Expr)
  deriving Repr, Inhabited

/-- Why a token is not admitted. -/
inductive Refusal where
  /-- The text cannot go on with this token. -/
  | unexpected
  /-- The subscript whose bracket is at `start` has no index. -/
  | noIndex (start : Nat)
  deriving DecidableEq, Repr, Inhabited

/-- Put a binary operator after a complete operand. -/
def applyBinary (op : BinaryOp) (frames : List Frame) (operand : Expr) (opening : Opening) : State :=
  let (fs, left) := close op.level frames operand
  .want (.binary op left :: fs) opening

/-- The current argument is complete. -/
def finishArg (args : List (ArgKind × Expr)) (kind : ArgKind) (e : Expr) : List (ArgKind × Expr) :=
  (kind, e) :: args

/-- A token where an operand is wanted. -/
def stepWant (frames : List Frame) (opening : Opening) (l : Lexeme) : Except Refusal State :=
  match l.token.literal? with
  | some value => .ok (.complete frames (.const (.bare l.start l.stop) value) true)
  | none =>
    match l.token, opening, frames with
    | .ident name, _, _ => .ok (.complete frames (.name (.bare l.start l.stop) name) true)
    | .symbol .lparen, _, _ => .ok (.want (.paren l.start :: frames) .plain)
    | .symbol .lbracket, _, _ => .ok (.want (.list l.start [] :: frames) .first)
    | .symbol .lbrace, _, _ => .ok (.want (.set l.start [] :: frames) .brace)
    | .symbol .minus, _, _ => .ok (.want (.unary .neg l.start :: frames) .plain)
    | .symbol .tilde, _, _ => .ok (.want (.unary .bitNot l.start :: frames) .plain)
    | .keyword .not, .identity, .binary _ left :: fs =>
      .ok (.want (.binary .isNot left :: fs) .plain)
    | .keyword .not, _, _ =>
      if demand frames ≤ notLevel then .ok (.want (.unary .not l.start :: frames) .plain)
      else .error .unexpected
    | .symbol .star, .first, .call callee args _ :: fs
    | .symbol .star, .more, .call callee args _ :: fs =>
      .ok (.want (.call callee args .star :: fs) .plain)
    | .symbol .starStar, .first, .call callee args _ :: fs
    | .symbol .starStar, .more, .call callee args _ :: fs =>
      .ok (.want (.call callee args .starStar :: fs) .plain)
    | .symbol .rparen, .first, .call callee args _ :: fs
    | .symbol .rparen, .more, .call callee args _ :: fs =>
      .ok (.complete fs (.mkCall callee args.reverse l.stop) false)
    | .symbol .rbracket, .first, .list start items :: fs
    | .symbol .rbracket, .more, .list start items :: fs =>
      .ok (.complete fs (.list (.bare start l.stop) items.reverse) false)
    | .symbol .rbrace, .more, .set start items :: fs =>
      .ok (.complete fs (.set (.bare start l.stop) items.reverse) false)
    | .symbol .slash, .brace, .set start _ :: fs => .ok (.emptySet fs start)
    | .symbol .colon, .index, .subscript obj _ :: fs => .ok (.want (.slice obj .absent :: fs) .bound)
    | .symbol .rbracket, .index, .subscript _ start :: _ => .error (.noIndex start)
    | .symbol .rbracket, .bound, .slice obj low :: fs =>
      .ok (.complete fs (.mkSlice obj low .absent l.stop) false)
    | _, _, _ => .error .unexpected

/-- A token after a complete operand that begins a postfix form or goes on with an operator. -/
def stepOperator (frames : List Frame) (e : Expr) (l : Lexeme) : Option State :=
  match l.token with
  | .symbol .dot => some (.member frames e)
  | .symbol .lparen => some (.want (.call e [] .positional :: frames) .first)
  | .symbol .lbracket => some (.want (.subscript e l.start :: frames) .index)
  | .keyword .not => some (.notIn frames e)
  | .keyword .is => some (applyBinary .is frames e .identity)
  | token => token.binaryOp?.map fun op => applyBinary op frames e .plain

/-- A token after a complete operand that continues or ends the construct around it. -/
def stepClose (frames : List Frame) (e : Expr) (l : Lexeme) : Except Refusal State :=
  match l.token with
  | .keyword .ifWord =>
    match close orLevel frames e with
    | (.test _ :: _, _) => .error .unexpected
    | (fs, yes) => .ok (.want (.test yes :: fs) .plain)
  | .keyword .elseWord =>
    match close orLevel frames e with
    | (.test yes :: fs, test) => .ok (.want (.otherwise yes test :: fs) .plain)
    | _ => .error .unexpected
  | .symbol .comma =>
    match close condLevel frames e with
    | (.list start items :: fs, item) => .ok (.want (.list start (item :: items) :: fs) .more)
    | (.set start items :: fs, item) => .ok (.want (.set start (item :: items) :: fs) .more)
    | (.call callee args kind :: fs, arg) =>
      .ok (.want (.call callee (finishArg args kind arg) .positional :: fs) .more)
    | _ => .error .unexpected
  | .symbol .rparen =>
    match close condLevel frames e with
    | (.paren start :: fs, inner) => .ok (.complete fs (inner.parenthesized start l.stop) false)
    | (.call callee args kind :: fs, arg) =>
      .ok (.complete fs (.mkCall callee (finishArg args kind arg).reverse l.stop) false)
    | _ => .error .unexpected
  | .symbol .rbracket =>
    match close condLevel frames e with
    | (.list start items :: fs, item) =>
      .ok (.complete fs (.list (.bare start l.stop) (item :: items).reverse) false)
    | (.subscript obj _ :: fs, index) => .ok (.complete fs (.mkItem obj index l.stop) false)
    | (.slice obj low :: fs, high) => .ok (.complete fs (.mkSlice obj low high l.stop) false)
    | _ => .error .unexpected
  | .symbol .rbrace =>
    match close condLevel frames e with
    | (.set start items :: fs, item) =>
      .ok (.complete fs (.set (.bare start l.stop) (item :: items).reverse) false)
    | _ => .error .unexpected
  | .symbol .colon =>
    match close condLevel frames e with
    | (.subscript obj _ :: fs, low) => .ok (.want (.slice obj low :: fs) .bound)
    | _ => .error .unexpected
  | _ => .error .unexpected

/-- The sign `=` after a name that is all of an argument so far makes it a keyword argument. -/
def stepAssign (frames : List Frame) (e : Expr) (single : Bool) : Except Refusal State :=
  match single, e, frames with
  | true, .name _ name, .call callee args .positional :: fs =>
    .ok (.want (.call callee args (.keyword name) :: fs) .plain)
  | _, _, _ => .error .unexpected

/-- One token. -/
def step : State → Lexeme → Except Refusal State
  | .want frames opening, l => stepWant frames opening l
  | .complete frames e single, l =>
    if l.token = .symbol .assign then stepAssign frames e single
    else
      match stepOperator frames e l with
      | some s => .ok s
      | none => stepClose frames e l
  | .emptySet frames start, l =>
    if l.token = .symbol .rbrace then .ok (.complete frames (.set (.bare start l.stop) []) false)
    else .error .unexpected
  | .member frames obj, l =>
    match l.token with
    | .ident name => .ok (.complete frames (.mkAttr obj name l.stop) false)
    | _ => .error .unexpected
  | .notIn frames e, l =>
    if l.token = .keyword .inside then .ok (applyBinary .notContains frames e .plain)
    else .error .unexpected

/-- The expression, if the text may end here. -/
def finish : State → Option Expr
  | .complete frames e _ =>
    match close condLevel frames e with
    | ([], e) => some e
    | _ => none
  | _ => none

/-- The situation before the first token. -/
def initial : State := .want [] .plain

end Parse

/-! ### Syntax errors -/

/-- Why a text is no expression. -/
inductive SyntaxError where
  /-- No token begins at this offset. -/
  | lexical (offset : Nat)
  /-- The text cannot go on with the token at this offset. -/
  | unexpected (offset : Nat) (found : Token)
  /-- The text ends too early. -/
  | unfinished (length : Nat)
  /-- The subscript at this offset has no index. -/
  | noIndex (offset : Nat)
  deriving DecidableEq, Repr, Inhabited

namespace SyntaxError

/-- Where the error is. -/
def offset : SyntaxError → Nat
  | .lexical offset | .unexpected offset _ | .unfinished offset | .noIndex offset => offset

/-- What is wrong. -/
def message : SyntaxError → String
  | .lexical _ => "found no token"
  | .unexpected _ found => "found '" ++ found.describe ++ "'"
  | .unfinished _ => "found end of input"
  | .noIndex _ => "expected an index"

end SyntaxError

namespace Parse

/-- Read the tokens from a situation on; `length` is the number of bytes of the text. -/
def run (length : Nat) : State → List Lexeme → Except SyntaxError Expr
  | s, [] =>
    match finish s with
    | some e => .ok e
    | none => .error (.unfinished length)
  | s, l :: ls =>
    match step s l with
    | .ok s => run length s ls
    | .error .unexpected => .error (.unexpected l.start l.token)
    | .error (.noIndex start) => .error (.noIndex start)

end Parse

/-- The expression that a sequence of tokens spells. -/
def Expr.ofTokens (length : Nat) (tokens : List Lexeme) : Except SyntaxError Expr :=
  Parse.run length Parse.initial tokens

/-- The expression that a text spells. -/
def Expr.parse (source : String) : Except SyntaxError Expr :=
  match Token.scan source with
  | .error offset => .error (.lexical offset)
  | .ok tokens => Expr.ofTokens (Text.byteLength source.toList) tokens

end QueryExpr
