import QueryExpr.Expr.Parse

/-!
# What one token does

The parser's step looks at the token, at what may come instead of an operand and at the construct on top
of the stack, and has one clause for each combination that it admits. Here the clauses are sorted by what
they do to the stack: a token may begin a construct (`Opens`), go on with the topmost one (`GoesOn`,
`TakesUp`) or complete it (`Ends`, `Completes`). Whatever is to be shown of a step is shown for each of
these kinds, and `stepWant_cases` and `stepClose_cases` put the kinds together.
-/

namespace QueryExpr.Parse

variable {frames : List Frame} {opening : Opening} {l : Lexeme} {e : Expr} {s : State}

/-! ### Where an operand is wanted -/

/-- The token begins a construct, and with it goes what may come instead of the first operand. -/
inductive Opens (frames : List Frame) (l : Lexeme) : Frame → Opening → Prop where
  | paren (token : l.token = .symbol .lparen) : Opens frames l (.paren l.start) .plain
  | list (token : l.token = .symbol .lbracket) : Opens frames l (.list l.start []) .first
  | set (token : l.token = .symbol .lbrace) : Opens frames l (.set l.start []) .brace
  | neg (token : l.token = .symbol .minus) : Opens frames l (.unary .neg l.start) .plain
  | bitNot (token : l.token = .symbol .tilde) : Opens frames l (.unary .bitNot l.start) .plain
  | not (token : l.token = .keyword .not) (fits : demand frames ≤ notLevel) :
      Opens frames l (.unary .not l.start) .plain

/-- The token goes on with the construct on top of the stack: it completes an operator of two words, tells
how the next argument is passed, or is the colon of a slice without a lower bound. -/
inductive GoesOn (opening : Opening) (l : Lexeme) : Frame → Frame → Opening → Prop where
  | isNot {op : BinaryOp} {left : Expr} (token : l.token = .keyword .not)
      (now : opening = .identity) : GoesOn opening l (.binary op left) (.binary .isNot left) .plain
  | star {callee : Expr} {args : List (ArgKind × Expr)} {kind : ArgKind}
      (token : l.token = .symbol .star) (now : opening = .first ∨ opening = .more) :
      GoesOn opening l (.call callee args kind) (.call callee args .star) .plain
  | starStar {callee : Expr} {args : List (ArgKind × Expr)} {kind : ArgKind}
      (token : l.token = .symbol .starStar) (now : opening = .first ∨ opening = .more) :
      GoesOn opening l (.call callee args kind) (.call callee args .starStar) .plain
  | colon {obj : Expr} {start : Nat} (token : l.token = .symbol .colon) (now : opening = .index) :
      GoesOn opening l (.subscript obj start) (.slice obj .absent) .bound

/-- The token completes the construct on top of the stack, which is empty or has a comma behind its last
part, or is a slice without an upper bound. -/
inductive Ends (opening : Opening) (l : Lexeme) : Frame → Expr → Prop where
  | call {callee : Expr} {args : List (ArgKind × Expr)} {kind : ArgKind}
      (token : l.token = .symbol .rparen) (now : opening = .first ∨ opening = .more) :
      Ends opening l (.call callee args kind) (.mkCall callee args.reverse l.stop)
  | list {start : Nat} {items : List Expr} (token : l.token = .symbol .rbracket)
      (now : opening = .first ∨ opening = .more) :
      Ends opening l (.list start items) (.list (.bare start l.stop) items.reverse)
  | set {start : Nat} {items : List Expr} (token : l.token = .symbol .rbrace)
      (now : opening = .more) :
      Ends opening l (.set start items) (.set (.bare start l.stop) items.reverse)
  | slice {obj low : Expr} (token : l.token = .symbol .rbracket) (now : opening = .bound) :
      Ends opening l (.slice obj low) (.mkSlice obj low .absent l.stop)

/-- What a token leads to where an operand is wanted. -/
inductive Wants (frames : List Frame) (opening : Opening) (l : Lexeme) : State → Prop where
  | literal {value : Literal} (token : l.token.literal? = some value) :
      Wants frames opening l (.complete frames (.const (.bare l.start l.stop) value) true)
  | name {n : String} (token : l.token = .ident n) :
      Wants frames opening l (.complete frames (.name (.bare l.start l.stop) n) true)
  | opens {f : Frame} {opening' : Opening} (move : Opens frames l f opening') :
      Wants frames opening l (.want (f :: frames) opening')
  | goesOn {f f' : Frame} {fs : List Frame} {opening' : Opening} (top : frames = f :: fs)
      (move : GoesOn opening l f f' opening') : Wants frames opening l (.want (f' :: fs) opening')
  | ends {f : Frame} {fs : List Frame} {e : Expr} (top : frames = f :: fs) (move : Ends opening l f e) :
      Wants frames opening l (.complete fs e false)
  /-- The slash of the empty set -/
  | emptySet {start : Nat} {items : List Expr} {fs : List Frame}
      (top : frames = .set start items :: fs) (token : l.token = .symbol .slash)
      (now : opening = .brace) : Wants frames opening l (.emptySet fs start)

/-- **A token where an operand is wanted.** -/
theorem stepWant_cases (h : stepWant frames opening l = .ok s) : Wants frames opening l s := by
  unfold stepWant at h
  split at h
  · next token => cases h; exact .literal token
  -- one clause after the other; those for an open bracket come twice, as the bracket may be empty
  split at h
  · next token => cases h; exact .name token
  · next token => cases h; exact .opens (.paren token)
  · next token => cases h; exact .opens (.list token)
  · next token => cases h; exact .opens (.set token)
  · next token => cases h; exact .opens (.neg token)
  · next token => cases h; exact .opens (.bitNot token)
  · next token => cases h; exact .goesOn rfl (.isNot token rfl)
  · next token _ =>
    split at h
    · next fits => cases h; exact .opens (.not token fits)
    · cases h
  · next token => cases h; exact .goesOn rfl (.star token (.inl rfl))
  · next token => cases h; exact .goesOn rfl (.star token (.inr rfl))
  · next token => cases h; exact .goesOn rfl (.starStar token (.inl rfl))
  · next token => cases h; exact .goesOn rfl (.starStar token (.inr rfl))
  · next token => cases h; exact .ends rfl (.call token (.inl rfl))
  · next token => cases h; exact .ends rfl (.call token (.inr rfl))
  · next token => cases h; exact .ends rfl (.list token (.inl rfl))
  · next token => cases h; exact .ends rfl (.list token (.inr rfl))
  · next token => cases h; exact .ends rfl (.set token rfl)
  · next token => cases h; exact .emptySet rfl token rfl
  · next token => cases h; exact .goesOn rfl (.colon token rfl)
  · cases h
  · next token => cases h; exact .ends rfl (.slice token rfl)
  · cases h

/-! ### Behind an operand -/

/-- The token takes an operand up into the construct below it, which goes on; everything tighter than the
level has been closed before. -/
inductive TakesUp (l : Lexeme) (e : Expr) : Nat → Frame → Frame → Opening → Prop where
  | test {yes : Expr} (token : l.token = .keyword .elseWord) :
      TakesUp l e orLevel (.test yes) (.otherwise yes e) .plain
  | list {start : Nat} {items : List Expr} (token : l.token = .symbol .comma) :
      TakesUp l e condLevel (.list start items) (.list start (e :: items)) .more
  | set {start : Nat} {items : List Expr} (token : l.token = .symbol .comma) :
      TakesUp l e condLevel (.set start items) (.set start (e :: items)) .more
  | call {callee : Expr} {args : List (ArgKind × Expr)} {kind : ArgKind}
      (token : l.token = .symbol .comma) :
      TakesUp l e condLevel (.call callee args kind)
        (.call callee (finishArg args kind e) .positional) .more
  | colon {obj : Expr} {start : Nat} (token : l.token = .symbol .colon) :
      TakesUp l e condLevel (.subscript obj start) (.slice obj e) .bound

/-- The token completes the construct below an operand, which is its last part. -/
inductive Completes (l : Lexeme) (e : Expr) : Frame → Expr → Prop where
  | paren {start : Nat} (token : l.token = .symbol .rparen) :
      Completes l e (.paren start) (e.parenthesized start l.stop)
  | call {callee : Expr} {args : List (ArgKind × Expr)} {kind : ArgKind}
      (token : l.token = .symbol .rparen) :
      Completes l e (.call callee args kind) (.mkCall callee (finishArg args kind e).reverse l.stop)
  | list {start : Nat} {items : List Expr} (token : l.token = .symbol .rbracket) :
      Completes l e (.list start items) (.list (.bare start l.stop) (e :: items).reverse)
  | item {obj : Expr} {start : Nat} (token : l.token = .symbol .rbracket) :
      Completes l e (.subscript obj start) (.mkItem obj e l.stop)
  | slice {obj low : Expr} (token : l.token = .symbol .rbracket) :
      Completes l e (.slice obj low) (.mkSlice obj low e l.stop)
  | set {start : Nat} {items : List Expr} (token : l.token = .symbol .rbrace) :
      Completes l e (.set start items) (.set (.bare start l.stop) (e :: items).reverse)

/-- What a token that is no operator leads to behind an operand. -/
inductive Closes (frames : List Frame) (e : Expr) (l : Lexeme) : State → Prop where
  /-- The word `if`, where no test is open -/
  | test {fs : List Frame} {yes : Expr} (closed : close orLevel frames e = (fs, yes))
      (token : l.token = .keyword .ifWord) (none : ∀ yes' fs', fs ≠ .test yes' :: fs') :
      Closes frames e l (.want (.test yes :: fs) .plain)
  | takesUp {level : Nat} {f f' : Frame} {fs : List Frame} {e' : Expr} {opening : Opening}
      (closed : close level frames e = (f :: fs, e')) (move : TakesUp l e' level f f' opening) :
      Closes frames e l (.want (f' :: fs) opening)
  | completes {f : Frame} {fs : List Frame} {e' node : Expr}
      (closed : close condLevel frames e = (f :: fs, e')) (move : Completes l e' f node) :
      Closes frames e l (.complete fs node false)

/-- **A token that continues or ends the construct around an operand.** -/
theorem stepClose_cases (h : stepClose frames e l = .ok s) : Closes frames e l s := by
  -- first by the token, then by what is left on the stack once tighter constructs are closed
  unfold stepClose at h
  split at h
  · -- `if`
    next token =>
    split at h
    · cases h
    · next none closed => cases h; exact .test closed token none
  · -- `else`
    next token =>
    split at h
    · next closed => cases h; exact .takesUp closed (.test token)
    · cases h
  · -- a comma
    next token =>
    split at h
    · next closed => cases h; exact .takesUp closed (.list token)
    · next closed => cases h; exact .takesUp closed (.set token)
    · next closed => cases h; exact .takesUp closed (.call token)
    · cases h
  · -- a closing parenthesis
    next token =>
    split at h
    · next closed => cases h; exact .completes closed (.paren token)
    · next closed => cases h; exact .completes closed (.call token)
    · cases h
  · -- a closing bracket
    next token =>
    split at h
    · next closed => cases h; exact .completes closed (.list token)
    · next closed => cases h; exact .completes closed (.item token)
    · next closed => cases h; exact .completes closed (.slice token)
    · cases h
  · -- a closing brace
    next token =>
    split at h
    · next closed => cases h; exact .completes closed (.set token)
    · cases h
  · -- a colon
    next token =>
    split at h
    · next closed => cases h; exact .takesUp closed (.colon token)
    · cases h
  · cases h

end QueryExpr.Parse
