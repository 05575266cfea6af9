import QueryExpr.Proofs.Expr.Operands

/-!
# The grammar of expressions

The grammar in layers, from the conditional down to what has no operator of its own. On each layer the
operators associate to the left, except that an operator in front of its operand and the last branch
of a conditional go on to the right. `Derives layer tokens t` says that the tokens are a phrase of the
layer with the tree `t`, where trees do not know their place in a text (`Expr.unplaced`).

The grammar says nothing about how phrases are found. `Spells layer ls e` is the same grammar over the
tokens of a text, where the tree has its places. Tokens that are a phrase spell its tree: there is one lemma
for each form of phrase (`Spelled.cond`, `Spelled.binary` and so on), and `Derives.spelled` puts them
together. What is spelled is an operand for the parser (`Spells.operand`).
-/

namespace QueryExpr

/-! ### Trees without places -/

/-- The place of a node in no text. -/
def Place.nowhere : Place := .bare 0 0

namespace Expr

mutual

/-- The tree alone, whatever the places of its nodes. -/
def unplaced : Expr → Expr
  | .const _ value => .const .nowhere value
  | .name _ n => .name .nowhere n
  | .absent => .absent
  | .list _ items => .list .nowhere (unplacedAll items)
  | .set _ items => .set .nowhere (unplacedAll items)
  | .attr _ obj n => .attr .nowhere obj.unplaced n
  | .call _ callee kinds args => .call .nowhere callee.unplaced kinds (unplacedAll args)
  | .item _ obj index => .item .nowhere obj.unplaced index.unplaced
  | .slice _ obj low high => .slice .nowhere obj.unplaced low.unplaced high.unplaced
  | .binary _ op left right => .binary .nowhere op left.unplaced right.unplaced
  | .unary _ op obj => .unary .nowhere op obj.unplaced
  | .cond _ yes test no => .cond .nowhere yes.unplaced test.unplaced no.unplaced

/-- Several trees alone. -/
def unplacedAll : List Expr → List Expr
  | [] => []
  | e :: es => e.unplaced :: unplacedAll es

end

/-- The trees of several expressions, one by one. -/
theorem unplacedAll_eq (es : List Expr) : unplacedAll es = es.map unplaced := by
  induction es with
  | nil => rfl
  | cons e es ih => rw [unplacedAll, ih, List.map_cons]

/-- Parentheses are part of the place and not of the tree. -/
theorem unplaced_parenthesized (e : Expr) (start stop : Nat) :
    (e.parenthesized start stop).unplaced = e.unplaced := by
  cases e <;> rfl

/-- The tree of a call has the kinds and the trees of its arguments, each in a list of its own. -/
theorem unplaced_mkCall (callee : Expr) (args : List (ArgKind × Expr)) (stop : Nat) :
    (mkCall callee args stop).unplaced =
      .call .nowhere callee.unplaced (args.map Prod.fst) (args.map fun a => a.2.unplaced) := by
  rw [mkCall, unplaced, unplacedAll_eq, List.map_map]
  rfl

end Expr

/-! ### Layers and phrases -/

/-- The layers of the grammar, loosest first. -/
inductive Layer where
  | conditional
  | disjunction
  | conjunction
  | negation
  | comparison
  | bitOr
  | bitXor
  | bitAnd
  | shift
  | sum
  | product
  | sign
  /-- Atoms, and what a point, parentheses or brackets make of them. -/
  | primary
  deriving DecidableEq

namespace Layer

/-- The next layer: its phrases are the operands of this one. -/
def tighter? : Layer → Option Layer
  | .conditional => some .disjunction
  | .disjunction => some .conjunction
  | .conjunction => some .negation
  | .negation => some .comparison
  | .comparison => some .bitOr
  | .bitOr => some .bitXor
  | .bitXor => some .bitAnd
  | .bitAnd => some .shift
  | .shift => some .sum
  | .sum => some .product
  | .product => some .sign
  | .sign => some .primary
  | .primary => none

/-- The operators between two operands. -/
def operators : Layer → List BinaryOp
  | .disjunction => [.or]
  | .conjunction => [.and]
  | .comparison => [.eq, .ne, .lt, .le, .gt, .ge, .contains, .notContains, .is, .isNot]
  | .bitOr => [.bitOr]
  | .bitXor => [.bitXor]
  | .bitAnd => [.bitAnd]
  | .shift => [.shiftLeft, .shiftRight]
  | .sum => [.add, .sub]
  | .product => [.mul, .trueDiv, .floorDiv, .mod]
  | .conditional | .negation | .sign | .primary => []

/-- The operators in front of an operand. -/
def signs : Layer → List UnaryOp
  | .negation => [.not]
  | .sign => [.neg, .bitNot]
  | _ => []

end Layer

/-- What stands between commas. -/
abbrev Commas : List (List Token) → List Token → Prop := Separated (· = .symbol .comma)

/-- **The grammar**: the tokens are a phrase of the layer, with this tree. -/
inductive Derives : Layer → List Token → Expr → Prop where
  /-- A phrase of the next layer. -/
  | tighter {layer next : Layer} {ts : List Token} {e : Expr} (h : layer.tighter? = some next)
      (part : Derives next ts e) : Derives layer ts e
  /-- `yes if test else no` -/
  | cond {ts ts' ts'' : List Token} {yes test no : Expr} (part : Derives .disjunction ts yes)
      (part' : Derives .disjunction ts' test) (part'' : Derives .conditional ts'' no) :
      Derives .conditional (ts ++ .keyword .ifWord :: (ts' ++ .keyword .elseWord :: ts''))
        (.cond .nowhere yes test no)
  /-- `left op right` -/
  | binary {layer next : Layer} {op : BinaryOp} {ts ts' : List Token} {left right : Expr}
      (hop : op ∈ layer.operators) (h : layer.tighter? = some next) (part : Derives layer ts left)
      (part' : Derives next ts' right) :
      Derives layer (ts ++ (op.tokens ++ ts')) (.binary .nowhere op left right)
  /-- `op obj` -/
  | unary {layer : Layer} {op : UnaryOp} {ts : List Token} {obj : Expr} (hop : op ∈ layer.signs)
      (part : Derives layer ts obj) : Derives layer (op.token :: ts) (.unary .nowhere op obj)
  /-- `obj.name` -/
  | attr {ts : List Token} {obj : Expr} (name : String) (part : Derives .primary ts obj) :
      Derives .primary (ts ++ [.symbol .dot, .ident name]) (.attr .nowhere obj name)
  /-- `callee(args)`, each argument with what tells how it is passed -/
  | call {ts us : List Token} {callee : Expr} {args : List (ArgKind × List Token × Expr)}
      (part : Derives .primary ts callee) (parts : ∀ a ∈ args, Derives .conditional a.2.1 a.2.2)
      (h : Commas (args.map fun a => a.1.tokens ++ a.2.1) us) :
      Derives .primary (ts ++ .symbol .lparen :: (us ++ [.symbol .rparen]))
        (.call .nowhere callee (args.map fun a => a.1) (args.map fun a => a.2.2))
  /-- `obj[index]` -/
  | item {ts us : List Token} {obj index : Expr} (part : Derives .primary ts obj)
      (part' : Derives .conditional us index) :
      Derives .primary (ts ++ .symbol .lbracket :: (us ++ [.symbol .rbracket]))
        (.item .nowhere obj index)
  /-- `obj[low:high]`, where each bound may be left out -/
  | slice {ts : List Token} {obj : Expr} {low high : Option (List Token × Expr)}
      (part : Derives .primary ts obj) (parts : ∀ b ∈ low, Derives .conditional b.1 b.2)
      (parts' : ∀ b ∈ high, Derives .conditional b.1 b.2) :
      Derives .primary
        (ts ++ .symbol .lbracket :: ((low.elim [] Prod.fst ++ [.symbol .colon]) ++
          (high.elim [] Prod.fst ++ [.symbol .rbracket])))
        (.slice .nowhere obj (low.elim .absent Prod.snd) (high.elim .absent Prod.snd))
  | literal {token : Token} {value : Literal} (h : token.literal? = some value) :
      Derives .primary [token] (.const .nowhere value)
  | name (name : String) : Derives .primary [.ident name] (.name .nowhere name)
  /-- `(e)`, of which the tree shows nothing -/
  | paren {ts : List Token} {e : Expr} (part : Derives .conditional ts e) :
      Derives .primary (.symbol .lparen :: (ts ++ [.symbol .rparen])) e
  /-- `[a, b]` -/
  | list {us : List Token} {items : List (List Token × Expr)}
      (parts : ∀ p ∈ items, Derives .conditional p.1 p.2) (h : Commas (items.map Prod.fst) us) :
      Derives .primary (.symbol .lbracket :: (us ++ [.symbol .rbracket]))
        (.list .nowhere (items.map Prod.snd))
  /-- The empty set, with a slash in its braces -/
  | emptySet : Derives .primary [.symbol .lbrace, .symbol .slash, .symbol .rbrace] (.set .nowhere [])
  /-- Any other set -/
  | set {us : List Token} {items : List (List Token × Expr)} (hne : items ≠ [])
      (parts : ∀ p ∈ items, Derives .conditional p.1 p.2) (h : Commas (items.map Prod.fst) us) :
      Derives .primary (.symbol .lbrace :: (us ++ [.symbol .rbrace]))
        (.set .nowhere (items.map Prod.snd))

/-! ### Layers and levels -/

namespace Layer

/-- The level at which the parser keeps the layer. -/
def level : Layer → Nat
  | .conditional => condLevel
  | .disjunction => orLevel
  | .conjunction => 2
  | .negation => notLevel
  | .comparison => 4
  | .bitOr => 5
  | .bitXor => 6
  | .bitAnd => 7
  | .shift => 8
  | .sum => 9
  | .product => 10
  | .sign => 11
  | .primary => Parse.primaryLevel

variable {layer next : Layer}

/-- The next layer is on a tighter level. -/
theorem level_lt_of_tighter? (h : layer.tighter? = some next) : layer.level < next.level := by
  cases layer <;> cases h <;> decide

/-- The operators of a layer associate on its level. -/
theorem level_of_mem_operators {op : BinaryOp} (h : op ∈ layer.operators) :
    op.level = layer.level ∧ op ≠ .item := by
  cases layer <;> revert op <;> decide

/-- The operators in front of an operand are of the level of their layer. -/
theorem level_of_mem_signs {op : UnaryOp} (h : op ∈ layer.signs) : op.level = layer.level := by
  cases layer <;> revert op <;> decide

end Layer

/-! ### Phrases with their places -/

/-- **The grammar over the tokens of a text**: they are a phrase of the layer, and this is its tree. -/
inductive Spells : Layer → List Lexeme → Expr → Prop where
  /-- A phrase of the next layer. -/
  | tighter {layer next : Layer} {ls : List Lexeme} {e : Expr} (h : layer.tighter? = some next)
      (part : Spells next ls e) : Spells layer ls e
  /-- `yes if test else no` -/
  | cond {ls ls' ls'' : List Lexeme} {yes test no : Expr} (a b c d : Nat)
      (part : Spells .disjunction ls yes) (part' : Spells .disjunction ls' test)
      (part'' : Spells .conditional ls'' no) :
      Spells .conditional
        (ls ++ ⟨.keyword .ifWord, a, b⟩ :: (ls' ++ ⟨.keyword .elseWord, c, d⟩ :: ls''))
        (.mkCond yes test no)
  /-- `left op right` -/
  | binary {layer next : Layer} {op : BinaryOp} {ls word ls' : List Lexeme} {left right : Expr}
      (hop : op ∈ layer.operators) (h : layer.tighter? = some next)
      (hword : word.map Lexeme.token = op.tokens) (part : Spells layer ls left)
      (part' : Spells next ls' right) :
      Spells layer (ls ++ (word ++ ls')) (.mkBinary op left right)
  /-- `op obj` -/
  | unary {layer : Layer} {op : UnaryOp} {ls : List Lexeme} {obj : Expr} (a b : Nat)
      (hop : op ∈ layer.signs) (part : Spells layer ls obj) :
      Spells layer (⟨op.token, a, b⟩ :: ls) (.mkUnary op a obj)
  /-- `obj.name` -/
  | attr {ls : List Lexeme} {obj : Expr} (name : String) (a b c d : Nat) (part : Spells .primary ls obj) :
      Spells .primary (ls ++ [⟨.symbol .dot, a, b⟩, ⟨.ident name, c, d⟩]) (.mkAttr obj name d)
  /-- `callee(args)`, each argument behind what tells how it is passed -/
  | call {ls us : List Lexeme} {callee : Expr} {args : List ((List Lexeme × ArgKind) × List Lexeme × Expr)}
      (a b c d : Nat) (part : Spells .primary ls callee)
      (hwords : ∀ x ∈ args, x.1.1.map Lexeme.token = x.1.2.tokens)
      (parts : ∀ x ∈ args, Spells .conditional x.2.1 x.2.2)
      (h : Separated (fun l => l.token = .symbol .comma) (args.map fun x => x.1.1 ++ x.2.1) us) :
      Spells .primary (ls ++ ⟨.symbol .lparen, a, b⟩ :: (us ++ [⟨.symbol .rparen, c, d⟩]))
        (.mkCall callee (args.map fun x => (x.1.2, x.2.2)) d)
  /-- `obj[index]` -/
  | item {ls us : List Lexeme} {obj index : Expr} (a b c d : Nat) (part : Spells .primary ls obj)
      (part' : Spells .conditional us index) :
      Spells .primary (ls ++ ⟨.symbol .lbracket, a, b⟩ :: (us ++ [⟨.symbol .rbracket, c, d⟩]))
        (.mkItem obj index d)
  /-- `obj[low:high]`, where each bound may be left out -/
  | slice {ls : List Lexeme} {obj : Expr} {low high : Option (List Lexeme × Expr)} (a b c d a' b' : Nat)
      (part : Spells .primary ls obj) (parts : ∀ x ∈ low, Spells .conditional x.1 x.2)
      (parts' : ∀ x ∈ high, Spells .conditional x.1 x.2) :
      Spells .primary
        (ls ++ ⟨.symbol .lbracket, a, b⟩ :: ((low.elim [] Prod.fst ++ [⟨.symbol .colon, c, d⟩]) ++
          (high.elim [] Prod.fst ++ [⟨.symbol .rbracket, a', b'⟩])))
        (.mkSlice obj (low.elim .absent Prod.snd) (high.elim .absent Prod.snd) b')
  | literal {l : Lexeme} {value : Literal} (h : l.token.literal? = some value) :
      Spells .primary [l] (.const (.bare l.start l.stop) value)
  | name (name : String) (a b : Nat) : Spells .primary [⟨.ident name, a, b⟩] (.name (.bare a b) name)
  /-- `(e)`, where the parentheses widen the place of the tree -/
  | paren {ls : List Lexeme} {e : Expr} (a b c d : Nat) (part : Spells .conditional ls e) :
      Spells .primary (⟨.symbol .lparen, a, b⟩ :: (ls ++ [⟨.symbol .rparen, c, d⟩]))
        (e.parenthesized a d)
  /-- `[a, b]` -/
  | list {us : List Lexeme} {items : List (List Lexeme × Expr)} (a b c d : Nat)
      (parts : ∀ p ∈ items, Spells .conditional p.1 p.2)
      (h : Separated (fun l => l.token = .symbol .comma) (items.map Prod.fst) us) :
      Spells .primary (⟨.symbol .lbracket, a, b⟩ :: (us ++ [⟨.symbol .rbracket, c, d⟩]))
        (.list (.bare a d) (items.map Prod.snd))
  /-- The empty set, with a slash in its braces -/
  | emptySet (a b c d a' b' : Nat) :
      Spells .primary [⟨.symbol .lbrace, a, b⟩, ⟨.symbol .slash, c, d⟩, ⟨.symbol .rbrace, a', b'⟩]
        (.set (.bare a b') [])
  /-- Any other set -/
  | set {us : List Lexeme} {items : List (List Lexeme × Expr)} (a b c d : Nat) (hne : items ≠ [])
      (parts : ∀ p ∈ items, Spells .conditional p.1 p.2)
      (h : Separated (fun l => l.token = .symbol .comma) (items.map Prod.fst) us) :
      Spells .primary (⟨.symbol .lbrace, a, b⟩ :: (us ++ [⟨.symbol .rbrace, c, d⟩]))
        (.set (.bare a d) (items.map Prod.snd))

/-! ### Every phrase is spelled by its tokens -/

/-- Separated parts of a list come from separated parts of what the list is made from. -/
theorem Separated.exists_of_map {α β : Type} {f : α → β} {isMark : β → Prop}
    {parts : List (List β)} {xs : List α} (h : Separated isMark parts (xs.map f)) :
    ∃ parts', parts'.map (List.map f) = parts ∧ Separated (fun x => isMark (f x)) parts' xs := by
  generalize hys : xs.map f = ys at h
  induction h generalizing xs with
  | nil =>
    obtain rfl := List.map_eq_nil_iff.mp hys
    exact ⟨[], rfl, .nil⟩
  | last part => exact ⟨[xs], by rw [← hys]; rfl, .last xs⟩
  | trailing part hmark =>
    obtain ⟨front, back, rfl, rfl, hback⟩ := List.map_eq_append_iff.mp hys
    obtain ⟨mark, rfl, rfl⟩ := List.map_eq_singleton_iff.mp hback
    exact ⟨[front], rfl, .trailing front hmark⟩
  | cons part hmark hne more ih =>
    -- cut at the first mark, and the rest by induction
    obtain ⟨front, back, rfl, rfl, hback⟩ := List.map_eq_append_iff.mp hys
    obtain ⟨mark, rest, rfl, rfl, hrest⟩ := List.map_eq_cons_iff.mp hback
    obtain ⟨parts', rfl, hparts'⟩ := ih hrest
    exact ⟨front :: parts', rfl, .cons front hmark (by rintro rfl; exact hne rfl) hparts'⟩

/-- One part after the other can be read, so all of them can. -/
theorem exists_parts {α γ δ : Type} {R : List Lexeme → α → Prop} {view : α → δ}
    {tokens : γ → List Token} {tree : γ → δ} {xs : List γ}
    (h : ∀ x ∈ xs, ∀ ls : List Lexeme, ls.map Lexeme.token = tokens x →
      ∃ y, view y = tree x ∧ R ls y)
    {lss : List (List Lexeme)} (hlss : lss.map (List.map Lexeme.token) = xs.map tokens) :
    ∃ parts : List (List Lexeme × α), parts.map Prod.fst = lss ∧ (∀ p ∈ parts, R p.1 p.2) ∧
      (parts.map fun p => view p.2) = xs.map tree := by
  induction xs generalizing lss with
  | nil =>
    obtain rfl := List.map_eq_nil_iff.mp hlss
    exact ⟨[], rfl, List.forall_mem_nil _, rfl⟩
  | cons x xs ih =>
    obtain ⟨ls, lss, rfl, hls, hrest⟩ := List.map_eq_cons_iff.mp hlss
    obtain ⟨y, hview, hy⟩ := h x List.mem_cons_self ls hls
    obtain ⟨parts, rfl, hparts, hviews⟩ :=
      ih (fun x' hx' => h x' (List.mem_cons_of_mem x hx')) hrest
    refine ⟨(ls, y) :: parts, rfl, List.forall_mem_cons.mpr ⟨hy, hparts⟩, ?_⟩
    rw [List.map_cons, List.map_cons, hview, hviews]

/-- Wherever the tokens stand in a text, they spell the tree. -/
def Spelled (layer : Layer) (ts : List Token) (t : Expr) : Prop :=
  ∀ ls : List Lexeme, ls.map Lexeme.token = ts → ∃ e : Expr, e.unplaced = t ∧ Spells layer ls e

section Spelled

variable {layer next : Layer} {ts us ts' ts'' : List Token} {t t' t'' : Expr}

/-! #### Operators -/

/-- What a tighter layer spells, a looser one does. -/
theorem Spelled.tighter (h : layer.tighter? = some next) (h' : Spelled next ts t) :
    Spelled layer ts t := by
  intro ls hls
  obtain ⟨e, he, hspells⟩ := h' ls hls
  exact ⟨e, he, .tighter h hspells⟩

/-- The tokens are cut at `if` and `else`. -/
theorem Spelled.cond (h : Spelled .disjunction ts t) (h' : Spelled .disjunction ts' t')
    (h'' : Spelled .conditional ts'' t'') :
    Spelled .conditional (ts ++ .keyword .ifWord :: (ts' ++ .keyword .elseWord :: ts''))
      (.cond .nowhere t t' t'') := by
  intro ls hls
  obtain ⟨front, rest, rfl, hfront, hrest⟩ := List.map_eq_append_iff.mp hls
  obtain ⟨a, b, rest', rfl, hrest'⟩ := exists_eq_cons_of_tokens hrest
  obtain ⟨middle, rest'', rfl, hmiddle, hrest''⟩ := List.map_eq_append_iff.mp hrest'
  obtain ⟨c, d, back, rfl, hback⟩ := exists_eq_cons_of_tokens hrest''
  obtain ⟨yes, rfl, hyes⟩ := h front hfront
  obtain ⟨test, rfl, htest⟩ := h' middle hmiddle
  obtain ⟨no, rfl, hno⟩ := h'' back hback
  exact ⟨_, rfl, .cond a b c d hyes htest hno⟩

/-- The tokens are cut before and behind the operator. -/
theorem Spelled.binary {op : BinaryOp} (hop : op ∈ layer.operators) (htighter : layer.tighter? = some next)
    (h : Spelled layer ts t) (h' : Spelled next ts' t') :
    Spelled layer (ts ++ (op.tokens ++ ts')) (.binary .nowhere op t t') := by
  intro ls hls
  obtain ⟨front, rest, rfl, hfront, hrest⟩ := List.map_eq_append_iff.mp hls
  obtain ⟨word, back, rfl, hword, hback⟩ := List.map_eq_append_iff.mp hrest
  obtain ⟨left, rfl, hleft⟩ := h front hfront
  obtain ⟨right, rfl, hright⟩ := h' back hback
  exact ⟨_, rfl, .binary hop htighter hword hleft hright⟩

theorem Spelled.unary {op : UnaryOp} (hop : op ∈ layer.signs) (h : Spelled layer ts t) :
    Spelled layer (op.token :: ts) (.unary .nowhere op t) := by
  intro ls hls
  obtain ⟨a, b, rest, rfl, hrest⟩ := exists_eq_cons_of_tokens hls
  obtain ⟨obj, rfl, hobj⟩ := h rest hrest
  exact ⟨_, rfl, .unary a b hop hobj⟩

/-! #### Atoms -/

theorem spelled_literal {token : Token} {value : Literal} (h : token.literal? = some value) :
    Spelled .primary [token] (.const .nowhere value) := by
  intro ls hls
  obtain ⟨l, rfl, rfl⟩ := List.map_eq_singleton_iff.mp hls
  exact ⟨_, rfl, .literal h⟩

theorem spelled_name (name : String) : Spelled .primary [.ident name] (.name .nowhere name) := by
  intro ls hls
  obtain ⟨a, b, rfl⟩ := exists_eq_singleton_of_tokens hls
  exact ⟨_, rfl, .name name a b⟩

theorem spelled_emptySet :
    Spelled .primary [.symbol .lbrace, .symbol .slash, .symbol .rbrace] (.set .nowhere []) := by
  intro ls hls
  obtain ⟨a, b, rest, rfl, hrest⟩ := exists_eq_cons_of_tokens hls
  obtain ⟨c, d, last, rfl, hlast⟩ := exists_eq_cons_of_tokens hrest
  obtain ⟨a', b', rfl⟩ := exists_eq_singleton_of_tokens hlast
  exact ⟨_, rfl, .emptySet a b c d a' b'⟩

/-- The tokens are those between the parentheses. -/
theorem Spelled.paren (h : Spelled .conditional ts t) :
    Spelled .primary (.symbol .lparen :: (ts ++ [.symbol .rparen])) t := by
  intro ls hls
  obtain ⟨a, b, inside, c, d, rfl, hinside⟩ := exists_eq_between_of_tokens hls
  obtain ⟨e, rfl, hspells⟩ := h inside hinside
  exact ⟨_, e.unplaced_parenthesized a d, .paren a b c d hspells⟩

section Items

variable {items : List (List Token × Expr)} (hitems : ∀ p ∈ items, Spelled .conditional p.1 p.2)
  (hsep : Commas (items.map Prod.fst) us)

include hitems hsep

/-- Items between commas are spelled one by one. -/
theorem exists_items {ls : List Lexeme} (hls : ls.map Lexeme.token = us) :
    ∃ parts : List (List Lexeme × Expr),
      Separated (fun l => l.token = .symbol .comma) (parts.map Prod.fst) ls ∧
      (∀ p ∈ parts, Spells .conditional p.1 p.2) ∧
      Expr.unplacedAll (parts.map Prod.snd) = items.map Prod.snd := by
  rw [← hls] at hsep
  -- the commas among the tokens tell where the text is to be cut
  obtain ⟨lss, hlss, hsep⟩ := hsep.exists_of_map
  obtain ⟨parts, rfl, hparts, htrees⟩ := exists_parts hitems hlss
  refine ⟨parts, hsep, hparts, ?_⟩
  rw [Expr.unplacedAll_eq, List.map_map, ← htrees]
  rfl

/-- The items between brackets make a list. -/
theorem spelled_list :
    Spelled .primary (.symbol .lbracket :: (us ++ [.symbol .rbracket]))
      (.list .nowhere (items.map Prod.snd)) := by
  intro ls hls
  obtain ⟨a, b, inside, c, d, rfl, hinside⟩ := exists_eq_between_of_tokens hls
  obtain ⟨parts, hparted, hparts, htrees⟩ := exists_items hitems hsep hinside
  rw [← htrees]
  exact ⟨_, rfl, .list a b c d hparts hparted⟩

/-- The items between braces make a set. -/
theorem spelled_set (hne : items ≠ []) :
    Spelled .primary (.symbol .lbrace :: (us ++ [.symbol .rbrace]))
      (.set .nowhere (items.map Prod.snd)) := by
  intro ls hls
  obtain ⟨a, b, inside, c, d, rfl, hinside⟩ := exists_eq_between_of_tokens hls
  obtain ⟨parts, hparted, hparts, htrees⟩ := exists_items hitems hsep hinside
  -- braces with nothing between them are no set
  have hne' : parts ≠ [] := by
    rintro rfl
    exact hne (List.map_eq_nil_iff.mp htrees.symm)
  rw [← htrees]
  exact ⟨_, rfl, .set a b c d hne' hparts hparted⟩

end Items

/-! #### Forms behind a primary -/

section Primary

variable (h : Spelled .primary ts t)

include h

theorem Spelled.attr (name : String) :
    Spelled .primary (ts ++ [.symbol .dot, .ident name]) (.attr .nowhere t name) := by
  intro ls hls
  obtain ⟨front, rest, rfl, hfront, hrest⟩ := List.map_eq_append_iff.mp hls
  obtain ⟨a, b, last, rfl, hlast⟩ := exists_eq_cons_of_tokens hrest
  obtain ⟨c, d, rfl⟩ := exists_eq_singleton_of_tokens hlast
  obtain ⟨obj, rfl, hobj⟩ := h front hfront
  exact ⟨_, rfl, .attr name a b c d hobj⟩

/-- An index between brackets, behind the object. -/
theorem Spelled.item (h' : Spelled .conditional us t') :
    Spelled .primary (ts ++ .symbol .lbracket :: (us ++ [.symbol .rbracket]))
      (.item .nowhere t t') := by
  intro ls hls
  obtain ⟨front, rest, rfl, hfront, hrest⟩ := List.map_eq_append_iff.mp hls
  obtain ⟨a, b, inside, c, d, rfl, hinside⟩ := exists_eq_between_of_tokens hrest
  obtain ⟨obj, rfl, hobj⟩ := h front hfront
  obtain ⟨index, rfl, hindex⟩ := h' inside hinside
  exact ⟨_, rfl, .item a b c d hobj hindex⟩

omit h in
/-- An argument stands behind what tells how it is passed. -/
theorem Spelled.exists_arg {kind : ArgKind} (harg : Spelled .conditional ts t) {ls : List Lexeme}
    (hls : ls.map Lexeme.token = kind.tokens ++ ts) :
    ∃ arg : (List Lexeme × ArgKind) × List Lexeme × Expr, (arg.1.2, arg.2.2.unplaced) = (kind, t) ∧
      arg.1.1 ++ arg.2.1 = ls ∧ arg.1.1.map Lexeme.token = arg.1.2.tokens ∧
      Spells .conditional arg.2.1 arg.2.2 := by
  obtain ⟨word, back, rfl, hword, hback⟩ := List.map_eq_append_iff.mp hls
  obtain ⟨e, rfl, hspells⟩ := harg back hback
  exact ⟨((word, kind), back, e), rfl, rfl, hword, hspells⟩

/-- Arguments between parentheses, behind the callee. -/
theorem Spelled.call {args : List (ArgKind × List Token × Expr)}
    (hargs : ∀ a ∈ args, Spelled .conditional a.2.1 a.2.2)
    (hsep : Commas (args.map fun a => a.1.tokens ++ a.2.1) us) :
    Spelled .primary (ts ++ .symbol .lparen :: (us ++ [.symbol .rparen]))
      (.call .nowhere t (args.map fun a => a.1) (args.map fun a => a.2.2)) := by
  intro ls hls
  obtain ⟨front, rest, rfl, hfront, hrest⟩ := List.map_eq_append_iff.mp hls
  obtain ⟨a, b, inside, c, d, rfl, hinside⟩ := exists_eq_between_of_tokens hrest
  obtain ⟨callee, rfl, hcallee⟩ := h front hfront
  rw [← hinside] at hsep
  obtain ⟨lss, hlss, hsep⟩ := hsep.exists_of_map
  obtain ⟨parts, rfl, hparts, hviews⟩ :=
    exists_parts (fun x hx ls hls => (hargs x hx).exists_arg hls) hlss
  -- each part of the text is what tells the kind and the argument itself
  have hlss' : (parts.map Prod.snd).map (fun x => x.1.1 ++ x.2.1) = parts.map Prod.fst := by
    rw [List.map_map]
    exact List.map_congr_left fun p hp => (hparts p hp).1
  rw [← hlss'] at hsep
  refine ⟨_, ?_, .call a b c d hcallee ?_ ?_ hsep⟩
  · -- the tree keeps the kinds and the arguments apart
    have hkinds := congrArg (List.map Prod.fst) hviews
    have htrees := congrArg (List.map Prod.snd) hviews
    simp only [List.map_map, Function.comp_def] at hkinds htrees
    rw [Expr.unplaced_mkCall]
    simp only [List.map_map, Function.comp_def, hkinds, htrees]
  · exact List.forall_mem_map.mpr fun p hp => (hparts p hp).2.1
  · exact List.forall_mem_map.mpr fun p hp => (hparts p hp).2.2

omit h in
/-- A bound of a slice, spelled if it is there. -/
theorem exists_bound {bound : Option (List Token × Expr)}
    (hbound : ∀ b ∈ bound, Spelled .conditional b.1 b.2) {ls : List Lexeme}
    (hls : ls.map Lexeme.token = bound.elim [] Prod.fst) :
    ∃ o : Option (List Lexeme × Expr), o.elim [] Prod.fst = ls ∧
      (o.elim .absent Prod.snd).unplaced = bound.elim .absent Prod.snd ∧
      ∀ x ∈ o, Spells .conditional x.1 x.2 := by
  cases bound with
  | none =>
    obtain rfl := List.map_eq_nil_iff.mp hls
    exact ⟨none, rfl, rfl, nofun⟩
  | some b =>
    obtain ⟨e, he, hspells⟩ := hbound b rfl ls hls
    refine ⟨some (ls, e), rfl, he, ?_⟩
    rintro x ⟨⟩
    exact hspells

/-- Two bounds with a colon between them, in brackets behind the object. -/
theorem Spelled.slice {low high : Option (List Token × Expr)}
    (hlow : ∀ b ∈ low, Spelled .conditional b.1 b.2)
    (hhigh : ∀ b ∈ high, Spelled .conditional b.1 b.2) :
    Spelled .primary
      (ts ++ .symbol .lbracket :: ((low.elim [] Prod.fst ++ [.symbol .colon]) ++
        (high.elim [] Prod.fst ++ [.symbol .rbracket])))
      (.slice .nowhere t (low.elim .absent Prod.snd) (high.elim .absent Prod.snd)) := by
  -- the tokens are told apart from the left: the operand, the bracket, and a bound before and behind the colon
  intro ls hls
  obtain ⟨front, rest, rfl, hfront, hrest⟩ := List.map_eq_append_iff.mp hls
  obtain ⟨a, b, bounds, rfl, hbounds⟩ := exists_eq_cons_of_tokens hrest
  obtain ⟨first, second, rfl, hfirst, hsecond⟩ := List.map_eq_append_iff.mp hbounds
  obtain ⟨lower, colon, rfl, hlower, hcolon⟩ := List.map_eq_append_iff.mp hfirst
  obtain ⟨upper, closer, rfl, hupper, hcloser⟩ := List.map_eq_append_iff.mp hsecond
  obtain ⟨c, d, rfl⟩ := exists_eq_singleton_of_tokens hcolon
  obtain ⟨a', b', rfl⟩ := exists_eq_singleton_of_tokens hcloser
  obtain ⟨obj, rfl, hobj⟩ := h front hfront
  obtain ⟨lowest, rfl, hlowest, hlowSpells⟩ := exists_bound hlow hlower
  obtain ⟨highest, rfl, hhighest, hhighSpells⟩ := exists_bound hhigh hupper
  rw [← hlowest, ← hhighest]
  exact ⟨_, rfl, .slice a b c d a' b' hobj hlowSpells hhighSpells⟩

end Primary

end Spelled

/-- **Every phrase is spelled by its tokens**, with the tree of the phrase. -/
theorem Derives.spelled {layer : Layer} {ts : List Token} {t : Expr} (h : Derives layer ts t) :
    Spelled layer ts t := by
  induction h with
  | tighter h part ih => exact ih.tighter h
  | cond part part' part'' ih ih' ih'' => exact ih.cond ih' ih''
  | binary hop h part part' ih ih' => exact ih.binary hop h ih'
  | unary hop part ih => exact ih.unary hop
  | attr name part ih => exact ih.attr name
  | call part parts hsep ih ihs => exact ih.call ihs hsep
  | item part part' ih ih' => exact ih.item ih'
  | slice part parts parts' ih ihs ihs' => exact ih.slice ihs ihs'
  | literal h => exact spelled_literal h
  | name name => exact spelled_name name
  | paren part ih => exact ih.paren
  | list parts hsep ihs => exact spelled_list ihs hsep
  | emptySet => exact spelled_emptySet
  | set hne parts hsep ihs => exact spelled_set ihs hsep hne

/-! ### The parser reads what is spelled -/

open Parse in
/-- **What is spelled on a layer is an operand of its level.** -/
theorem Spells.operand {layer : Layer} {ls : List Lexeme} {e : Expr} (h : Spells layer ls e) :
    Operand layer.level ls e := by
  -- a bound that is there is an operand; one that is not is allowed as it is
  have hbound : ∀ {o : Option (List Lexeme × Expr)},
      (∀ x ∈ o, Operand Layer.conditional.level x.1 x.2) →
      IsBound (o.elim [] Prod.fst) (o.elim .absent Prod.snd) := by
    intro o ho
    cases o with
    | none => exact .inl ⟨rfl, rfl⟩
    | some x => exact .inr ⟨_, ho x rfl⟩
  induction h with
  | tighter h part ih => exact ih.mono (Nat.le_of_lt (Layer.level_lt_of_tighter? h))
  | cond a b c d part part' part'' ih ih' ih'' => exact operand_cond ih ih' ih'' a b c d
  | binary hop h hword part part' ih ih' =>
    -- the next layer is above the level of the operator, as its right operand has to be
    obtain ⟨hlevel, hitem⟩ := Layer.level_of_mem_operators hop
    have hlt := Layer.level_lt_of_tighter? h
    rw [← hlevel] at ih hlt ⊢
    exact operand_binary hitem hword ih (ih'.mono hlt)
  | unary a b hop part ih =>
    rw [← Layer.level_of_mem_signs hop] at ih ⊢
    exact operand_unary ih a b
  | attr name a b c d part ih => exact operand_attr ih name a b c d
  | @call ls us callee args a b c d part hwords parts hsep ih ihs =>
    -- the parser takes an argument together with what tells its kind
    have htakes : ∀ p ∈ args.map fun x => (x.1.1 ++ x.2.1, x.1.2, x.2.2),
        (callSeries callee).Takes p.1 p.2 :=
      List.forall_mem_map.mpr fun x hx => (ihs x hx).takes_call (hwords x hx) callee
    have hoperand := operand_call ih htakes (by rwa [List.map_map]) a b c d
    rwa [List.map_map] at hoperand
  | item a b c d part part' ih ih' => exact operand_item ih ih' a b c d
  | slice a b c d a' b' part parts parts' ih ihs ihs' =>
    exact operand_slice ih (hbound ihs) (hbound ihs') a b c d a' b'
  | literal h => exact operand_literal h
  | name name a b => exact operand_name name a b
  | paren a b c d part ih => exact operand_paren ih a b c d
  | list a b c d parts hsep ihs => exact operand_list (fun p hp => ⟨_, ihs p hp⟩) hsep a b c d
  | emptySet a b c d a' b' => exact operand_emptySet a b c d a' b'
  | set a b c d hne parts hsep ihs => exact operand_set (fun p hp => ⟨_, ihs p hp⟩) hsep hne a b c d

end QueryExpr
