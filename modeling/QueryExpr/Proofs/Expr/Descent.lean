import QueryExpr.Proofs.Expr.Grammar

/-!
# Recursive descent

The grammar as a program of its own: a parser for each form of phrase, made from smaller ones by ordered choice,
sequence and repetition. Each parser reads what it can off the front of the tokens and leaves the rest;
a choice takes the first alternative that does not fail and never comes back to the others. A layer with
operators between its operands is one operand of the next layer and then a loop, so the operators associate
to the left.

All parsers are given the parser of expressions, for what stands inside brackets; `expr` ties the knot, and
ends because what stands inside has fewer tokens.

This module has the parsers, and one half of the comparison with the parser that keeps a stack
(`Expr.ofTokens`): whatever a parser reads is an operand of its level (`yields_phrase`,
`operand_of_parse`). There is one lemma for each combinator and one for each form of phrase.
-/

namespace QueryExpr.Descent

/-! ### Parsers -/

/-- A parser reads something off the front of the tokens and leaves the rest, or it fails. -/
abbrev Parser (α : Type) := List Lexeme → Option (α × List Lexeme)

section Combinators

variable {α β : Type}

/-- A given token. -/
def just (token : Token) : Parser Lexeme
  | [] => none
  | l :: ls => if l.token = token then some (l, ls) else none

/-- A name, with its token. -/
def ident : Parser (String × Lexeme)
  | [] => none
  | l :: ls =>
    match l.token with
    | .ident n => some ((n, l), ls)
    | _ => none

/-- The first of several that does not fail. -/
def choice (ps : List (Parser α)) : Parser α := fun ls => ps.findSome? fun p => p ls

/-- What may be missing. -/
def optional (p : Parser α) (ls : List Lexeme) : Option α × List Lexeme :=
  match p ls with
  | some (a, rest) => (some a, rest)
  | none => (none, ls)

/-- Again and again for as long as something is read, put together from the left. -/
def foldl (p : Parser β) (f : α → β → α) (a : α) (ls : List Lexeme) : α × List Lexeme :=
  match p ls with
  | none => (a, ls)
  | some (b, rest) => if rest.length < ls.length then foldl p f (f a b) rest else (a, ls)
termination_by ls.length

/-- Items with commas between them, and perhaps one more comma behind the last. -/
def items (item : Parser α) (ls : List Lexeme) : List α × List Lexeme :=
  match item ls with
  | none => ([], ls)
  | some (x, rest) =>
    match just (.symbol .comma) rest with
    | none => ([x], rest)
    | some (_, rest') =>
      if rest'.length < ls.length then
        let (xs, rest'') := items item rest'
        (x :: xs, rest'')
      else ([x], rest)
termination_by ls.length

end Combinators

/-! ### Atoms

All parsers from here on are given the parser of expressions, for what stands inside brackets. -/

/-- A literal. -/
def literal : Parser Expr
  | [] => none
  | l :: ls => l.token.literal?.map fun value => (.const (.bare l.start l.stop) value, ls)

/-- A name as an operand. -/
def name : Parser Expr := fun ls => do
  let ((n, l), ls) ← ident ls
  return (.name (.bare l.start l.stop) n, ls)

/-- `[a, b]` -/
def list (expr : Parser Expr) : Parser Expr := fun ls => do
  let (first, ls) ← just (.symbol .lbracket) ls
  let (xs, ls) := items expr ls
  let (last, ls) ← just (.symbol .rbracket) ls
  return (.list (.bare first.start last.stop) xs, ls)

/-- The empty set, with a slash in its braces. -/
def emptySet : Parser Expr := fun ls => do
  let (first, ls) ← just (.symbol .lbrace) ls
  let (_, ls) ← just (.symbol .slash) ls
  let (last, ls) ← just (.symbol .rbrace) ls
  return (.set (.bare first.start last.stop) [], ls)

/-- A set that is not empty. -/
def set (expr : Parser Expr) : Parser Expr := fun ls => do
  let (first, ls) ← just (.symbol .lbrace) ls
  let (xs, ls) := items expr ls
  guard (xs ≠ [])
  let (last, ls) ← just (.symbol .rbrace) ls
  return (.set (.bare first.start last.stop) xs, ls)

/-- `(e)` -/
def parenthesized (expr : Parser Expr) : Parser Expr := fun ls => do
  let (first, ls) ← just (.symbol .lparen) ls
  let (e, ls) ← expr ls
  let (last, ls) ← just (.symbol .rparen) ls
  return (e.parenthesized first.start last.stop, ls)

/-- An operand without operators. -/
def atom (expr : Parser Expr) : Parser Expr :=
  choice [literal, name, list expr, emptySet, set expr, parenthesized expr]

/-! ### Attributes, calls and subscripts -/

/-- An argument behind a token that tells how it is passed. -/
def marked (mark : Token) (kind : ArgKind) (expr : Parser Expr) : Parser (ArgKind × Expr) := fun ls => do
  let (_, ls) ← just mark ls
  let (e, ls) ← expr ls
  return ((kind, e), ls)

/-- An argument that is passed by its name. -/
def named (expr : Parser Expr) : Parser (ArgKind × Expr) := fun ls => do
  let ((n, _), ls) ← ident ls
  marked (.symbol .assign) (.keyword n) expr ls

/-- An argument that is passed by its position. -/
def positional (expr : Parser Expr) : Parser (ArgKind × Expr) := fun ls => do
  let (e, ls) ← expr ls
  return ((.positional, e), ls)

/-- An argument of a call. -/
def arg (expr : Parser Expr) : Parser (ArgKind × Expr) :=
  choice [marked (.symbol .starStar) .starStar expr, marked (.symbol .star) .star expr, named expr,
    positional expr]

/-- `.name`, as what it makes of the operand before it. -/
def attr : Parser (Expr → Expr) := fun ls => do
  let (_, ls) ← just (.symbol .dot) ls
  let ((n, last), ls) ← ident ls
  return ((.mkAttr · n last.stop), ls)

/-- `(args)` -/
def call (expr : Parser Expr) : Parser (Expr → Expr) := fun ls => do
  let (_, ls) ← just (.symbol .lparen) ls
  let (args, ls) := items (arg expr) ls
  let (last, ls) ← just (.symbol .rparen) ls
  return ((.mkCall · args last.stop), ls)

/-- The colon of a slice with its upper bound, which may be missing. -/
def upper (expr : Parser Expr) : Parser (Option Expr) := fun ls => do
  let (_, ls) ← just (.symbol .colon) ls
  return optional expr ls

/-- `[index]` or `[low:high]` -/
def subscript (expr : Parser Expr) : Parser (Expr → Expr) := fun ls => do
  let (_, ls) ← just (.symbol .lbracket) ls
  let (low, ls) := optional expr ls
  let (high, ls) := optional (upper expr) ls
  let (last, ls) ← just (.symbol .rbracket) ls
  match low, high with
  | some index, none => return ((.mkItem · index last.stop), ls)
  | low, some high => return ((.mkSlice · (low.getD .absent) (high.getD .absent) last.stop), ls)
  | none, none => none

/-- What may stand behind an operand. -/
def suffix (expr : Parser Expr) : Parser (Expr → Expr) := choice [attr, call expr, subscript expr]

/-- An atom with all that stands behind it. -/
def primary (expr : Parser Expr) : Parser Expr := fun ls => do
  let (e, ls) ← atom expr ls
  return foldl (suffix expr) (fun obj apply => apply obj) e ls

/-! ### Operators -/

/-- Given tokens, one after the other. -/
def word : List Token → Parser Unit
  | [], ls => some ((), ls)
  | token :: tokens, ls => do
    let (_, ls) ← just token ls
    word tokens ls

/-- An operator by its tokens. -/
def spelled (op : BinaryOp) : Parser BinaryOp := fun ls => do
  let (_, ls) ← word op.tokens ls
  return (op, ls)

/-- The first of several operators whose tokens are there. -/
def operator (ops : List BinaryOp) : Parser BinaryOp := choice (ops.map spelled)

/-- An operator with its right operand. -/
def applied (ops : List BinaryOp) (operand : Parser Expr) : Parser (BinaryOp × Expr) := fun ls => do
  let (op, ls) ← operator ops ls
  let (e, ls) ← operand ls
  return ((op, e), ls)

/-- Operands with operators between them, put together from the left. -/
def chain (ops : List BinaryOp) (operand : Parser Expr) : Parser Expr := fun ls => do
  let (e, ls) ← operand ls
  return foldl (applied ops operand) (fun left r => .mkBinary r.1 left r.2) e ls

/-- An operand with operators in front of it, put together from the right. -/
def signed (ops : List UnaryOp) (operand : Parser Expr) : Parser Expr
  | [] => operand []
  | l :: ls =>
    match ops.find? fun op => op.token = l.token with
    | some op => (signed ops operand ls).map fun r => (.mkUnary op l.start r.1, r.2)
    | none => operand (l :: ls)

/-- Signs. -/
def sign (expr : Parser Expr) : Parser Expr := signed [.neg, .bitNot] (primary expr)

def product (expr : Parser Expr) : Parser Expr :=
  chain [.mul, .trueDiv, .floorDiv, .mod] (sign expr)

def sum (expr : Parser Expr) : Parser Expr := chain [.add, .sub] (product expr)

def shift (expr : Parser Expr) : Parser Expr := chain [.shiftLeft, .shiftRight] (sum expr)

def bitAnd (expr : Parser Expr) : Parser Expr := chain [.bitAnd] (shift expr)

def bitXor (expr : Parser Expr) : Parser Expr := chain [.bitXor] (bitAnd expr)

def bitOr (expr : Parser Expr) : Parser Expr := chain [.bitOr] (bitXor expr)

/-- Comparisons. The operators of two words come first, since one of them begins with another operator. -/
def comparison (expr : Parser Expr) : Parser Expr :=
  chain [.notContains, .isNot, .eq, .ne, .lt, .le, .gt, .ge, .contains, .is] (bitOr expr)

def negation (expr : Parser Expr) : Parser Expr := signed [.not] (comparison expr)

def conjunction (expr : Parser Expr) : Parser Expr := chain [.and] (negation expr)

def disjunction (expr : Parser Expr) : Parser Expr := chain [.or] (conjunction expr)

/-- `if test else no` -/
def branches (expr : Parser Expr) : Parser (Expr × Expr) := fun ls => do
  let (_, ls) ← just (.keyword .ifWord) ls
  let (test, ls) ← disjunction expr ls
  let (_, ls) ← just (.keyword .elseWord) ls
  let (no, ls) ← expr ls
  return ((test, no), ls)

/-- `yes if test else no`, or the first branch alone. -/
def conditional (expr : Parser Expr) : Parser Expr := fun ls => do
  let (yes, ls) ← disjunction expr ls
  match optional (branches expr) ls with
  | (some (test, no), ls) => return (.mkCond yes test no, ls)
  | (none, ls) => return (yes, ls)

/-! ### Expressions -/

/-- An expression. What stands inside it is read from fewer tokens. -/
def expr (ls : List Lexeme) : Option (Expr × List Lexeme) :=
  conditional (fun inner => if inner.length < ls.length then expr inner else none) ls
termination_by ls.length

/-- The expression that all the tokens are. -/
def parse (ls : List Lexeme) : Option Expr :=
  match expr ls with
  | some (e, []) => some e
  | _ => none

/-! ### What is read is an operand -/

open Parse

section Yields

variable {α β : Type} {p : Parser α} {R : List Lexeme → α → Prop} {token : Token} {l : Lexeme}
  {ls rest : List Lexeme}

/-- What the parser reads is at the front of the tokens, and stands in the relation to them. -/
def Yields (p : Parser α) (R : List Lexeme → α → Prop) : Prop :=
  ∀ ⦃ls a rest⦄, p ls = some (a, rest) → ∃ front, ls = front ++ rest ∧ R front a

/-- What is read in a row is read one after the other. -/
theorem exists_of_bind {x : Option (α × List Lexeme)} {f : α × List Lexeme → Option β} {b : β}
    (h : x >>= f = some b) : ∃ a ls, x = some (a, ls) ∧ f (a, ls) = some b := by
  obtain ⟨⟨a, ls⟩, hx, hf⟩ := Option.bind_eq_some_iff.mp h
  exact ⟨a, ls, hx, hf⟩

/-- A given token was the first one. -/
theorem exists_of_just (h : just token ls = some (l, rest)) :
    ∃ a b, l = ⟨token, a, b⟩ ∧ ls = ⟨token, a, b⟩ :: rest := by
  cases ls with
  | nil => cases h
  | cons l' ls =>
    obtain ⟨_, a, b⟩ := l'
    rw [just] at h
    split at h
    · next htoken =>
      cases h
      cases htoken
      exact ⟨a, b, rfl, rfl⟩
    · cases h

/-- A name was the first token. -/
theorem exists_of_ident {n : String} (h : ident ls = some ((n, l), rest)) :
    ∃ a b, l = ⟨.ident n, a, b⟩ ∧ ls = ⟨.ident n, a, b⟩ :: rest := by
  cases ls with
  | nil => cases h
  | cons l' ls =>
    obtain ⟨_, a, b⟩ := l'
    rw [ident] at h
    split at h
    · next htoken =>
      cases h
      cases htoken
      exact ⟨a, b, rfl, rfl⟩
    · cases h

/-- A choice yields what all its alternatives do. -/
theorem yields_choice {ps : List (Parser α)} (h : ∀ p ∈ ps, Yields p R) : Yields (choice ps) R := by
  intro ls a rest hchoice
  obtain ⟨p, hp, hread⟩ := List.exists_of_findSome?_eq_some hchoice
  exact h p hp hread

/-- What may be missing is read, or nothing is. -/
theorem optional_eq_iff {o : Option α} :
    optional p ls = (o, rest) ↔
      (p ls = none ∧ o = none ∧ ls = rest) ∨ ∃ a, p ls = some (a, rest) ∧ o = some a := by
  rw [optional]
  cases p ls with
  | none => simp [eq_comm]
  | some r => grind

/-- What is put together from the left. -/
theorem exists_of_foldl {p : Parser β} {R : List Lexeme → β → Prop} (hp : Yields p R) {f : α → β → α}
    {S : List Lexeme → α → Prop}
    (hstep : ∀ {front a front' b}, S front a → R front' b → S (front ++ front') (f a b))
    {front : List Lexeme} {a : α} (ha : S front a) (ls : List Lexeme) :
    ∃ front', ls = front' ++ (foldl p f a ls).2 ∧ S (front ++ front') (foldl p f a ls).1 := by
  fun_induction foldl p f a ls generalizing front with
  | case1 a ls hnone => exact ⟨[], rfl, by rwa [List.append_nil]⟩
  | case2 a ls b rest hread hlt ih =>
    -- one more turn takes what it reads to the tokens that are done
    obtain ⟨back, rfl, hb⟩ := hp hread
    obtain ⟨front', heq, hS⟩ := ih (hstep ha hb)
    refine ⟨back ++ front', ?_, ?_⟩
    · rw [List.append_assoc, ← heq]
    · rwa [← List.append_assoc]
  | case3 => exact ⟨[], rfl, by rwa [List.append_nil]⟩

/-- Items are read one by one. -/
theorem exists_of_items (hp : Yields p R) (ls : List Lexeme) :
    ∃ (parts : List (List Lexeme × α)) (front : List Lexeme),
      (items p ls).1 = parts.map Prod.snd ∧ (∀ part ∈ parts, R part.1 part.2) ∧
      ls = front ++ (items p ls).2 ∧
      Separated (fun l => l.token = .symbol .comma) (parts.map Prod.fst) front := by
  fun_induction items p ls with
  | case1 ls hnone => exact ⟨[], [], rfl, List.forall_mem_nil _, rfl, .nil⟩
  | case2 ls x rest hread hcomma =>
    -- no comma, so this item is the last one
    obtain ⟨front, rfl, hx⟩ := hp hread
    exact ⟨[(front, x)], front, rfl, List.forall_mem_singleton.mpr hx, rfl, .last front⟩
  | case3 ls x rest hread mark rest' hcomma hlt xs rest'' hitems ih =>
    obtain ⟨front, rfl, hx⟩ := hp hread
    obtain ⟨a, b, rfl, rfl⟩ := exists_of_just hcomma
    obtain ⟨parts, front', hparts, hall, heq, hsep⟩ := ih
    rw [hitems] at hparts heq
    subst heq hparts
    cases parts with
    | nil =>
      -- the comma was the last one
      cases hsep
      exact ⟨[(front, x)], front ++ [⟨.symbol .comma, a, b⟩], rfl, List.forall_mem_singleton.mpr hx,
        by simp, .trailing front rfl⟩
    | cons part parts =>
      refine ⟨(front, x) :: part :: parts, front ++ ⟨.symbol .comma, a, b⟩ :: front', rfl,
        List.forall_mem_cons.mpr ⟨hx, hall⟩, by simp, .cons front rfl (List.cons_ne_nil _ _) hsep⟩
  | case4 ls x rest hread =>
    obtain ⟨front, rfl, hx⟩ := hp hread
    exact ⟨[(front, x)], front, rfl, List.forall_mem_singleton.mpr hx, rfl, .last front⟩

end Yields

section Operands

variable {level : Nat} {p : Parser Expr} (hp : Yields p (Operand condLevel))

/-- An operand is one of every looser level. -/
theorem yields_mono {q : Parser Expr} {level' : Nat} (hq : Yields q (Operand level))
    (hle : level' ≤ level) : Yields q (Operand level') := by
  intro ls e rest hread
  obtain ⟨front, heq, hoperand⟩ := hq hread
  exact ⟨front, heq, hoperand.mono hle⟩

/-! #### Atoms -/

/-- A literal is an operand by itself. -/
theorem yields_literal : Yields literal (Operand primaryLevel) := by
  intro ls e rest hread
  cases ls with
  | nil => cases hread
  | cons l ls =>
    obtain ⟨value, hvalue, hresult⟩ := Option.map_eq_some_iff.mp hread
    cases hresult
    exact ⟨[l], rfl, operand_literal hvalue⟩

/-- A name is an operand by itself. -/
theorem yields_name : Yields name (Operand primaryLevel) := by
  intro ls e rest hread
  obtain ⟨⟨n, l⟩, ls', hident, hresult⟩ := exists_of_bind hread
  obtain ⟨a, b, rfl, rfl⟩ := exists_of_ident hident
  cases hresult
  exact ⟨[_], rfl, operand_name n a b⟩

/-- Braces with a slash in them are an operand. -/
theorem yields_emptySet : Yields emptySet (Operand primaryLevel) := by
  intro ls e rest hread
  obtain ⟨first, ls₁, hfirst, hread⟩ := exists_of_bind hread
  obtain ⟨slash, ls₂, hslash, hread⟩ := exists_of_bind hread
  obtain ⟨last, ls₃, hlast, hresult⟩ := exists_of_bind hread
  obtain ⟨a, b, rfl, rfl⟩ := exists_of_just hfirst
  obtain ⟨c, d, rfl, rfl⟩ := exists_of_just hslash
  obtain ⟨a', b', rfl, rfl⟩ := exists_of_just hlast
  cases hresult
  exact ⟨[_, _, _], rfl, operand_emptySet a b c d a' b'⟩

include hp

/-- Items that are expressions. -/
theorem exists_of_items_expr (ls : List Lexeme) :
    ∃ (parts : List (List Lexeme × Expr)) (front : List Lexeme),
      (items p ls).1 = parts.map Prod.snd ∧ (∀ part ∈ parts, ∃ level, Operand level part.1 part.2) ∧
      ls = front ++ (items p ls).2 ∧
      Separated (fun l => l.token = .symbol .comma) (parts.map Prod.fst) front := by
  obtain ⟨parts, front, hparts, hall, heq, hsep⟩ := exists_of_items hp ls
  exact ⟨parts, front, hparts, fun part hpart => ⟨_, hall part hpart⟩, heq, hsep⟩

/-- Brackets around items are an operand. -/
theorem yields_list : Yields (list p) (Operand primaryLevel) := by
  intro ls e rest hread
  obtain ⟨first, inside, hfirst, hread⟩ := exists_of_bind hread
  obtain ⟨parts, front, hparts, hall, heq, hsep⟩ := exists_of_items_expr hp inside
  obtain ⟨last, back, hlast, hresult⟩ := exists_of_bind hread
  obtain ⟨a, b, rfl, rfl⟩ := exists_of_just hfirst
  obtain ⟨c, d, rfl, hback⟩ := exists_of_just hlast
  cases hresult
  refine ⟨⟨.symbol .lbracket, a, b⟩ :: (front ++ [⟨.symbol .rbracket, c, d⟩]), ?_, ?_⟩
  · rw [heq, hback]
    simp
  · rw [hparts]
    exact operand_list hall hsep a b c d

/-- Braces around at least one item are an operand. -/
theorem yields_set : Yields (set p) (Operand primaryLevel) := by
  intro ls e rest hread
  obtain ⟨first, inside, hfirst, hread⟩ := exists_of_bind hread
  obtain ⟨parts, front, hparts, hall, heq, hsep⟩ := exists_of_items_expr hp inside
  -- the guard sees to it that there is an item
  obtain ⟨⟨⟩, hguard, hread⟩ := Option.bind_eq_some_iff.mp hread
  obtain ⟨last, back, hlast, hresult⟩ := exists_of_bind hread
  obtain ⟨a, b, rfl, rfl⟩ := exists_of_just hfirst
  obtain ⟨c, d, rfl, hback⟩ := exists_of_just hlast
  cases hresult
  have hne : parts ≠ [] := by
    rintro rfl
    rw [hparts] at hguard
    cases hguard
  refine ⟨⟨.symbol .lbrace, a, b⟩ :: (front ++ [⟨.symbol .rbrace, c, d⟩]), ?_, ?_⟩
  · rw [heq, hback]
    simp
  · rw [hparts]
    exact operand_set hall hsep hne a b c d

/-- Parentheses around an expression are an operand. -/
theorem yields_parenthesized : Yields (parenthesized p) (Operand primaryLevel) := by
  intro ls e rest hread
  obtain ⟨first, inside, hfirst, hread⟩ := exists_of_bind hread
  obtain ⟨e', back, he', hread⟩ := exists_of_bind hread
  obtain ⟨last, ls', hlast, hresult⟩ := exists_of_bind hread
  obtain ⟨a, b, rfl, rfl⟩ := exists_of_just hfirst
  obtain ⟨front, rfl, hoperand⟩ := hp he'
  obtain ⟨c, d, rfl, rfl⟩ := exists_of_just hlast
  cases hresult
  refine ⟨⟨.symbol .lparen, a, b⟩ :: (front ++ [⟨.symbol .rparen, c, d⟩]), by simp, ?_⟩
  exact operand_paren hoperand a b c d

/-- **An atom is an operand of the last level**, whichever alternative was taken. -/
theorem yields_atom : Yields (atom p) (Operand primaryLevel) := by
  refine yields_choice ?_
  simp only [List.forall_mem_cons]
  exact ⟨yields_literal, yields_name, yields_list hp, yields_emptySet, yields_set hp,
    yields_parenthesized hp, List.forall_mem_nil _⟩

/-! #### Attributes, calls and subscripts -/

/-- The tokens are an argument of any call. -/
def IsArgument (ls : List Lexeme) (arg : ArgKind × Expr) : Prop :=
  ∀ callee, (callSeries callee).Takes ls arg

omit hp in
/-- The tokens make an operand of the one before them. -/
def IsSuffix (ls : List Lexeme) (apply : Expr → Expr) : Prop :=
  ∀ ⦃front obj⦄, Operand primaryLevel front obj → Operand primaryLevel (front ++ ls) (apply obj)

/-- An argument behind stars. -/
theorem yields_marked {mark : Token} {kind : ArgKind} (hmark : kind.tokens = [mark]) :
    Yields (marked mark kind p) IsArgument := by
  intro ls x rest hread
  obtain ⟨l, inside, hl, hread⟩ := exists_of_bind hread
  obtain ⟨e, back, he, hresult⟩ := exists_of_bind hread
  obtain ⟨a, b, rfl, rfl⟩ := exists_of_just hl
  obtain ⟨front, rfl, hoperand⟩ := hp he
  cases hresult
  have hword : [(⟨mark, a, b⟩ : Lexeme)].map Lexeme.token = kind.tokens := hmark.symm
  exact ⟨⟨mark, a, b⟩ :: front, rfl, hoperand.takes_call hword⟩

/-- An argument behind a name and the sign `=`. -/
theorem yields_named : Yields (named p) IsArgument := by
  intro ls x rest hread
  obtain ⟨⟨n, l⟩, inside, hl, hread⟩ := exists_of_bind hread
  obtain ⟨assign, inside', hassign, hread⟩ := exists_of_bind hread
  obtain ⟨e, back, he, hresult⟩ := exists_of_bind hread
  obtain ⟨a, b, rfl, rfl⟩ := exists_of_ident hl
  obtain ⟨c, d, rfl, rfl⟩ := exists_of_just hassign
  obtain ⟨front, rfl, hoperand⟩ := hp he
  cases hresult
  have hword : [(⟨.ident n, a, b⟩ : Lexeme), ⟨.symbol .assign, c, d⟩].map Lexeme.token =
      (ArgKind.keyword n).tokens := rfl
  exact ⟨⟨.ident n, a, b⟩ :: ⟨.symbol .assign, c, d⟩ :: front, rfl, hoperand.takes_call hword⟩

/-- An argument by itself. -/
theorem yields_positional : Yields (positional p) IsArgument := by
  intro ls x rest hread
  obtain ⟨e, back, he, hresult⟩ := exists_of_bind hread
  obtain ⟨front, rfl, hoperand⟩ := hp he
  cases hresult
  have hword : ([] : List Lexeme).map Lexeme.token = ArgKind.positional.tokens := rfl
  exact ⟨front, rfl, hoperand.takes_call hword⟩

/-- What is read as an argument is one of any call. -/
theorem yields_arg : Yields (arg p) IsArgument := by
  refine yields_choice ?_
  simp only [List.forall_mem_cons]
  exact ⟨yields_marked hp rfl, yields_marked hp rfl, yields_named hp, yields_positional hp,
    List.forall_mem_nil _⟩

omit hp in
/-- A point and a name make an attribute of the operand before them. -/
theorem yields_attr : Yields attr IsSuffix := by
  intro ls apply rest hread
  obtain ⟨dot, ls', hdot, hread⟩ := exists_of_bind hread
  obtain ⟨⟨n, last⟩, ls'', hlast, hresult⟩ := exists_of_bind hread
  obtain ⟨a, b, rfl, rfl⟩ := exists_of_just hdot
  obtain ⟨c, d, rfl, rfl⟩ := exists_of_ident hlast
  cases hresult
  exact ⟨[_, _], rfl, fun front obj hobj => operand_attr hobj n a b c d⟩

/-- The arguments in parentheses make a call of the operand before them. -/
theorem yields_call : Yields (call p) IsSuffix := by
  intro ls apply rest hread
  obtain ⟨first, inside, hfirst, hread⟩ := exists_of_bind hread
  obtain ⟨parts, front, hparts, hall, heq, hsep⟩ := exists_of_items (yields_arg hp) inside
  obtain ⟨last, back, hlast, hresult⟩ := exists_of_bind hread
  obtain ⟨a, b, rfl, rfl⟩ := exists_of_just hfirst
  obtain ⟨c, d, rfl, hback⟩ := exists_of_just hlast
  cases hresult
  refine ⟨⟨.symbol .lparen, a, b⟩ :: (front ++ [⟨.symbol .rparen, c, d⟩]), ?_, ?_⟩
  · rw [heq, hback]
    simp
  · intro front' obj hobj
    rw [hparts]
    exact operand_call hobj (fun part hpart => hall part hpart obj) hsep a b c d

/-- A bound of a slice that may be missing. -/
theorem exists_of_optional {ls rest : List Lexeme} {o : Option Expr} (h : optional p ls = (o, rest)) :
    ∃ front, ls = front ++ rest ∧ IsBound front (o.getD .absent) := by
  rcases optional_eq_iff.mp h with ⟨-, rfl, rfl⟩ | ⟨e, hread, rfl⟩
  · exact ⟨[], rfl, .inl ⟨rfl, rfl⟩⟩
  · obtain ⟨front, heq, hoperand⟩ := hp hread
    exact ⟨front, heq, .inr ⟨_, hoperand⟩⟩

/-- What stands in brackets makes an item or a slice of the operand before them. -/
theorem yields_subscript : Yields (subscript p) IsSuffix := by
  intro ls apply rest h
  obtain ⟨first, inside, hfirst, hread⟩ := exists_of_bind h
  obtain ⟨a, b, rfl, rfl⟩ := exists_of_just hfirst
  rcases hlow : optional p inside with ⟨low, ls₁⟩
  rcases hhigh : optional (upper p) ls₁ with ⟨high, ls₂⟩
  simp only [hlow, hhigh] at hread
  obtain ⟨last, back, hlast, hresult⟩ := exists_of_bind hread
  obtain ⟨c, d, rfl, rfl⟩ := exists_of_just hlast
  rcases optional_eq_iff.mp hhigh with ⟨-, rfl, rfl⟩ | ⟨high, hupper, rfl⟩
  · -- without a colon it is an item, and then the index is there
    rcases optional_eq_iff.mp hlow with ⟨-, rfl, -⟩ | ⟨index, hindex, rfl⟩
    · cases hresult
    · obtain ⟨front, rfl, hoperand⟩ := hp hindex
      cases hresult
      refine ⟨⟨.symbol .lbracket, a, b⟩ :: (front ++ [⟨.symbol .rbracket, c, d⟩]), by simp, ?_⟩
      exact fun front' obj hobj => operand_item hobj hoperand a b c d
  · -- with a colon it is a slice, whatever bounds are there
    obtain ⟨colon, behind, hcolon, hbehind⟩ := exists_of_bind hupper
    obtain ⟨a', b', rfl, rfl⟩ := exists_of_just hcolon
    obtain ⟨front, rfl, hbound⟩ := exists_of_optional hp hlow
    obtain ⟨front', rfl, hbound'⟩ := exists_of_optional hp (Option.some.inj hbehind)
    have happly : apply = (Expr.mkSlice · (low.getD .absent) (high.getD .absent) d) ∧ rest = back := by
      cases low <;> cases hresult <;> exact ⟨rfl, rfl⟩
    obtain ⟨rfl, rfl⟩ := happly
    refine ⟨⟨.symbol .lbracket, a, b⟩ :: ((front ++ [⟨.symbol .colon, a', b'⟩]) ++
      (front' ++ [⟨.symbol .rbracket, c, d⟩])), by simp, ?_⟩
    exact fun before obj hobj => operand_slice hobj hbound hbound' a b a' b' c d

/-- **An atom and what stands behind it is an operand of the last level.** -/
theorem yields_primary : Yields (primary p) (Operand primaryLevel) := by
  intro ls e rest hread
  obtain ⟨e', ls', hatom, hresult⟩ := exists_of_bind hread
  obtain ⟨front, rfl, hoperand⟩ := yields_atom hp hatom
  -- each suffix makes an operand of all that is before it, so the loop does
  have hsuffix : Yields (suffix p) IsSuffix := by
    refine yields_choice ?_
    simp only [List.forall_mem_cons]
    exact ⟨yields_attr, yields_call hp, yields_subscript hp, List.forall_mem_nil _⟩
  obtain ⟨front', heq, hall⟩ :=
    exists_of_foldl hsuffix (fun hobj happly => happly hobj) hoperand ls'
  rw [Option.some.inj hresult] at heq hall
  refine ⟨front ++ front', ?_, hall⟩
  rw [heq, List.append_assoc]

end Operands

/-! #### Operators -/

section Operators

variable {level : Nat} {operand : Parser Expr}

/-- Given tokens were the first ones. -/
theorem exists_of_word {ts : List Token} {ls rest : List Lexeme} (h : word ts ls = some ((), rest)) :
    ∃ front, ls = front ++ rest ∧ front.map Lexeme.token = ts := by
  induction ts generalizing ls with
  | nil =>
    cases h
    exact ⟨[], rfl, rfl⟩
  | cons t ts ih =>
    obtain ⟨l, ls', hl, hrest⟩ := exists_of_bind h
    obtain ⟨a, b, rfl, rfl⟩ := exists_of_just hl
    obtain ⟨front, rfl, htokens⟩ := ih hrest
    exact ⟨⟨t, a, b⟩ :: front, rfl, by rw [List.map_cons, htokens]⟩

/-- One of the operators was there. -/
theorem yields_operator (ops : List BinaryOp) :
    Yields (operator ops) fun front op => op ∈ ops ∧ front.map Lexeme.token = op.tokens := by
  refine yields_choice ?_
  rw [List.forall_mem_map]
  intro op hop ls op' rest hread
  obtain ⟨⟨⟩, rest', hword, hresult⟩ := exists_of_bind hread
  cases hresult
  obtain ⟨front, heq, htokens⟩ := exists_of_word hword
  exact ⟨front, heq, hop, htokens⟩

/-- One of the operators was there, and an operand behind it. -/
theorem yields_applied (ops : List BinaryOp) (h : Yields operand (Operand level)) :
    Yields (applied ops operand) fun front r => ∃ word back, front = word ++ back ∧ r.1 ∈ ops ∧
      word.map Lexeme.token = r.1.tokens ∧ Operand level back r.2 := by
  intro ls r rest hread
  obtain ⟨op, ls', hop, hread⟩ := exists_of_bind hread
  obtain ⟨e, ls'', he, hresult⟩ := exists_of_bind hread
  obtain ⟨word, rfl, hmem, hword⟩ := yields_operator ops hop
  obtain ⟨back, rfl, hoperand⟩ := h he
  cases hresult
  exact ⟨word ++ back, (List.append_assoc ..).symm, word, back, rfl, hmem, hword, hoperand⟩

/-- **Operands of the next level make one of the level of the operators.** -/
theorem yields_chain {ops : List BinaryOp} (hops : ∀ op ∈ ops, op.level = level ∧ op ≠ .item)
    (h : Yields operand (Operand (level + 1))) : Yields (chain ops operand) (Operand level) := by
  intro ls e rest hread
  obtain ⟨e', ls', hfirst, hresult⟩ := exists_of_bind hread
  obtain ⟨front, rfl, hoperand⟩ := h hfirst
  -- one turn of the loop: what is done so far is the left operand of the next operator
  have hstep : ∀ {front left front'} {r : BinaryOp × Expr}, Operand level front left →
      (∃ word back, front' = word ++ back ∧ r.1 ∈ ops ∧ word.map Lexeme.token = r.1.tokens ∧
        Operand (level + 1) back r.2) →
      Operand level (front ++ front') (.mkBinary r.1 left r.2) := by
    rintro front left _ r hleft ⟨word, back, rfl, hmem, hword, hright⟩
    obtain ⟨rfl, hitem⟩ := hops r.1 hmem
    exact operand_binary hitem hword hleft hright
  obtain ⟨front', heq, hall⟩ :=
    exists_of_foldl (yields_applied ops h) hstep (hoperand.mono (Nat.le_succ level)) ls'
  rw [Option.some.inj hresult] at heq hall
  refine ⟨front ++ front', ?_, hall⟩
  rw [heq, List.append_assoc]

/-- **Operators in front of an operand** make one of their own level, each of what is behind it. -/
theorem yields_signed {ops : List UnaryOp} (hops : ∀ op ∈ ops, op.level = level)
    (h : Yields operand (Operand level)) : Yields (signed ops operand) (Operand level) := by
  intro ls
  induction ls with
  | nil => exact fun e rest hread => h hread
  | cons l ls ih =>
    intro e rest hread
    rw [signed] at hread
    split at hread
    · next op hop =>
      -- the operator that was found is that of the token
      obtain ⟨⟨e', rest'⟩, hobj, hresult⟩ := Option.map_eq_some_iff.mp hread
      cases hresult
      obtain ⟨front, rfl, hoperand⟩ := ih hobj
      have htoken : op.token = l.token := by simpa using List.find?_some hop
      have hlevel := hops op (List.mem_of_find?_eq_some hop)
      obtain ⟨_, a, b⟩ := l
      cases htoken
      rw [← hlevel] at hoperand ⊢
      exact ⟨⟨op.token, a, b⟩ :: front, rfl, operand_unary hoperand a b⟩
    · exact h hread

end Operators

/-! #### Layers -/

/-- The parser of each layer of the grammar. -/
def phrase (expr : Parser Expr) : Layer → Parser Expr
  | .conditional => conditional expr
  | .disjunction => disjunction expr
  | .conjunction => conjunction expr
  | .negation => negation expr
  | .comparison => comparison expr
  | .bitOr => bitOr expr
  | .bitXor => bitXor expr
  | .bitAnd => bitAnd expr
  | .shift => shift expr
  | .sum => sum expr
  | .product => product expr
  | .sign => sign expr
  | .primary => primary expr

section Layers

variable {p : Parser Expr} (hp : Yields p (Operand condLevel))

include hp

/-- The words `if` and `else`, each with the operand behind it. -/
theorem yields_branches (h : Yields (disjunction p) (Operand orLevel)) :
    Yields (branches p) fun front r => ∃ test no a b c d, Operand orLevel test r.1 ∧
      Operand condLevel no r.2 ∧
      front = ⟨.keyword .ifWord, a, b⟩ :: (test ++ ⟨.keyword .elseWord, c, d⟩ :: no) := by
  intro ls r rest hread
  obtain ⟨first, ls₁, hfirst, hread⟩ := exists_of_bind hread
  obtain ⟨test, ls₂, htest, hread⟩ := exists_of_bind hread
  obtain ⟨middle, ls₃, hmiddle, hread⟩ := exists_of_bind hread
  obtain ⟨no, ls₄, hno, hresult⟩ := exists_of_bind hread
  obtain ⟨a, b, rfl, rfl⟩ := exists_of_just hfirst
  obtain ⟨front, rfl, hfront⟩ := h htest
  obtain ⟨c, d, rfl, rfl⟩ := exists_of_just hmiddle
  obtain ⟨back, rfl, hback⟩ := hp hno
  cases hresult
  exact ⟨_, by simp, front, back, a, b, c, d, hfront, hback, rfl⟩

/-- **A conditional**, or the first branch alone. -/
theorem yields_conditional (h : Yields (disjunction p) (Operand orLevel)) :
    Yields (conditional p) (Operand condLevel) := by
  intro ls e rest hread
  obtain ⟨yes, ls', hyes, hrest⟩ := exists_of_bind hread
  obtain ⟨front, rfl, hfront⟩ := h hyes
  rcases hbranches : optional (branches p) ls' with ⟨o, back⟩
  simp only [hbranches] at hrest
  rcases optional_eq_iff.mp hbranches with ⟨-, rfl, rfl⟩ | ⟨⟨test, no⟩, hsome, rfl⟩
  · -- the first branch alone, as a looser operand
    cases hrest
    exact ⟨front, rfl, hfront.mono (Nat.zero_le _)⟩
  · obtain ⟨_, rfl, ls₁, ls₂, a, b, c, d, htest, hno, rfl⟩ := yields_branches hp h hsome
    cases hrest
    refine ⟨front ++ ⟨.keyword .ifWord, a, b⟩ :: (ls₁ ++ ⟨.keyword .elseWord, c, d⟩ :: ls₂), ?_, ?_⟩
    · simp
    · exact operand_cond hfront htest hno a b c d

/-- **What the parser of a layer reads is an operand of its level.** -/
theorem yields_phrase (layer : Layer) : Yields (phrase p layer) (Operand layer.level) := by
  -- each layer from the next one, tightest first
  have hprimary : Yields (primary p) (Operand Layer.primary.level) := yields_primary hp
  have hsign : Yields (sign p) (Operand Layer.sign.level) :=
    yields_signed (by decide) (yields_mono hprimary (by decide))
  have hproduct : Yields (product p) (Operand Layer.product.level) := yields_chain (by decide) hsign
  have hsum : Yields (sum p) (Operand Layer.sum.level) := yields_chain (by decide) hproduct
  have hshift : Yields (shift p) (Operand Layer.shift.level) := yields_chain (by decide) hsum
  have hbitAnd : Yields (bitAnd p) (Operand Layer.bitAnd.level) := yields_chain (by decide) hshift
  have hbitXor : Yields (bitXor p) (Operand Layer.bitXor.level) := yields_chain (by decide) hbitAnd
  have hbitOr : Yields (bitOr p) (Operand Layer.bitOr.level) := yields_chain (by decide) hbitXor
  have hcomparison : Yields (comparison p) (Operand Layer.comparison.level) :=
    yields_chain (by decide) hbitOr
  have hnegation : Yields (negation p) (Operand Layer.negation.level) :=
    yields_signed (by decide) (yields_mono hcomparison (by decide))
  have hconjunction : Yields (conjunction p) (Operand Layer.conjunction.level) :=
    yields_chain (by decide) hnegation
  have hdisjunction : Yields (disjunction p) (Operand Layer.disjunction.level) :=
    yields_chain (by decide) hconjunction
  cases layer with
  | conditional => exact yields_conditional hp hdisjunction
  | disjunction => exact hdisjunction
  | conjunction => exact hconjunction
  | negation => exact hnegation
  | comparison => exact hcomparison
  | bitOr => exact hbitOr
  | bitXor => exact hbitXor
  | bitAnd => exact hbitAnd
  | shift => exact hshift
  | sum => exact hsum
  | product => exact hproduct
  | sign => exact hsign
  | primary => exact hprimary

end Layers

/-- Expressions from fewer than so many tokens. -/
def within (bound : Nat) : Parser Expr := fun ls => if ls.length < bound then expr ls else none

/-- An expression is a phrase of the loosest layer, in which brackets hold fewer tokens. -/
theorem expr_eq (ls : List Lexeme) : expr ls = phrase (within ls.length) .conditional ls := by
  rw [expr]
  rfl

/-- **What is read as an expression is an operand.** The induction is on the number of tokens: what stands
inside brackets is an operand, and so is what is made of it. -/
theorem yields_within (bound : Nat) : Yields (within bound) (Operand condLevel) := by
  induction bound using Nat.strongRecOn with
  | ind bound ih =>
    intro ls e rest hread
    obtain ⟨hlt, hexpr⟩ := Option.ite_none_right_eq_some.mp hread
    rw [expr_eq] at hexpr
    exact yields_phrase (ih ls.length hlt) .conditional hexpr

/-- **Tokens that are an expression by descent are an operand for the parser.** -/
theorem operand_of_parse {ls : List Lexeme} {e : Expr} (h : parse ls = some e) :
    Operand condLevel ls e := by
  rw [parse] at h
  split at h
  · next hexpr =>
    cases h
    rw [expr_eq] at hexpr
    obtain ⟨front, rfl, hoperand⟩ := yields_phrase (yields_within _) .conditional hexpr
    rwa [List.append_nil]
  · cases h

end QueryExpr.Descent
