import QueryExpr.Proofs.Expr.Descent
import QueryExpr.Proofs.Expr.Recognition

/-!
# The two parsers agree

Recursive descent (`Descent.parse`) and the parser with a stack (`Expr.ofTokens`) accept the same sequences of
tokens and return the same trees (`Descent.parse_eq`).

What descent reads is an operand for the other parser, so only the converse is left: every phrase is
found. The obstacle is that a parser of descent never comes back. It has to stop at the right place and
choose the right alternative, and both depend on the tokens around the phrase:

* `Follows level rest` says that the tokens behind a phrase do not go on with one of its parts. In front of
  such tokens the loop of each tighter layer stops (`loop_eq`).
* `layer.Begins token` says which tokens may begin a phrase of the layer. It tells the alternatives of a
  choice apart: a sign from an operand, an empty set from another one, `is not` from `is` in front of an
  operand (`operator_eq`), an argument from the end of all arguments.

`Finds layer ls e` is what the induction over the phrase carries: the parser of the layer reads the phrase
and is then at the start of its loop, whatever follows. An operator with its right operand is one more
turn of that loop (`Finds.binary`), and so is an attribute, a call or a subscript (`Finds.suffix`).
-/

namespace QueryExpr

/-! ### The first tokens of a phrase -/

/-- A phrase of the layer may begin with the token. -/
inductive Layer.Begins (layer : Layer) : Token → Prop where
  | literal {token : Token} {value : Literal} (h : token.literal? = some value) : layer.Begins token
  | name (n : String) : layer.Begins (.ident n)
  | paren : layer.Begins (.symbol .lparen)
  | bracket : layer.Begins (.symbol .lbracket)
  | brace : layer.Begins (.symbol .lbrace)
  | sign (op : UnaryOp) (h : layer.level ≤ op.level) : layer.Begins op.token

namespace Layer.Begins

variable {layer layer' : Layer} {token : Token}

/-- A token that begins a phrase begins one of every looser layer. -/
theorem mono (h : layer.Begins token) (hle : layer'.level ≤ layer.level) : layer'.Begins token := by
  cases h with
  | literal h => exact .literal h
  | name n => exact .name n
  | paren => exact .paren
  | bracket => exact .bracket
  | brace => exact .brace
  | sign op h => exact .sign op (Nat.le_trans hle h)

/-- An operator in front of an operand is of the level of the phrase at least. -/
theorem level_le {op : UnaryOp} (h : layer.Begins op.token) : layer.level ≤ op.level := by
  generalize htoken : op.token = token at h
  cases h with
  | literal h => cases op <;> cases htoken <;> cases h
  | sign op' h =>
    have : op = op' := by cases op <;> cases op' <;> cases htoken <;> rfl
    rwa [this]
  | _ => cases op <;> cases htoken

/-- The symbols with which a phrase may begin. -/
theorem symbol_mem {symbol : Symbol} (h : layer.Begins (.symbol symbol)) :
    symbol ∈ [.lparen, .lbracket, .lbrace, .minus, .tilde] := by
  generalize htoken : Token.symbol symbol = token at h
  cases h with
  | literal h => subst htoken; cases h
  | sign op h => cases op <;> cases htoken <;> decide
  | _ => cases htoken <;> decide

end Layer.Begins

namespace Spells

/-- Every phrase begins with a token that may begin it. -/
theorem exists_head {layer : Layer} {ls : List Lexeme} {e : Expr} (h : Spells layer ls e) :
    ∃ l rest, ls = l :: rest ∧ layer.Begins l.token := by
  induction h with
  | tighter h part ih =>
    obtain ⟨l, rest, rfl, hbegins⟩ := ih
    exact ⟨l, rest, rfl, hbegins.mono (Nat.le_of_lt (Layer.level_lt_of_tighter? h))⟩
  | cond a b c d part part' part'' ih =>
    obtain ⟨l, rest, rfl, hbegins⟩ := ih
    exact ⟨l, _, rfl, hbegins.mono (Nat.zero_le _)⟩
  | unary a b hop part ih =>
    exact ⟨_, _, rfl, .sign _ (Nat.le_of_eq (Layer.level_of_mem_signs hop).symm)⟩
  | literal h => exact ⟨_, _, rfl, .literal h⟩
  | name n => exact ⟨_, _, rfl, .name n⟩
  | paren => exact ⟨_, _, rfl, .paren⟩
  | list => exact ⟨_, _, rfl, .bracket⟩
  | emptySet => exact ⟨_, _, rfl, .brace⟩
  | set => exact ⟨_, _, rfl, .brace⟩
  | binary _ _ _ _ _ ih | attr _ _ _ _ _ _ ih | call _ _ _ _ _ _ _ _ ih | item _ _ _ _ _ _ ih
  | slice _ _ _ _ _ _ _ _ _ ih =>
    obtain ⟨l, rest, rfl, hbegins⟩ := ih
    exact ⟨l, _, rfl, hbegins⟩

/-- A name and the sign `=` are not how a phrase begins. -/
theorem second_ne_assign {n : String} {a b : Nat} {l : Lexeme} {ls : List Lexeme} {e : Expr}
    (h : Spells .conditional (⟨.ident n, a, b⟩ :: l :: ls) e) : l.token ≠ .symbol .assign := by
  intro hassign
  obtain ⟨_, c, d⟩ := l
  cases hassign
  -- the parser with the stack stops at the sign
  cases Expr.ofTokens_of_operand 0 h.operand

end Spells

namespace Descent

open Parse

/-! ### What may follow a phrase -/

/-- The level of the operand that the token goes on with. -/
def continued? : Token → Option Nat
  | .symbol .dot | .symbol .lparen | .symbol .lbracket => some primaryLevel
  | .keyword .not | .keyword .is => some Layer.comparison.level
  | .keyword .ifWord => some orLevel
  | token => token.binaryOp?.map BinaryOp.level

/-- The next token does not go on with an operand that is tighter than the level. -/
def Follows (level : Nat) (rest : List Lexeme) : Prop :=
  ∀ l ∈ rest.head?, ∀ n ∈ continued? l.token, n ≤ level

section Follows

variable {level : Nat} {l : Lexeme} {rest : List Lexeme}

/-- What may follow a phrase may follow one of a tighter layer. -/
theorem Follows.mono {level' : Nat} (h : Follows level rest) (hle : level ≤ level') :
    Follows level' rest :=
  fun l hl n hn => Nat.le_trans (h l hl n hn) hle

theorem follows_cons (h : ∀ n ∈ continued? l.token, n ≤ level) : Follows level (l :: rest) := by
  intro l' hl'
  cases hl'
  exact h

/-- A token that goes on with no operand. -/
theorem follows_of_none (h : continued? l.token = none) : Follows level (l :: rest) := by
  refine follows_cons ?_
  rw [h]
  exact nofun

theorem Follows.le {n : Nat} (h : Follows level (l :: rest)) (hn : continued? l.token = some n) :
    n ≤ level :=
  h l rfl n hn

/-- An operator goes on with an operand of its level. -/
theorem continued?_of_tokens {op : BinaryOp} {token : Token} {ts : List Token}
    (h : op.tokens = token :: ts) : continued? token = some op.level := by
  cases op <;> cases h <;> rfl

end Follows

/-! ### The parsers of the layers -/

/-- The operators of a layer in the order in which they are tried. -/
def choices : Layer → List BinaryOp
  | .comparison => [.notContains, .isNot, .eq, .ne, .lt, .le, .gt, .ge, .contains, .is]
  | layer => layer.operators

/-- What a phrase of the layer becomes with all that goes on with it. -/
def loop (p : Parser Expr) (layer : Layer) (e : Expr) (ls : List Lexeme) : Expr × List Lexeme :=
  match layer.tighter? with
  | some next =>
    foldl (applied (choices layer) (phrase p next)) (fun left r => .mkBinary r.1 left r.2) e ls
  | none => foldl (suffix p) (fun obj apply => apply obj) e ls

section Loop

variable {α β : Type} {p : Parser β} {f : α → β → α} {a : α} {ls rest : List Lexeme}

/-- A loop stops where nothing more is read. -/
theorem foldl_eq_of_none (h : p ls = none) : foldl p f a ls = (a, ls) := by
  rw [foldl, h]

/-- One turn of a loop. -/
theorem foldl_eq_of_some {b : β} (h : p ls = some (b, rest)) (hlt : rest.length < ls.length) :
    foldl p f a ls = foldl p f (f a b) rest := by
  rw [foldl, h]
  exact if_pos hlt

theorem just_eq_none {token : Token} {l : Lexeme} (h : l.token ≠ token) : just token (l :: ls) = none :=
  if_neg h

theorem choice_of_none {q : Parser α} {qs : List (Parser α)} (h : q ls = none) :
    choice (q :: qs) ls = choice qs ls := by
  rw [choice, List.findSome?_cons, h]
  rfl

theorem choice_of_some {q : Parser α} {qs : List (Parser α)} (h : q ls = some (a, rest)) :
    choice (q :: qs) ls = some (a, rest) := by
  rw [choice, List.findSome?_cons, h]

/-- Alternatives that fail are passed over. -/
theorem choice_append {qs qs' : List (Parser α)} (h : ∀ q ∈ qs, q ls = none) :
    choice (qs ++ qs') ls = choice qs' ls := by
  induction qs with
  | nil => rfl
  | cons q qs ih =>
    rw [List.cons_append, choice_of_none (h q List.mem_cons_self)]
    exact ih fun q' hq' => h q' (List.mem_cons_of_mem q hq')

end Loop

section Layers

variable {p : Parser Expr} {layer next : Layer} {op : BinaryOp} {e : Expr} {ls rest : List Lexeme}

theorem mem_choices : op ∈ choices layer ↔ op ∈ layer.operators := by
  cases layer <;> cases op <;> decide

/-- A layer with operators between its operands is a loop over the next one. -/
theorem phrase_eq_chain (h : layer.tighter? = some next) (hops : layer.operators ≠ []) :
    phrase p layer = chain (choices layer) (phrase p next) := by
  cases layer <;> cases h <;> first | rfl | exact absurd rfl hops

/-- A layer with operators in front of its operands. -/
theorem phrase_eq_signed (h : layer.tighter? = some next) (hsigns : layer.signs ≠ []) :
    phrase p layer = signed layer.signs (phrase p next) := by
  cases layer <;> cases h <;> first | rfl | exact absurd rfl hsigns

/-- Given tokens are read where they are. -/
theorem word_append {ts : List Token} {front : List Lexeme} (h : front.map Lexeme.token = ts) :
    word ts (front ++ rest) = some ((), rest) := by
  subst h
  induction front with
  | nil => rfl
  | cons l front ih =>
    have hl : just l.token (l :: (front ++ rest)) = some (l, front ++ rest) := if_pos rfl
    rw [List.map_cons, List.cons_append, word, hl]
    exact ih

/-- Two operators of a layer begin with different tokens, or the second is `is` and the first `is not`. -/
theorem pairwise_choices (layer : Layer) : (choices layer).Pairwise fun op op' =>
    op.tokens.head? ≠ op'.tokens.head? ∨ op' = .is ∧ op.tokens = op'.tokens ++ [.keyword .not] := by
  cases layer <;> decide

/-- Every operator of a layer has a token. -/
theorem tokens_ne_nil (hop : op ∈ choices layer) : op.tokens ≠ [] := by
  have hitem := (Layer.level_of_mem_operators (mem_choices.mp hop)).2
  cases op <;> first | exact List.cons_ne_nil _ _ | exact absurd rfl hitem

section Operator

variable {front : List Lexeme} (hop : op ∈ choices layer) (hfront : front.map Lexeme.token = op.tokens)
  (hrest : op = .is → ∀ l ∈ rest.head?, l.token ≠ .keyword .not)

include hop hfront hrest

/-- Another operator is not there. -/
theorem spelled_eq_none {op' : BinaryOp} (hop' : op' ∈ choices layer)
    (hpair : op'.tokens.head? ≠ op.tokens.head? ∨
      op = .is ∧ op'.tokens = op.tokens ++ [.keyword .not]) :
    spelled op' (front ++ rest) = none := by
  refine Option.eq_none_iff_forall_ne_some.mpr ?_
  rintro ⟨_, rest'⟩ hread
  obtain ⟨⟨⟩, _, hword, -⟩ := exists_of_bind hread
  obtain ⟨front', heq, hfront'⟩ := exists_of_word hword
  have htokens := congrArg (List.map Lexeme.token) heq
  rw [List.map_append, List.map_append, hfront, hfront'] at htokens
  rcases hpair with hhead | ⟨his, hnot⟩
  · -- both operators would begin with the first token
    obtain ⟨t, ts, ht⟩ := List.exists_cons_of_ne_nil (tokens_ne_nil hop)
    obtain ⟨t', ts', ht'⟩ := List.exists_cons_of_ne_nil (tokens_ne_nil hop')
    rw [ht, ht'] at htokens hhead
    exact hhead (congrArg some (List.cons.inj htokens).1.symm)
  · -- the operand on the right would begin with the second word
    rw [hnot, List.append_assoc] at htokens
    obtain ⟨a, b, _, rfl, -⟩ := exists_eq_cons_of_tokens (List.append_cancel_left htokens)
    exact hrest his _ rfl rfl

/-- **The operator that is there is found**: those that are tried before it fail. -/
theorem operator_eq : operator (choices layer) (front ++ rest) = some (op, rest) := by
  obtain ⟨before, after, hchoices⟩ := List.append_of_mem hop
  have hpairs := pairwise_choices layer
  rw [hchoices, List.pairwise_append] at hpairs
  have hbefore : ∀ q ∈ before.map spelled, q (front ++ rest) = none := by
    refine List.forall_mem_map.mpr fun op' hop' => ?_
    have hmem : op' ∈ choices layer := by
      rw [hchoices]
      exact List.mem_append_left _ hop'
    exact spelled_eq_none hop hfront hrest hmem (hpairs.2.2 op' hop' op List.mem_cons_self)
  rw [operator, hchoices, List.map_append, List.map_cons, choice_append hbefore]
  refine choice_of_some ?_
  rw [spelled, word_append hfront]
  rfl

end Operator

/-- No operator of the layer goes on with a tighter operand. -/
theorem operator_eq_none {level : Nat} (h : Follows level rest) (hlt : level < layer.level) :
    operator (choices layer) rest = none := by
  refine Option.eq_none_iff_forall_ne_some.mpr ?_
  rintro ⟨op, rest'⟩ hop
  obtain ⟨word, rfl, hmem, hword⟩ := yields_operator _ hop
  obtain ⟨hlevel, hitem⟩ := Layer.level_of_mem_operators (mem_choices.mp hmem)
  cases word with
  | nil =>
    cases op <;> cases hword
    exact absurd rfl hitem
  | cons l word =>
    have hle := h.le (continued?_of_tokens hword.symm)
    omega

/-- At a token of a looser layer there is no attribute, call or subscript. -/
theorem suffix_eq_none {level : Nat} (h : Follows level rest) (hlt : level < primaryLevel) :
    suffix p rest = none := by
  cases rest with
  | nil => rfl
  | cons l rest =>
    have hne : ∀ token, continued? token = some primaryLevel → l.token ≠ token := by
      rintro token htoken rfl
      exact absurd (h.le htoken) (Nat.not_le_of_lt hlt)
    simp [suffix, choice, attr, call, subscript, just_eq_none (hne (.symbol .dot) rfl),
      just_eq_none (hne (.symbol .lparen) rfl), just_eq_none (hne (.symbol .lbracket) rfl)]

/-- The loop of a layer does nothing at a token of a looser layer. -/
theorem loop_eq {level : Nat} (h : Follows level rest) (hlt : level < layer.level) :
    loop p layer e rest = (e, rest) := by
  -- whatever the layer loops over, its first token would be of the level of the layer
  rw [loop]
  split
  · refine foldl_eq_of_none ?_
    rw [applied, operator_eq_none h hlt]
    rfl
  · next htighter =>
    obtain rfl : layer = .primary := by cases layer <;> first | rfl | cases htighter
    exact foldl_eq_of_none (suffix_eq_none h hlt)

end Layers

/-! ### Phrases are found -/

/-- The tokens are found as a phrase of the layer with this expression, in front of all that may follow
a phrase of the layer. -/
def Finds (layer : Layer) (ls : List Lexeme) (e : Expr) : Prop :=
  ∀ bound rest, (ls ++ rest).length ≤ bound → Follows layer.level rest →
    phrase (within bound) layer (ls ++ rest) = some (loop (within bound) layer e rest)

section Operators

variable {layer next : Layer} {ls ls' : List Lexeme} {e e' : Expr}

/-- A layer without operators between its operands has nothing to loop over. -/
theorem loop_eq_of_nil (h : layer.tighter? = some next) (hops : layer.operators = []) (p : Parser Expr)
    (e : Expr) (rest : List Lexeme) : loop p layer e rest = (e, rest) := by
  cases layer <;> cases h <;> first | exact foldl_eq_of_none rfl | cases hops

/-- The layer without operators of its own. -/
theorem eq_conditional (h : layer.tighter? = some next) (hops : layer.operators = [])
    (hsigns : layer.signs = []) : layer = .conditional := by
  cases layer with
  | conditional => rfl
  | negation | sign => cases hsigns
  | primary => cases h
  | _ => cases hops

/-- An operator in front of an operand is found by its token. -/
theorem find?_signs {op : UnaryOp} (hop : op ∈ layer.signs) :
    (layer.signs.find? fun op' => op'.token = op.token) = some op := by
  cases layer <;> revert op <;> decide

/-- Behind a whole conditional there is no `if`. -/
theorem branches_eq_none {p : Parser Expr} {rest : List Lexeme} (h : Follows condLevel rest) :
    branches p rest = none := by
  cases rest with
  | nil => rfl
  | cons l rest =>
    have hne : l.token ≠ .keyword .ifWord := by
      intro hif
      have hle : orLevel ≤ condLevel := h.le (by rw [hif]; rfl)
      cases hle
    rw [branches, just_eq_none hne]
    rfl

/-- A phrase of the next layer is read before the loop of this one. -/
theorem Finds.eq_some (h : Finds next ls e) (htighter : layer.tighter? = some next) {bound : Nat}
    {rest : List Lexeme} (hbound : (ls ++ rest).length ≤ bound) (hrest : Follows layer.level rest) :
    phrase (within bound) next (ls ++ rest) = some (e, rest) := by
  have hlt := Layer.level_lt_of_tighter? htighter
  rw [h bound rest hbound (hrest.mono (Nat.le_of_lt hlt)), loop_eq hrest hlt]

/-- Without an operator in front, an operand is read as it is. -/
theorem signed_eq {ops : List UnaryOp} {operand : Parser Expr} {l : Lexeme}
    (h : ∀ op ∈ ops, op.token ≠ l.token) : signed ops operand (l :: ls) = operand (l :: ls) := by
  have hnone : (ops.find? fun op => op.token = l.token) = none := by
    rw [List.find?_eq_none]
    simpa using h
  rw [signed, hnone]

/-- A phrase of the next layer alone: what the layer adds to it is not there. -/
theorem Finds.tighter (h : Finds next ls e) (htighter : layer.tighter? = some next)
    (part : Spells next ls e) : Finds layer ls e := by
  intro bound rest hbound hrest
  have hnext := h.eq_some htighter hbound hrest
  by_cases hops : layer.operators = []
  · rw [loop_eq_of_nil htighter hops]
    by_cases hsigns : layer.signs = []
    · -- no `if` follows
      obtain rfl := eq_conditional htighter hops hsigns
      cases htighter
      have hdisjunction : disjunction (within bound) (ls ++ rest) = some (e, rest) := hnext
      rw [phrase, conditional, hdisjunction]
      simp [optional, branches_eq_none hrest]
    · -- no operator of this layer stands in front of a phrase of the next one
      obtain ⟨l, ls, rfl, hbegins⟩ := part.exists_head
      rw [phrase_eq_signed htighter hsigns, ← hnext]
      refine signed_eq ?_
      intro op hop htoken
      rw [← htoken] at hbegins
      have hle := hbegins.level_le
      have hlevel := Layer.level_of_mem_signs hop
      have hlt := Layer.level_lt_of_tighter? htighter
      omega
  · -- the loop is what is left to do
    rw [phrase_eq_chain htighter hops, chain, hnext, loop, htighter]
    rfl

/-- An operator in front of a phrase of the layer makes one of the same layer. -/
theorem Finds.unary {op : UnaryOp} (h : Finds layer ls e) (hop : op ∈ layer.signs) (a b : Nat) :
    Finds layer (⟨op.token, a, b⟩ :: ls) (.mkUnary op a e) := by
  intro bound rest hbound hrest
  have hlayer : layer.operators = [] ∧ ∃ next, layer.tighter? = some next := by
    cases layer <;> first | exact ⟨rfl, _, rfl⟩ | cases hop
  obtain ⟨hops, next, htighter⟩ := hlayer
  have hobj := h bound rest (Nat.le_of_succ_le hbound) hrest
  rw [phrase_eq_signed htighter (List.ne_nil_of_mem hop)] at hobj ⊢
  rw [List.cons_append, signed, find?_signs hop]
  simp only [hobj, loop_eq_of_nil htighter hops, Option.map_some]

/-- An operator may follow its left operand. -/
theorem follows_operator {op : BinaryOp} {word : List Lexeme} (hop : op ∈ layer.operators)
    (hword : word.map Lexeme.token = op.tokens) (rest : List Lexeme) :
    Follows layer.level (word ++ rest) := by
  obtain ⟨hlevel, -⟩ := Layer.level_of_mem_operators hop
  obtain ⟨t, ts, ht⟩ := List.exists_cons_of_ne_nil (tokens_ne_nil (mem_choices.mpr hop))
  obtain ⟨a, b, more, rfl, -⟩ := exists_eq_cons_of_tokens (hword.trans ht)
  refine follows_cons ?_
  rw [continued?_of_tokens ht, hlevel]
  rintro n ⟨⟩
  exact Nat.le_refl _

/-- The right operand of `is` does not begin with `not`, since it is tighter. -/
theorem head_ne_not (part : Spells next ls e) (htighter : layer.tighter? = some next)
    (hop : BinaryOp.is ∈ layer.operators) (rest : List Lexeme) :
    ∀ l ∈ (ls ++ rest).head?, l.token ≠ .keyword .not := by
  obtain ⟨l, ls', rfl, hbegins⟩ := part.exists_head
  rintro l ⟨⟩ htoken
  rw [htoken] at hbegins
  have hle : next.level ≤ UnaryOp.not.level := hbegins.level_le
  have hlt := Layer.level_lt_of_tighter? htighter
  rw [← (Layer.level_of_mem_operators hop).1] at hlt
  exact absurd (Nat.lt_of_lt_of_le hlt hle) (by decide)

/-- An operator with its right operand is one turn of the loop of its layer. -/
theorem Finds.binary {op : BinaryOp} {word : List Lexeme} (h : Finds layer ls e) (h' : Finds next ls' e')
    (hop : op ∈ layer.operators) (htighter : layer.tighter? = some next)
    (hword : word.map Lexeme.token = op.tokens) (part' : Spells next ls' e') :
    Finds layer (ls ++ (word ++ ls')) (.mkBinary op e e') := by
  intro bound rest hbound hrest
  simp only [List.append_assoc] at hbound ⊢
  have hchoice := mem_choices.mpr hop
  -- the right operand is read up to `rest`, as its own loop stops there
  have hright : phrase (within bound) next (ls' ++ rest) = some (e', rest) := by
    refine h'.eq_some htighter ?_ hrest
    simp only [List.length_append] at hbound ⊢
    omega
  have happlied : applied (choices layer) (phrase (within bound) next) (word ++ (ls' ++ rest)) =
      some ((op, e'), rest) := by
    have hnot : op = .is → ∀ l ∈ (ls' ++ rest).head?, l.token ≠ .keyword .not := by
      rintro rfl
      exact head_ne_not part' htighter hop rest
    rw [applied, operator_eq hchoice hword hnot]
    simp [hright]
  have hlt : rest.length < (word ++ (ls' ++ rest)).length := by
    have hne := List.length_pos_iff.mpr (tokens_ne_nil hchoice)
    rw [← hword, List.length_map] at hne
    simp only [List.length_append]
    omega
  rw [h bound _ hbound (follows_operator hop hword _), loop, loop, htighter]
  exact congrArg some (foldl_eq_of_some happlied hlt)

/-- A conditional inside another phrase. -/
theorem Finds.inside (h : Finds .conditional ls e) {bound : Nat} {rest : List Lexeme}
    (hlt : (ls ++ rest).length < bound) (hrest : Follows condLevel rest) :
    within bound (ls ++ rest) = some (e, rest) := by
  rw [within, if_pos hlt, expr_eq, h _ rest (Nat.le_refl _) hrest, loop_eq_of_nil rfl rfl]

/-- The word `if` ends a disjunction. -/
theorem loop_disjunction_if {p : Parser Expr} (a b : Nat) (rest : List Lexeme) :
    loop p .disjunction e (⟨.keyword .ifWord, a, b⟩ :: rest) = (e, ⟨.keyword .ifWord, a, b⟩ :: rest) :=
  foldl_eq_of_none rfl

/-- A conditional: the first branch ends at `if`, the test at `else`, and the last branch at what follows. -/
theorem Finds.cond {yes test no : Expr} {ls'' : List Lexeme} (h : Finds .disjunction ls yes)
    (h' : Finds .disjunction ls' test) (h'' : Finds .conditional ls'' no) (a b c d : Nat) :
    Finds .conditional
      (ls ++ ⟨.keyword .ifWord, a, b⟩ :: (ls' ++ ⟨.keyword .elseWord, c, d⟩ :: ls''))
      (.mkCond yes test no) := by
  intro bound rest hbound hrest
  simp only [List.append_assoc, List.cons_append] at hbound ⊢
  simp only [List.length_append, List.length_cons] at hbound
  have hcond : Layer.conditional.tighter? = some .disjunction := rfl
  have hyes : disjunction (within bound)
      (ls ++ ⟨.keyword .ifWord, a, b⟩ :: (ls' ++ ⟨.keyword .elseWord, c, d⟩ :: (ls'' ++ rest))) =
        some (yes, ⟨.keyword .ifWord, a, b⟩ :: (ls' ++ ⟨.keyword .elseWord, c, d⟩ :: (ls'' ++ rest))) := by
    -- the word may follow, and the loop over `or` stops at it
    rw [← loop_disjunction_if a b]
    refine h bound _ ?_ (follows_cons ?_)
    · simp only [List.length_append, List.length_cons]
      omega
    · rintro n ⟨⟩
      exact Nat.le_refl _
  have htest : disjunction (within bound) (ls' ++ ⟨.keyword .elseWord, c, d⟩ :: (ls'' ++ rest)) =
      some (test, ⟨.keyword .elseWord, c, d⟩ :: (ls'' ++ rest)) := by
    refine h'.eq_some hcond ?_ (follows_of_none rfl)
    simp only [List.length_append, List.length_cons]
    omega
  have hno : within bound (ls'' ++ rest) = some (no, rest) := by
    refine h''.inside ?_ hrest
    simp only [List.length_append]
    omega
  have hbranches : branches (within bound)
      (⟨.keyword .ifWord, a, b⟩ :: (ls' ++ ⟨.keyword .elseWord, c, d⟩ :: (ls'' ++ rest))) =
        some ((test, no), rest) := by
    simp [branches, just, htest, hno]
  rw [phrase, conditional, hyes, loop_eq_of_nil rfl rfl]
  simp [optional, hbranches]

end Operators

/-! #### Items between commas -/

section Items

variable {α : Type} {p : Parser α} {bound : Nat}

/-- The tokens are read as one item, in front of a comma or of the token that closes the brackets. -/
def Takes (p : Parser α) (bound : Nat) (closer : Token) (ls : List Lexeme) (a : α) : Prop :=
  ∀ l rest, (ls ++ l :: rest).length < bound → l.token = .symbol .comma ∨ l.token = closer →
    p (ls ++ l :: rest) = some (a, l :: rest)

/-- Separated parts begin with the first one. -/
theorem exists_append_of_separated {β : Type} {isMark : β → Prop} {part us : List β}
    {parts : List (List β)} (h : Separated isMark (part :: parts) us) : ∃ more, us = part ++ more := by
  cases h with
  | last => exact ⟨[], (List.append_nil _).symm⟩
  | trailing | cons => exact ⟨_, rfl⟩

/-- No item at all. -/
theorem items_of_none {ls : List Lexeme} (h : p ls = none) : items p ls = ([], ls) := by
  rw [items, h]

/-- One item and the comma behind it. -/
theorem items_comma {ls rest : List Lexeme} {mark : Lexeme} {a : α} (hmark : mark.token = .symbol .comma)
    (h : p (ls ++ mark :: rest) = some (a, mark :: rest)) :
    items p (ls ++ mark :: rest) = (a :: (items p rest).1, (items p rest).2) := by
  have hcomma : just (.symbol .comma) (mark :: rest) = some (mark, rest) := if_pos hmark
  have hlt : rest.length < (ls ++ mark :: rest).length := by
    simp only [List.length_append, List.length_cons]
    omega
  rw [items, h]
  simp only [hcomma, if_pos hlt]

/-- **All items are read**, up to the token that closes the brackets. -/
theorem items_eq {last : Lexeme} {rest : List Lexeme} (hlast : last.token ≠ .symbol .comma)
    (hend : p (last :: rest) = none) {parts : List (List Lexeme × α)} {us : List Lexeme}
    (hsep : Separated (fun l => l.token = .symbol .comma) (parts.map Prod.fst) us)
    (hparts : ∀ part ∈ parts, Takes p bound last.token part.1 part.2)
    (hlt : (us ++ last :: rest).length < bound) :
    items p (us ++ last :: rest) = (parts.map Prod.snd, last :: rest) := by
  -- by induction on how the items are separated, which is how the parser goes through them
  generalize hlss : parts.map Prod.fst = lss at hsep
  induction hsep generalizing parts with
  | nil =>
    obtain rfl := List.map_eq_nil_iff.mp hlss
    exact items_of_none hend
  | last ls =>
    obtain ⟨part, rfl, rfl⟩ := List.map_eq_singleton_iff.mp hlss
    have hpart := hparts part List.mem_cons_self last rest hlt (.inr rfl)
    rw [items, hpart]
    simp only [just_eq_none hlast]
    rfl
  | @trailing ls mark hmark =>
    obtain ⟨part, rfl, rfl⟩ := List.map_eq_singleton_iff.mp hlss
    rw [List.append_assoc] at hlt ⊢
    have hpart := hparts part List.mem_cons_self mark (last :: rest) hlt (.inl hmark)
    rw [List.singleton_append, items_comma hmark hpart, items_of_none hend]
    rfl
  | @cons ls mark lss us hmark hne more ih =>
    obtain ⟨part, parts, rfl, rfl, hmore⟩ := List.map_eq_cons_iff.mp hlss
    rw [List.append_assoc] at hlt ⊢
    have hpart := hparts part List.mem_cons_self mark (us ++ last :: rest) hlt (.inl hmark)
    have hlt' : (us ++ last :: rest).length < bound := by
      simp only [List.length_append, List.length_cons] at hlt ⊢
      omega
    have hrest := ih (fun part' hpart' => hparts part' (List.mem_cons_of_mem _ hpart')) hlt' hmore
    rw [List.cons_append, items_comma hmark hpart, hrest]
    rfl

end Items

/-! #### Atoms -/

/-- A token that begins no phrase. -/
theorem within_eq_none {token : Token} (h : ¬ Layer.conditional.Begins token) (bound : Nat)
    (ls : List Lexeme) (a b : Nat) : within bound (⟨token, a, b⟩ :: ls) = none := by
  refine Option.eq_none_iff_forall_ne_some.mpr ?_
  rintro ⟨e, rest⟩ hread
  -- what is read would be a phrase, and so begin with the token
  obtain ⟨front, heq, hoperand⟩ := yields_within bound hread
  have hspells := Expr.spells_of_ofTokens (Expr.ofTokens_of_operand 0 hoperand)
  obtain ⟨l, front, rfl, hbegins⟩ := hspells.exists_head
  cases heq
  exact h hbegins

section Atoms

variable {ls us : List Lexeme} {e : Expr}

/-- An atom is found if its alternative is. -/
theorem finds_of_atom (h : ∀ bound rest, (ls ++ rest).length ≤ bound →
    atom (within bound) (ls ++ rest) = some (e, rest)) : Finds .primary ls e := by
  intro bound rest hbound hrest
  rw [phrase, primary, h bound rest hbound]
  rfl

theorem finds_literal {l : Lexeme} {value : Literal} (h : l.token.literal? = some value) :
    Finds .primary [l] (.const (.bare l.start l.stop) value) := by
  refine finds_of_atom fun _ rest _ => choice_of_some ?_
  rw [List.singleton_append, literal, h]
  rfl

theorem finds_name (n : String) (a b : Nat) :
    Finds .primary [⟨.ident n, a, b⟩] (.name (.bare a b) n) :=
  finds_of_atom fun _ _ _ => rfl

theorem finds_emptySet (a b c d a' b' : Nat) :
    Finds .primary [⟨.symbol .lbrace, a, b⟩, ⟨.symbol .slash, c, d⟩, ⟨.symbol .rbrace, a', b'⟩]
      (.set (.bare a b') []) :=
  finds_of_atom fun _ _ _ => rfl

/-- Parentheses around a phrase. No alternative before the last begins with a parenthesis. -/
theorem Finds.paren (h : Finds .conditional ls e) (a b c d : Nat) :
    Finds .primary (⟨.symbol .lparen, a, b⟩ :: (ls ++ [⟨.symbol .rparen, c, d⟩]))
      (e.parenthesized a d) := by
  refine finds_of_atom fun bound rest hbound => ?_
  simp only [List.cons_append, List.append_assoc, List.nil_append] at hbound ⊢
  have hinside := h.inside (Nat.lt_of_succ_le hbound) (follows_of_none rfl)
  have hparen : parenthesized (within bound)
      (⟨.symbol .lparen, a, b⟩ :: (ls ++ ⟨.symbol .rparen, c, d⟩ :: rest)) =
        some (e.parenthesized a d, rest) := by
    simp [parenthesized, just, hinside]
  -- all other atoms begin with another token
  rw [atom, choice_of_none rfl, choice_of_none rfl, choice_of_none rfl, choice_of_none rfl,
    choice_of_none rfl, choice_of_some hparen]

/-- A phrase is an item, since no comma and no closing bracket goes on with it. -/
theorem Finds.takes (h : Finds .conditional ls e) {closer : Token} (hcloser : continued? closer = none)
    (bound : Nat) : Takes (within bound) bound closer ls e := by
  intro l rest hlt hl
  refine h.inside hlt (follows_of_none ?_)
  rcases hl with hl | hl
  · rw [hl]
    rfl
  · rwa [hl]

/-- The symbols that end what stands inside brackets. -/
def closers : List Symbol := [.rparen, .rbracket, .rbrace, .colon]

/-- Nothing begins with a symbol that ends what is inside brackets. -/
theorem not_begins_closer {closer : Symbol} (h : closer ∈ closers) :
    ¬ Layer.conditional.Begins (.symbol closer) := by
  have hnot : closer ∉ [.lparen, .lbracket, .lbrace, .minus, .tilde] := by
    revert closer
    decide
  exact fun hbegins => hnot hbegins.symbol_mem

theorem continued?_closer {closer : Symbol} (h : closer ∈ closers) :
    continued? (.symbol closer) = none := by
  revert closer
  decide

theorem closer_ne_comma {closer : Symbol} (h : closer ∈ closers) :
    Token.symbol closer ≠ .symbol .comma := by
  revert closer
  decide

section Items

variable {parts : List (List Lexeme × Expr)}
  (hparts : ∀ part ∈ parts, Finds .conditional part.1 part.2)
  (hsep : Separated (fun l => l.token = .symbol .comma) (parts.map Prod.fst) us)

include hparts hsep

/-- Items that are phrases. -/
theorem items_within {closer : Symbol} (hcloser : closer ∈ closers) {bound c d : Nat}
    {rest : List Lexeme} (hlt : (us ++ ⟨.symbol closer, c, d⟩ :: rest).length < bound) :
    items (within bound) (us ++ ⟨.symbol closer, c, d⟩ :: rest) =
      (parts.map Prod.snd, ⟨.symbol closer, c, d⟩ :: rest) := by
  have hend := within_eq_none (not_begins_closer hcloser) bound rest c d
  refine items_eq (closer_ne_comma hcloser) hend hsep (fun part hpart => ?_) hlt
  exact (hparts part hpart).takes (continued?_closer hcloser) bound

/-- Items in brackets. -/
theorem finds_list (a b c d : Nat) :
    Finds .primary (⟨.symbol .lbracket, a, b⟩ :: (us ++ [⟨.symbol .rbracket, c, d⟩]))
      (.list (.bare a d) (parts.map Prod.snd)) := by
  refine finds_of_atom fun bound rest hbound => ?_
  simp only [List.cons_append, List.append_assoc, List.nil_append] at hbound ⊢
  have hinside := items_within hparts hsep (by decide) (Nat.lt_of_succ_le hbound)
  have hlist : list (within bound)
      (⟨.symbol .lbracket, a, b⟩ :: (us ++ ⟨.symbol .rbracket, c, d⟩ :: rest)) =
        some (.list (.bare a d) (parts.map Prod.snd), rest) := by
    simp [list, just, hinside]
  rw [atom, choice_of_none rfl, choice_of_none rfl, choice_of_some hlist]

omit hparts in
/-- The first token between the brackets is that of the first item. -/
theorem exists_head_items (hspells : ∀ part ∈ parts, Spells .conditional part.1 part.2)
    (hne : parts ≠ []) : ∃ l rest, us = l :: rest ∧ Layer.conditional.Begins l.token := by
  obtain ⟨part, parts, rfl⟩ := List.exists_cons_of_ne_nil hne
  obtain ⟨l, rest, hpart, hbegins⟩ := (hspells part List.mem_cons_self).exists_head
  obtain ⟨more, rfl⟩ := exists_append_of_separated hsep
  exact ⟨l, rest ++ more, by rw [hpart]; rfl, hbegins⟩

/-- Items in braces. The first one does not begin with a slash, so the set is not taken for the empty one. -/
theorem finds_set (hspells : ∀ part ∈ parts, Spells .conditional part.1 part.2) (hne : parts ≠ [])
    (a b c d : Nat) :
    Finds .primary (⟨.symbol .lbrace, a, b⟩ :: (us ++ [⟨.symbol .rbrace, c, d⟩]))
      (.set (.bare a d) (parts.map Prod.snd)) := by
  refine finds_of_atom fun bound rest hbound => ?_
  simp only [List.cons_append, List.append_assoc, List.nil_append] at hbound ⊢
  have hinside := items_within hparts hsep (by decide) (Nat.lt_of_succ_le hbound)
  -- the alternative before this one fails at the first item
  have hempty : emptySet (⟨.symbol .lbrace, a, b⟩ :: (us ++ ⟨.symbol .rbrace, c, d⟩ :: rest)) =
      none := by
    obtain ⟨l, us, rfl, hbegins⟩ := exists_head_items hsep hspells hne
    have hslash : l.token ≠ .symbol .slash := by
      intro hslash
      rw [hslash] at hbegins
      exact absurd hbegins.symbol_mem (by decide)
    simp [emptySet, just, hslash]
  have hset : set (within bound)
      (⟨.symbol .lbrace, a, b⟩ :: (us ++ ⟨.symbol .rbrace, c, d⟩ :: rest)) =
        some (.set (.bare a d) (parts.map Prod.snd), rest) := by
    have hitems : parts.map Prod.snd ≠ [] := fun h => hne (List.map_eq_nil_iff.mp h)
    refine Option.bind_eq_some_iff.mpr ⟨(), ?_, ?_⟩
    · rw [hinside]
      exact if_pos hitems
    · rw [hinside]
      rfl
  rw [atom, choice_of_none rfl, choice_of_none rfl, choice_of_none rfl, choice_of_none hempty,
    choice_of_some hset]

end Items

end Atoms

/-! #### Attributes, calls and subscripts -/

section Suffixes

variable {ls us ws : List Lexeme} {obj : Expr}

/-- Every token may follow an operand of the last layer. -/
theorem follows_primary (rest : List Lexeme) : Follows Layer.primary.level rest := by
  intro l _ n hn
  unfold continued? at hn
  split at hn
  case h_7 =>
    obtain ⟨op, -, rfl⟩ := Option.map_eq_some_iff.mp hn
    cases op <;> decide
  all_goals
    cases hn
    decide

/-- An attribute, a call or a subscript is one turn of the loop of the last layer. -/
theorem Finds.suffix (h : Finds .primary ls obj) (apply : Expr → Expr) (hne : ws ≠ [])
    (hsuffix : ∀ bound rest, (ws ++ rest).length ≤ bound →
      suffix (within bound) (ws ++ rest) = some (apply, rest)) :
    Finds .primary (ls ++ ws) (apply obj) := by
  intro bound rest hbound hrest
  rw [List.append_assoc] at hbound ⊢
  have hlt : rest.length < (ws ++ rest).length := by
    have := List.length_pos_iff.mpr hne
    rw [List.length_append]
    omega
  have hws : (ws ++ rest).length ≤ bound := by
    rw [List.length_append] at hbound
    omega
  -- the parser is at the start of its loop behind `obj`, and takes one more turn
  rw [h bound _ hbound (follows_primary _)]
  exact congrArg some (foldl_eq_of_some (hsuffix bound rest hws) hlt)

theorem Finds.attr (h : Finds .primary ls obj) (n : String) (a b c d : Nat) :
    Finds .primary (ls ++ [⟨.symbol .dot, a, b⟩, ⟨.ident n, c, d⟩]) (.mkAttr obj n d) :=
  h.suffix (.mkAttr · n d) (List.cons_ne_nil _ _) fun _ _ _ => rfl

/-- An index in brackets, which is not taken for a bound since no colon follows. -/
theorem Finds.item {index : Expr} (h : Finds .primary ls obj) (h' : Finds .conditional us index)
    (a b c d : Nat) :
    Finds .primary (ls ++ ⟨.symbol .lbracket, a, b⟩ :: (us ++ [⟨.symbol .rbracket, c, d⟩]))
      (.mkItem obj index d) := by
  refine h.suffix (.mkItem · index d) (List.cons_ne_nil _ _) fun bound rest hbound => ?_
  simp only [List.cons_append, List.append_assoc, List.nil_append] at hbound ⊢
  have hinside := h'.inside (Nat.lt_of_succ_le hbound) (follows_of_none rfl)
  have hsubscript : subscript (within bound)
      (⟨.symbol .lbracket, a, b⟩ :: (us ++ ⟨.symbol .rbracket, c, d⟩ :: rest)) =
        some ((.mkItem · index d), rest) := by
    simp [subscript, upper, optional, just, hinside]
  rw [Descent.suffix, choice_of_none rfl, choice_of_none rfl, choice_of_some hsubscript]

/-- A bound of a slice, if it is there. -/
theorem optional_within {o : Option (List Lexeme × Expr)} (h : ∀ x ∈ o, Finds .conditional x.1 x.2)
    {closer : Symbol} (hcloser : closer ∈ closers) {bound c d : Nat} {rest : List Lexeme}
    (hlt : (o.elim [] Prod.fst ++ ⟨.symbol closer, c, d⟩ :: rest).length < bound) :
    optional (within bound) (o.elim [] Prod.fst ++ ⟨.symbol closer, c, d⟩ :: rest) =
      (o.map Prod.snd, ⟨.symbol closer, c, d⟩ :: rest) := by
  cases o with
  | none =>
    have hnone := within_eq_none (not_begins_closer hcloser) bound rest c d
    rw [optional, Option.elim_none, List.nil_append, hnone]
    rfl
  | some x =>
    have hsome := (h x rfl).inside hlt (follows_of_none (continued?_closer hcloser))
    rw [optional, Option.elim_some, hsome]
    rfl

/-- A slice, once its bounds are read. -/
theorem subscript_slice {p : Parser Expr} {low high : Option Expr} {inside rest : List Lexeme} {c d : Nat}
    (hlow : optional p inside = (low, us))
    (hhigh : optional (upper p) us = (some high, ⟨.symbol .rbracket, c, d⟩ :: rest)) (a b : Nat) :
    subscript p (⟨.symbol .lbracket, a, b⟩ :: inside) =
      some ((.mkSlice · (low.getD .absent) (high.getD .absent) d), rest) := by
  cases low <;> simp [subscript, just, hlow, hhigh]

theorem getD_map_snd (o : Option (List Lexeme × Expr)) :
    (o.map Prod.snd).getD .absent = o.elim .absent Prod.snd := by
  cases o <;> rfl

/-- Two bounds in brackets, of which each may be missing. -/
theorem Finds.slice {low high : Option (List Lexeme × Expr)} (h : Finds .primary ls obj)
    (hlow : ∀ x ∈ low, Finds .conditional x.1 x.2) (hhigh : ∀ x ∈ high, Finds .conditional x.1 x.2)
    (a b c d a' b' : Nat) :
    Finds .primary
      (ls ++ ⟨.symbol .lbracket, a, b⟩ :: ((low.elim [] Prod.fst ++ [⟨.symbol .colon, c, d⟩]) ++
        (high.elim [] Prod.fst ++ [⟨.symbol .rbracket, a', b'⟩])))
      (.mkSlice obj (low.elim .absent Prod.snd) (high.elim .absent Prod.snd) b') := by
  refine h.suffix (.mkSlice · (low.elim .absent Prod.snd) (high.elim .absent Prod.snd) b')
    (List.cons_ne_nil _ _) fun bound rest hbound => ?_
  simp only [List.cons_append, List.append_assoc, List.nil_append] at hbound ⊢
  have hlt := Nat.lt_of_succ_le hbound
  have hlt' : (high.elim [] Prod.fst ++ ⟨.symbol .rbracket, a', b'⟩ :: rest).length < bound := by
    simp only [List.length_append, List.length_cons] at hlt ⊢
    omega
  have hlower := optional_within hlow (by decide) hlt
  have hupper : optional (upper (within bound))
      (⟨.symbol .colon, c, d⟩ :: (high.elim [] Prod.fst ++ ⟨.symbol .rbracket, a', b'⟩ :: rest)) =
        (some (high.map Prod.snd), ⟨.symbol .rbracket, a', b'⟩ :: rest) := by
    simp [optional.eq_1 (upper _), upper, just, optional_within hhigh (by decide) hlt']
  have hsubscript := subscript_slice hlower hupper a b
  rw [getD_map_snd, getD_map_snd] at hsubscript
  rw [Descent.suffix, choice_of_none rfl, choice_of_none rfl, choice_of_some hsubscript]

section Positional

variable {p : Parser Expr} {e : Expr} (h : Spells .conditional ls e)

include h

/-- An argument that is passed by its position is not taken for one behind stars. -/
theorem marked_eq_none {symbol : Symbol} {kind : ArgKind}
    (hsymbol : symbol ∉ [.lparen, .lbracket, .lbrace, .minus, .tilde]) (rest : List Lexeme) :
    marked (.symbol symbol) kind p (ls ++ rest) = none := by
  obtain ⟨l, ls', rfl, hbegins⟩ := h.exists_head
  have hne : l.token ≠ .symbol symbol := by
    intro htoken
    rw [htoken] at hbegins
    exact hsymbol hbegins.symbol_mem
  rw [marked, List.cons_append, just_eq_none hne]
  rfl

/-- An argument that is passed by its position is not taken for one that is passed by its name. -/
theorem named_eq_none {l : Lexeme} (hl : l.token ≠ .symbol .assign) (rest : List Lexeme) :
    named p (ls ++ l :: rest) = none := by
  obtain ⟨⟨token, a, b⟩, ls', rfl, -⟩ := h.exists_head
  cases token with
  | ident n =>
    -- behind a name comes the next token of the phrase, or what follows if the name is all of it
    have hmarked : marked (.symbol .assign) (.keyword n) p (ls' ++ l :: rest) = none := by
      cases ls' with
      | nil => rw [marked, List.nil_append, just_eq_none hl]; rfl
      | cons l' ls' => rw [marked, List.cons_append, just_eq_none h.second_ne_assign]; rfl
    exact hmarked
  | _ => rfl

end Positional

/-- An argument is read with its kind. -/
theorem Finds.takes_arg {e : Expr} (h : Finds .conditional ls e) (part : Spells .conditional ls e)
    {kind : ArgKind}
    (hws : ws.map Lexeme.token = kind.tokens) (bound : Nat) :
    Takes (arg (within bound)) bound (.symbol .rparen) (ws ++ ls) (kind, e) := by
  intro l rest hlt hl
  have hfollows : Follows condLevel (l :: rest) := by
    refine follows_of_none ?_
    rcases hl with hl | hl <;> rw [hl] <;> rfl
  have hinside : within bound (ls ++ l :: rest) = some (e, l :: rest) := by
    refine h.inside ?_ hfollows
    simp only [List.length_append] at hlt ⊢
    omega
  rw [List.append_assoc]
  cases kind with
  | starStar =>
    obtain ⟨a, b, rfl⟩ := exists_eq_singleton_of_tokens hws
    refine choice_of_some ?_
    simp [marked, just, hinside]
  | star =>
    obtain ⟨a, b, rfl⟩ := exists_eq_singleton_of_tokens hws
    rw [arg, choice_of_none rfl]
    refine choice_of_some ?_
    simp [marked, just, hinside]
  | keyword n =>
    obtain ⟨a, b, ws, rfl, hws'⟩ := exists_eq_cons_of_tokens hws
    obtain ⟨c, d, rfl⟩ := exists_eq_singleton_of_tokens hws'
    rw [arg, choice_of_none rfl, choice_of_none rfl]
    refine choice_of_some ?_
    simp [named, ident, marked, just, hinside]
  | positional =>
    -- all three alternatives before this one have to fail
    obtain rfl := List.map_eq_nil_iff.mp hws
    have hassign : l.token ≠ .symbol .assign := by
      rcases hl with hl | hl <;> rw [hl] <;> decide
    rw [List.nil_append, arg, choice_of_none (marked_eq_none part (by decide) _),
      choice_of_none (marked_eq_none part (by decide) _),
      choice_of_none (named_eq_none part hassign rest)]
    refine choice_of_some ?_
    simp [positional, hinside]

/-- Arguments in parentheses. -/
theorem Finds.call {callee : Expr} {args : List ((List Lexeme × ArgKind) × List Lexeme × Expr)}
    (h : Finds .primary ls callee) (hwords : ∀ x ∈ args, x.1.1.map Lexeme.token = x.1.2.tokens)
    (parts : ∀ x ∈ args, Spells .conditional x.2.1 x.2.2)
    (hargs : ∀ x ∈ args, Finds .conditional x.2.1 x.2.2)
    (hsep : Separated (fun l => l.token = .symbol .comma) (args.map fun x => x.1.1 ++ x.2.1) us)
    (a b c d : Nat) :
    Finds .primary (ls ++ ⟨.symbol .lparen, a, b⟩ :: (us ++ [⟨.symbol .rparen, c, d⟩]))
      (.mkCall callee (args.map fun x => (x.1.2, x.2.2)) d) := by
  refine h.suffix (.mkCall · (args.map fun x => (x.1.2, x.2.2)) d) (List.cons_ne_nil _ _)
    fun bound rest hbound => ?_
  simp only [List.cons_append, List.append_assoc, List.nil_append] at hbound ⊢
  have hcloser : Symbol.rparen ∈ closers := by decide
  -- the arguments end at the parenthesis, where no alternative reads anything
  have hend : arg (within bound) (⟨.symbol .rparen, c, d⟩ :: rest) = none := by
    have hnone := within_eq_none (not_begins_closer hcloser) bound rest c d
    rw [arg, choice_of_none rfl, choice_of_none rfl, choice_of_none rfl, choice_of_none ?_]
    · rfl
    · rw [positional, hnone]
      rfl
  have htakes : ∀ part ∈ args.map fun x => (x.1.1 ++ x.2.1, x.1.2, x.2.2),
      Takes (arg (within bound)) bound (.symbol .rparen) part.1 part.2 :=
    List.forall_mem_map.mpr fun x hx => (hargs x hx).takes_arg (parts x hx) (hwords x hx) bound
  have hinside := items_eq (closer_ne_comma hcloser) hend (by rwa [List.map_map]) htakes
    (Nat.lt_of_succ_le hbound)
  rw [List.map_map] at hinside
  have hcall : Descent.call (within bound)
      (⟨.symbol .lparen, a, b⟩ :: (us ++ ⟨.symbol .rparen, c, d⟩ :: rest)) =
        some ((.mkCall · (args.map fun x => (x.1.2, x.2.2)) d), rest) := by
    simp [Descent.call, just, hinside, Function.comp_def]
  rw [Descent.suffix, choice_of_none rfl, choice_of_some hcall]

end Suffixes

end Descent

/-! ### The two parsers agree -/

/-- **What is spelled on a layer is found by the parser of the layer.** -/
theorem Spells.finds {layer : Layer} {ls : List Lexeme} {e : Expr} (h : Spells layer ls e) :
    Descent.Finds layer ls e := by
  induction h with
  | tighter h part ih => exact ih.tighter h part
  | cond a b c d part part' part'' ih ih' ih'' => exact ih.cond ih' ih'' a b c d
  | binary hop h hword part part' ih ih' => exact ih.binary ih' hop h hword part'
  | unary a b hop part ih => exact ih.unary hop a b
  | attr name a b c d part ih => exact ih.attr name a b c d
  | call a b c d part hwords parts hsep ih ihs => exact ih.call hwords parts ihs hsep a b c d
  | item a b c d part part' ih ih' => exact ih.item ih' a b c d
  | slice a b c d a' b' part parts parts' ih ihs ihs' => exact ih.slice ihs ihs' a b c d a' b'
  | literal h => exact Descent.finds_literal h
  | name name a b => exact Descent.finds_name name a b
  | paren a b c d part ih => exact ih.paren a b c d
  | list a b c d parts hsep ihs => exact Descent.finds_list ihs hsep a b c d
  | emptySet a b c d a' b' => exact Descent.finds_emptySet a b c d a' b'
  | set a b c d hne parts hsep ihs => exact Descent.finds_set ihs hsep parts hne a b c d

namespace Descent

/-- **Descent reads all that is spelled.** -/
theorem parse_of_spells {ls : List Lexeme} {e : Expr} (h : Spells .conditional ls e) :
    parse ls = some e := by
  have hfinds := h.finds ls.length [] (by simp) nofun
  rw [List.append_nil, ← expr_eq, loop_eq_of_nil rfl rfl] at hfinds
  rw [parse, hfinds]

/-- **Descent and the stack of unfinished constructs read the same expressions**, for every sequence of
tokens: they accept the same sequences, and the trees are the same, places and all. -/
theorem parse_eq (length : Nat) (ls : List Lexeme) :
    parse ls = (Expr.ofTokens length ls).toOption := by
  cases hof : Expr.ofTokens length ls with
  | ok e => exact parse_of_spells (Expr.spells_of_ofTokens hof)
  | error err =>
    -- what descent reads is an operand, and the other parser accepts every operand
    refine Option.eq_none_iff_forall_ne_some.mpr fun e hparse => ?_
    have hok := Expr.ofTokens_of_operand length (operand_of_parse hparse)
    rw [hof] at hok
    cases hok

/-- The expression that a text spells, by descent over its tokens. -/
theorem toOption_parse (source : String) :
    (Expr.parse source).toOption = (Token.scan source).toOption.bind parse := by
  rw [Expr.parse]
  split
  · next hscan => rw [hscan]; rfl
  · next tokens hscan =>
    rw [hscan, ← parse_eq]
    rfl

end Descent

end QueryExpr
