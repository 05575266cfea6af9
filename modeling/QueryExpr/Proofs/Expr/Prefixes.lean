import QueryExpr.Proofs.Expr.Recognition

/-!
# Where a text stops being an expression

Tokens are *viable* if some tokens can follow them so that all of them together are an expression. This
module shows that the parser reads on for exactly as long as its tokens are viable, so that a syntax
error is at the first token with which no expression can go on.

One half is about the parser's stack. Every construct on it can be completed as soon as it has its
operand (`Begun.exists_phrase`), and what comes of it is an operand that the construct below admits; so
from each situation that the parser can reach there is a way to the end of an expression
(`Reached.viable`). The other half needs no look at the stack: the parser accepts every expression, and
it reads tokens from left to right, so tokens that it refuses do not begin one
(`not_viable_of_refused`).
-/

namespace QueryExpr

/-- Some tokens can follow, so that all of them are an expression. -/
def Viable (ts : List Token) : Prop := ∃ us t, Derives .conditional (ts ++ us) t

theorem Viable.of_append {ts : List Token} (us : List Token) (h : Viable (ts ++ us)) : Viable ts := by
  obtain ⟨vs, t, ht⟩ := h
  refine ⟨us ++ vs, t, ?_⟩
  rwa [List.append_assoc] at ht

namespace Parse

/-! ### Completing what has begun -/

section Completion

variable {f : Frame} {frames : List Frame} {layer : Layer} {e : Expr} {ts us back : List Token}

/-- **A construct can be completed behind its operand**, and becomes a phrase of the level that it is
meant for. Operators are complete as they are; brackets are closed, and a test gets its `else` and a
name for the last branch. -/
theorem Begun.exists_phrase (h : Begun f us) (hback : Derives layer back e.unplaced)
    (hdemand : f.demand ≤ layer.level) :
    ∃ vs layer' e', Derives layer' (us ++ (back ++ vs)) (Expr.unplaced e') ∧
      layer'.level = f.yields := by
  -- inside brackets any operand will do
  have hany : Derives .conditional back e.unplaced := hback.loosen .conditional (Nat.zero_le _)
  cases h with
  | @binary layer' op ts left hop part =>
    have hlevel : op.level = layer'.level := (Layer.level_of_mem_operators hop).1
    have hlt : layer'.level < layer.level := by
      rw [← hlevel]
      exact hdemand
    obtain ⟨next, hnext, -, hle⟩ := Layer.exists_tighter? hlt
    have hright : Derives next back e.unplaced := hback.loosen next hle
    refine ⟨[], layer', .mkBinary op left e, ?_, hlevel.symm⟩
    rw [List.append_nil, List.append_assoc]
    exact .binary hop hnext part hright
  | @unary layer' op hop start =>
    have hlevel : op.level = layer'.level := Layer.level_of_mem_signs hop
    have hobj : Derives layer' back e.unplaced := by
      refine hback.loosen layer' ?_
      rw [← hlevel]
      exact hdemand
    refine ⟨[], layer', .mkUnary op start e, ?_, hlevel.symm⟩
    rw [List.append_nil, List.singleton_append]
    exact .unary hop hobj
  | @test ts yes part =>
    have htest : Derives .disjunction back e.unplaced := hback.loosen .disjunction hdemand
    have hno : Derives .conditional [.ident "x"] (Expr.name .nowhere "x") :=
      (Derives.name "x").loosen .conditional (Nat.zero_le _)
    refine ⟨[.keyword .elseWord, .ident "x"], .conditional, .mkCond yes e (.name .nowhere "x"),
      ?_, rfl⟩
    rw [List.append_assoc]
    exact .cond part htest hno
  | @otherwise ts ts' yes test part part' =>
    refine ⟨[], .conditional, .mkCond yes test e, ?_, rfl⟩
    have htokens : ts ++ .keyword .ifWord :: (ts' ++ [.keyword .elseWord]) ++ (back ++ []) =
        ts ++ .keyword .ifWord :: (ts' ++ .keyword .elseWord :: back) := by simp
    rw [htokens]
    exact .cond part part' hany
  | paren start =>
    exact ⟨[.symbol .rparen], .primary, _, (Begun.paren start).last_paren hany 0, rfl⟩
  | list parts start =>
    exact ⟨[.symbol .rbracket], .primary, _, (Begun.list parts start).last_list hany .nowhere, rfl⟩
  | set parts start =>
    exact ⟨[.symbol .rbrace], .primary, _, (Begun.set parts start).last_set hany .nowhere, rfl⟩
  | call part parts kind =>
    exact ⟨[.symbol .rparen], .primary, _, (Begun.call part parts kind).last_call hany 0, rfl⟩
  | subscript part start =>
    exact ⟨[.symbol .rbracket], .primary, _, (Begun.subscript part start).last_item hany 0, rfl⟩
  | slice part bound =>
    exact ⟨[.symbol .rbracket], .primary, _, (Begun.slice part bound).end_slice (.inr hany) 0, rfl⟩

/-- **All constructs on the stack can be completed**, from the innermost one on. -/
theorem Covers.viable (h : Covers frames ts) (hback : Derives layer back e.unplaced)
    (hdemand : demand frames ≤ layer.level) : Viable (ts ++ back) := by
  -- what the topmost construct becomes is the operand of the one below it
  induction h generalizing layer back e with
  | nil =>
    refine ⟨[], e.unplaced, ?_⟩
    rw [List.append_nil, List.nil_append]
    exact hback.loosen .conditional (Nat.zero_le _)
  | @cons f fs ts us below fits frame ih =>
    obtain ⟨vs, layer', e', hphrase, hlevel⟩ := frame.exists_phrase hback hdemand
    have hbelow : Viable (ts ++ (us ++ (back ++ vs))) := ih hphrase (by rw [hlevel]; exact fits)
    refine Viable.of_append vs ?_
    simpa only [List.append_assoc] using hbelow

theorem PrimaryAt.viable (h : PrimaryAt frames e ts) : Viable ts := by
  obtain ⟨front, back, rfl, hcovers, hback⟩ := h
  exact hcovers.viable hback (Nat.le_trans hcovers.demand_le (by decide))

/-- Where an operand is wanted a name may follow. -/
theorem Covers.viable_self (h : Covers frames ts) : Viable ts := by
  have hname : PrimaryAt frames (.name .nowhere "x") (ts ++ [.ident "x"]) :=
    ⟨ts, [.ident "x"], rfl, h, .name "x"⟩
  exact hname.viable.of_append [.ident "x"]

/-- **From every situation that the parser reaches there is a way to the end of an expression.** -/
theorem Reached.viable {s : State} (h : Reached s ts) : Viable ts := by
  cases s with
  | want frames opening => exact h.1.viable_self
  | complete frames e single => exact h.1.viable
  | emptySet frames start =>
    -- the brace of the empty set
    obtain ⟨front, rfl, hcovers⟩ := h
    have hset : PrimaryAt frames (.set .nowhere [])
        (front ++ [.symbol .lbrace, .symbol .slash, .symbol .rbrace]) :=
      ⟨front, _, rfl, hcovers, .emptySet⟩
    refine Viable.of_append [.symbol .rbrace] ?_
    rw [List.append_assoc]
    exact hset.viable
  | member frames obj =>
    -- the name of an attribute
    obtain ⟨_, rfl, front, back, rfl, hcovers, hobj⟩ := h
    have hattr : PrimaryAt frames (.mkAttr obj "x" 0)
        (front ++ (back ++ [.symbol .dot, .ident "x"])) :=
      ⟨front, _, rfl, hcovers, .attr "x" hobj⟩
    refine Viable.of_append [.ident "x"] ?_
    simpa only [List.append_assoc, List.cons_append, List.nil_append] using hattr.viable
  | notIn frames e =>
    -- the word `in`, and then an operand is wanted
    obtain ⟨front, rfl, hprimary⟩ := h
    have hitem : BinaryOp.notContains ≠ .item := by decide
    have hreached : Reached (applyBinary .notContains frames e .plain)
        (front ++ [.keyword .not, .keyword .inside]) := hprimary.applyBinary hitem (.inl rfl)
    refine Viable.of_append [.keyword .inside] ?_
    rw [List.append_assoc]
    exact hreached.1.viable_self

end Completion

/-! ### Tokens up to a refusal -/

section Refusal

variable {s s' : State} {ls front : List Lexeme} {l : Lexeme} {ts : List Token}

theorem Leads.reached (h : Leads s ls s') (hs : Reached s ts) :
    Reached s' (ts ++ ls.map Lexeme.token) := by
  induction ls generalizing s ts with
  | nil =>
    cases h
    rwa [List.map_nil, List.append_nil]
  | cons l ls ih =>
    rw [Leads, List.foldlM_cons] at h
    cases hstep : step s l with
    | error r => rw [hstep] at h; cases h
    | ok s₁ =>
      rw [hstep] at h
      have hrest := ih h (step_reached hs hstep)
      rwa [List.append_assoc, List.singleton_append] at hrest

theorem reached_of_leads_initial (h : Leads initial ls s) : Reached s (ls.map Lexeme.token) := by
  have hinitial : Reached initial [] := ⟨.nil, trivial⟩
  exact h.reached hinitial

/-- The error of a refused token. -/
def Refusal.error (l : Lexeme) : Refusal → SyntaxError
  | .unexpected => .unexpected l.start l.token
  | .noIndex start => .noIndex start

theorem run_cons_of_refused {r : Refusal} (h : step s l = .error r) (length : Nat) (rest : List Lexeme) :
    run length s (l :: rest) = .error (r.error l) := by
  rw [run, h]
  cases r <;> rfl

/-- **Tokens up to a refused one do not begin an expression**, whatever follows: it would be accepted,
but the parser does not get past the refusal. -/
theorem not_viable_of_refused {r : Refusal} (h : Leads initial front s) (hstep : step s l = .error r) :
    ¬ Viable ((front ++ [l]).map Lexeme.token) := by
  rintro ⟨us, t, ht⟩
  let rest : List Lexeme := us.map fun u => ⟨u, 0, 0⟩
  have htokens : ((front ++ [l]) ++ rest).map Lexeme.token = (front ++ [l]).map Lexeme.token ++ us := by
    rw [List.map_append, List.map_map]
    exact congrArg _ (List.map_id us)
  rw [← htokens] at ht
  obtain ⟨e, haccepted, -⟩ := Expr.exists_ofTokens_of_derives 0 ht
  rw [Expr.ofTokens, List.append_assoc, h.run_append, List.singleton_append,
    run_cons_of_refused hstep] at haccepted
  cases haccepted

/-- **Where an error comes from**: the text ends too early, or a token is refused. -/
theorem exists_of_run_error {length : Nat} {error : SyntaxError} (h : run length s ls = .error error) :
    (∃ s', Leads s ls s' ∧ error = .unfinished length) ∨
      ∃ front l back s' r, ls = front ++ l :: back ∧ Leads s front s' ∧ step s' l = .error r ∧
        error = r.error l := by
  induction ls generalizing s with
  | nil =>
    rw [run] at h
    split at h
    · cases h
    · cases h
      exact .inl ⟨s, .nil s, rfl⟩
  | cons l ls ih =>
    cases hstep : step s l with
    | error r =>
      rw [run_cons_of_refused hstep] at h
      cases h
      exact .inr ⟨[], l, ls, s, r, rfl, .nil s, hstep, rfl⟩
    | ok s₁ =>
      rw [run, hstep] at h
      rcases ih h with ⟨s', hleads, herror⟩ | ⟨front, l', back, s', r, rfl, hleads, hrefused, herror⟩
      · exact .inl ⟨s', .cons s₁ hstep hleads, herror⟩
      · exact .inr ⟨l :: front, l', back, s', r, rfl, .cons s₁ hstep hleads, hrefused, herror⟩

/-! ### Subscripts without an index -/

/-- A missing index is found at the bracket that closes the subscript. -/
theorem exists_of_step_noIndex {start : Nat} (h : step s l = .error (.noIndex start)) :
    l.token = .symbol .rbracket ∧ ∃ obj fs, s = .want (.subscript obj start :: fs) .index := by
  cases s with
  | want frames opening =>
    rw [step] at h
    unfold stepWant at h
    split at h
    · cases h
    · -- one clause only gives this refusal
      split at h <;> try cases h
      · split at h <;> cases h
      · exact ⟨‹l.token = .symbol .rbracket›, _, _, rfl⟩
  | complete frames e single =>
    -- behind an operand nothing but an unexpected token is refused
    have hclose : ∀ r, stepClose frames e l = .error r → r = .unexpected := by
      intro r hr
      unfold stepClose at hr
      split at hr <;> first | (split at hr <;> cases hr <;> rfl) | (cases hr; rfl)
    rw [step] at h
    split at h
    · unfold stepAssign at h
      split at h <;> cases h
    · split at h
      · cases h
      · cases hclose _ h
  | emptySet frames start =>
    rw [step] at h
    split at h <;> cases h
  | member frames obj =>
    rw [step] at h
    split at h <;> cases h
  | notIn frames e =>
    rw [step] at h
    split at h <;> cases h

/-- A subscript is begun by its bracket. -/
theorem token_of_step_subscript {obj : Expr} {start : Nat} {fs : List Frame}
    (h : step s l = .ok (.want (.subscript obj start :: fs) .index)) :
    l.token = .symbol .lbracket ∧ l.start = start := by
  cases s with
  | want frames opening =>
    cases stepWant_cases h with
    | opens move => cases move
    | goesOn top move => cases move
  | complete frames e single =>
    rw [step] at h
    split at h
    · unfold stepAssign at h
      split at h <;> cases h
    · split at h
      · next hoperator =>
        cases h
        unfold stepOperator at hoperator
        split at hoperator
        · cases hoperator
        · cases hoperator
        · next htoken => cases hoperator; exact ⟨htoken, rfl⟩
        · cases hoperator
        · cases hoperator
        · obtain ⟨op, -, happly⟩ := Option.map_eq_some_iff.mp hoperator
          cases happly
      · cases stepClose_cases h with
        | takesUp closed move => cases move
  | emptySet frames start =>
    rw [step] at h
    split at h <;> cases h
  | member frames obj =>
    rw [step] at h
    split at h <;> cases h
  | notIn frames e =>
    rw [step] at h
    split at h <;> cases h

theorem exists_of_leads_subscript {obj : Expr} {start : Nat} {fs : List Frame}
    (h : Leads initial ls (.want (.subscript obj start :: fs) .index)) :
    ∃ front l, ls = front ++ [l] ∧ l.token = .symbol .lbracket ∧ l.start = start := by
  -- the situation is not the first one, so there is a last token
  rcases List.eq_nil_or_concat ls with rfl | ⟨front, l, rfl⟩
  · cases h
  · rw [List.concat_eq_append] at h ⊢
    rw [Leads, List.foldlM_append] at h
    cases hfront : front.foldlM step initial with
    | error r => rw [hfront] at h; cases h
    | ok s =>
      rw [hfront] at h
      have hlast : step s l = .ok (.want (.subscript obj start :: fs) .index) := by
        change (step s l >>= fun s' => pure s') = _ at h
        rwa [bind_pure] at h
      exact ⟨front, l, rfl, token_of_step_subscript hlast⟩

end Refusal

end Parse

/-! ### Places of tokens -/

namespace Lexes

variable {text : List Char} {p : Nat} {ls front back : List Lexeme} {l : Lexeme}

theorem stop_le (h : Lexes text p ls) : p ≤ Text.byteLength text ∧
    ∀ l ∈ ls, p ≤ l.start ∧ l.start < l.stop ∧ l.stop ≤ Text.byteLength text := by
  induction h with
  | done gap => exact ⟨gap.le, List.forall_mem_nil _⟩
  | @token p l ls word gap slice spells rest ih =>
    have hle := gap.le
    have hlt : l.start < l.stop := by
      refine Nat.lt_of_le_of_ne (Text.le_of_slice? slice) fun heq => ?_
      -- a token is not empty
      rw [heq] at slice
      exact spells.1 (Text.eq_nil_of_slice?_self slice)
    refine ⟨by omega, List.forall_mem_cons.mpr ⟨⟨hle, hlt, ih.1⟩, fun l' hl' => ?_⟩⟩
    obtain ⟨hstart, hword, hstop⟩ := ih.2 l' hl'
    exact ⟨by omega, hword, hstop⟩

/-- Tokens do not overlap. -/
theorem stop_le_start (h : Lexes text p (front ++ l :: back)) : ∀ l' ∈ front, l'.stop ≤ l.start := by
  induction front generalizing p with
  | nil => exact List.forall_mem_nil _
  | cons first front ih =>
    cases h with
    | token gap slice spells rest =>
      have hfirst := (rest.stop_le.2 l (List.mem_append_right _ List.mem_cons_self)).1
      exact List.forall_mem_cons.mpr ⟨hfirst, ih rest⟩

end Lexes

namespace Expr

open Parse

/-- **A syntax error is at the first token with which no expression can go on.** For a text that has
tokens but is no expression one error is reported. Unless it is about a subscript without index, either
the error is at a token such that the tokens before it begin an expression, and together with it they
do not, or all tokens begin an expression and the error is at the end of the text. It is at the end
whenever all tokens begin an expression. A subscript without index is one whose brackets follow each
other, and its error is at the first of them. -/
theorem parse_error_at_first_impossible_token {source : String} {tokens : List Lexeme}
    (hscan : Token.scan source = .ok tokens) (hparse : ∀ e, parse source ≠ .ok e) :
    ∃ error, parse source = .error error ∧
      ((∀ start, error ≠ .noIndex start) →
        (∃ front l back, tokens = front ++ l :: back ∧ l.start = error.offset ∧
          (∀ l' ∈ front, l'.stop ≤ error.offset) ∧ Viable (front.map Lexeme.token) ∧
          ¬ Viable ((front ++ [l]).map Lexeme.token)) ∨
        (Viable (tokens.map Lexeme.token) ∧ error.offset = Text.byteLength source.toList)) ∧
      (Viable (tokens.map Lexeme.token) → error.offset = Text.byteLength source.toList) ∧
      ∀ start, error = .noIndex start →
        ∃ front opener closer back, tokens = front ++ opener :: closer :: back ∧
          opener.token = .symbol .lbracket ∧ opener.start = start ∧
          closer.token = .symbol .rbracket ∧
          Viable ((front ++ [opener]).map Lexeme.token) ∧
          ¬ Viable ((front ++ [opener, closer]).map Lexeme.token) := by
  have hlexes := Token.lexes_of_scan hscan
  have htokens : parse source = ofTokens (Text.byteLength source.toList) tokens := by
    rw [parse, hscan]
  cases herror : ofTokens (Text.byteLength source.toList) tokens with
  | ok e => exact absurd (htokens.trans herror) (hparse e)
  | error error =>
    refine ⟨error, htokens.trans herror, ?_⟩
    rcases exists_of_run_error herror with
      ⟨s, hleads, rfl⟩ | ⟨front, l, back, s, r, rfl, hleads, hrefused, rfl⟩
    · -- all tokens are read, but more are wanted
      have hviable := (reached_of_leads_initial hleads).viable
      exact ⟨fun _ => .inr ⟨hviable, rfl⟩, fun _ => rfl, nofun⟩
    · have hfront := (reached_of_leads_initial hleads).viable
      have hrefuted := not_viable_of_refused hleads hrefused
      -- what begins with refused tokens is refused as a whole
      have hall : ¬ Viable ((front ++ l :: back).map Lexeme.token) := by
        intro hviable
        refine hrefuted (Viable.of_append (back.map Lexeme.token) ?_)
        rwa [← List.map_append, List.append_assoc, List.singleton_append]
      cases r with
      | unexpected =>
        refine ⟨fun _ => .inl ⟨front, l, back, rfl, rfl, ?_, hfront, hrefuted⟩,
          fun hviable => absurd hviable hall, nofun⟩
        exact hlexes.stop_le_start
      | noIndex start =>
        refine ⟨fun hne => absurd rfl (hne start), fun hviable => absurd hviable hall, ?_⟩
        rintro _ ⟨⟩
        obtain ⟨hcloser, obj, fs, rfl⟩ := exists_of_step_noIndex hrefused
        obtain ⟨before, opener, rfl, hopener, hstart⟩ := exists_of_leads_subscript hleads
        refine ⟨before, opener, l, back, by simp, hopener, hstart, hcloser, hfront, ?_⟩
        simpa using hrefuted

/-- Behind an operand the word `not` may still go on with `in`, so the error is not there but at the
name that follows, although the call around it is closed later. -/
theorem parse_error_behind_not :
    ∃ error, parse "f(a not b)" = .error error ∧ error.offset = 8 ∧
      Viable [.ident "f", .symbol .lparen, .ident "a", .keyword .not] ∧
      ¬ Viable [.ident "f", .symbol .lparen, .ident "a", .keyword .not, .ident "b"] := by
  let tokens : List Lexeme := [⟨.ident "f", 0, 1⟩, ⟨.symbol .lparen, 1, 2⟩, ⟨.ident "a", 2, 3⟩,
    ⟨.keyword .not, 4, 7⟩, ⟨.ident "b", 8, 9⟩, ⟨.symbol .rparen, 9, 10⟩]
  have hscan : Token.scan "f(a not b)" = .ok tokens := by rfl
  have herror : parse "f(a not b)" = .error (.unexpected 8 (.ident "b")) := by rfl
  have hparse : ∀ e, parse "f(a not b)" ≠ .ok e := by
    intro e he
    rw [herror] at he
    cases he
  obtain ⟨error, heq, hplace, -, -⟩ := parse_error_at_first_impossible_token hscan hparse
  obtain rfl : SyntaxError.unexpected 8 (.ident "b") = error := Except.error.inj (herror.symm.trans heq)
  refine ⟨_, heq, rfl, ?_⟩
  rcases hplace nofun with ⟨front, l, back, htokens, hstart, -, hviable, hrefuted⟩ | ⟨-, hend⟩
  · -- the offset tells which token it is
    have hget : tokens[front.length]? = some l := by
      rw [htokens, List.getElem?_append_right (Nat.le_refl _), Nat.sub_self]
      rfl
    have hindex : ∀ n < tokens.length, tokens[n]?.map Lexeme.start = some 8 → n = 4 := by decide
    have hlt : front.length < tokens.length := (List.getElem?_eq_some_iff.mp hget).1
    have hlength : front.length = 4 := hindex _ hlt (by rw [hget]; exact congrArg some hstart)
    obtain rfl : front = tokens.take 4 := by rw [← hlength, htokens, List.take_left]
    obtain rfl : ⟨.ident "b", 8, 9⟩ = l := Option.some.inj hget
    exact ⟨hviable, hrefuted⟩
  · exact absurd hend (by decide)

end Expr

end QueryExpr
