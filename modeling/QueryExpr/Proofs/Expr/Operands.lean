import QueryExpr.Expr.Parse

/-!
# What the parser reads as one operand

`Operand level ls e` says that the tokens `ls` spell the operand `e` of a level: from any situation that
demands no tighter level the parser reads them completely. What it has on its stack then need not be
the finished tree, since an operator is completed only when a later token asks for it; so the tree is
compared after closing (`close`), at every level that a token behind the operand may ask for.

There is one lemma for each form of the grammar, which puts the form together out of its operands. An
operand without operators of its own has the level 13, above all operators: there closing changes
nothing, and the stack is what it was.
-/

namespace QueryExpr

/-- The tokens of an operator between its operands; item access has none. -/
def BinaryOp.tokens : BinaryOp → List Token
  | .eq => [.symbol .eqEq]
  | .ne => [.symbol .ne]
  | .lt => [.symbol .lt]
  | .le => [.symbol .le]
  | .gt => [.symbol .gt]
  | .ge => [.symbol .ge]
  | .add => [.symbol .plus]
  | .sub => [.symbol .minus]
  | .mul => [.symbol .star]
  | .trueDiv => [.symbol .slash]
  | .floorDiv => [.symbol .slashSlash]
  | .mod => [.symbol .percent]
  | .shiftLeft => [.symbol .shiftLeft]
  | .shiftRight => [.symbol .shiftRight]
  | .bitAnd => [.symbol .amp]
  | .bitOr => [.symbol .pipe]
  | .bitXor => [.symbol .caret]
  | .and => [.keyword .and]
  | .or => [.keyword .or]
  | .contains => [.keyword .inside]
  | .notContains => [.keyword .not, .keyword .inside]
  | .is => [.keyword .is]
  | .isNot => [.keyword .is, .keyword .not]
  | .item => []

/-- The token of an operator in front of its operand. -/
def UnaryOp.token : UnaryOp → Token
  | .not => .keyword .not
  | .neg => .symbol .minus
  | .bitNot => .symbol .tilde

/-- The tokens in front of an argument that tell how it is passed. -/
def ArgKind.tokens : ArgKind → List Token
  | .positional => []
  | .keyword name => [.ident name, .symbol .assign]
  | .star => [.symbol .star]
  | .starStar => [.symbol .starStar]

/-- Parts with a mark between them; one more mark may follow the last part. -/
inductive Separated {α : Type} (isMark : α → Prop) : List (List α) → List α → Prop where
  | nil : Separated isMark [] []
  | last (part : List α) : Separated isMark [part] part
  | trailing (part : List α) {mark : α} (h : isMark mark) : Separated isMark [part] (part ++ [mark])
  | cons (part : List α) {mark : α} {parts : List (List α)} {rest : List α} (h : isMark mark)
      (hne : parts ≠ []) (more : Separated isMark parts rest) :
      Separated isMark (part :: parts) (part ++ mark :: rest)

/-! ### Lexemes of given tokens -/

section Lexemes

variable {ls : List Lexeme} {token : Token} {ts : List Token}

theorem exists_eq_cons_of_tokens (h : ls.map Lexeme.token = token :: ts) :
    ∃ a b rest, ls = ⟨token, a, b⟩ :: rest ∧ rest.map Lexeme.token = ts := by
  obtain ⟨⟨_, a, b⟩, rest, rfl, rfl, hrest⟩ := List.map_eq_cons_iff.mp h
  exact ⟨a, b, rest, rfl, hrest⟩

theorem exists_eq_singleton_of_tokens (h : ls.map Lexeme.token = [token]) :
    ∃ a b, ls = [⟨token, a, b⟩] := by
  obtain ⟨⟨_, a, b⟩, rfl, rfl⟩ := List.map_eq_singleton_iff.mp h
  exact ⟨a, b, rfl⟩

/-- What stands between two tokens. -/
theorem exists_eq_between_of_tokens {closer : Token}
    (h : ls.map Lexeme.token = token :: (ts ++ [closer])) :
    ∃ a b inside c d, ls = ⟨token, a, b⟩ :: (inside ++ [⟨closer, c, d⟩]) ∧
      inside.map Lexeme.token = ts := by
  obtain ⟨a, b, rest, rfl, hrest⟩ := exists_eq_cons_of_tokens h
  obtain ⟨inside, back, rfl, hinside, hback⟩ := List.map_eq_append_iff.mp hrest
  obtain ⟨c, d, rfl⟩ := exists_eq_singleton_of_tokens hback
  exact ⟨a, b, inside, c, d, rfl, hinside⟩

end Lexemes

namespace Parse

/-! ### Reading several tokens -/

/-- The tokens lead from one situation to another. -/
def Leads (s : State) (ls : List Lexeme) (s' : State) : Prop := ls.foldlM step s = .ok s'

namespace Leads

theorem nil (s : State) : Leads s [] s := rfl

theorem cons {s s'' : State} {l : Lexeme} {ls : List Lexeme} (s' : State) (h : step s l = .ok s')
    (h' : Leads s' ls s'') : Leads s (l :: ls) s'' := by
  rw [Leads, List.foldlM_cons, h]
  exact h'

theorem append {s s' s'' : State} {ls ls' : List Lexeme} (h : Leads s ls s')
    (h' : Leads s' ls' s'') : Leads s (ls ++ ls') s'' := by
  rw [Leads, List.foldlM_append, show ls.foldlM step s = .ok s' from h]
  exact h'

/-- Tokens that lead to another situation are read, and the rest is read from there. -/
theorem run_append {s s' : State} {ls : List Lexeme} (h : Leads s ls s') (length : Nat)
    (rest : List Lexeme) : Parse.run length s (ls ++ rest) = Parse.run length s' rest := by
  induction ls generalizing s with
  | nil => cases h; rfl
  | cons l ls ih =>
    rw [Leads, List.foldlM_cons] at h
    cases hs : step s l with
    | error r => rw [hs] at h; cases h
    | ok s₁ =>
      rw [hs] at h
      rw [List.cons_append, Parse.run, hs]
      exact ih h

/-- What the tokens lead to decides how the text reads. -/
theorem run {s s' : State} {ls : List Lexeme} (h : Leads s ls s') (length : Nat) :
    Parse.run length s ls = Parse.run length s' [] := by
  rw [← h.run_append length [], List.append_nil]

end Leads

/-! ### Closing -/

/-- Above the levels of all operators nothing is closed. -/
theorem close_of_lt {level : Nat} (h : 12 < level) (frames : List Frame) (e : Expr) :
    close level frames e = (frames, e) := by
  have hbinary : ∀ op : BinaryOp, op.level ≤ 12 := by intro op; cases op <;> decide
  have hunary : ∀ op : UnaryOp, op.level ≤ 12 := by intro op; cases op <;> decide
  cases frames with
  | nil => rfl
  | cons f fs =>
    cases f with
    | binary op left =>
      have := hbinary op
      rw [close, if_neg (by omega)]
    | unary op start =>
      have := hunary op
      rw [close, if_neg (by omega)]
    | otherwise yes test => rw [close, if_neg (by show ¬ level ≤ 0; omega)]
    | _ => rfl

/-- An operator does not close what demands its own level at most. The levels of the operators in front
of an operand are none of a binary operator. -/
theorem close_of_demand (op : BinaryOp) {frames : List Frame} (h : demand frames ≤ op.level)
    (e : Expr) : close op.level frames e = (frames, e) := by
  have hpos : 0 < op.level := by cases op <;> decide
  have hunary : ∀ op' : UnaryOp, op'.level ≠ op.level := by
    intro op'
    cases op' <;> cases op <;> decide
  cases frames with
  | nil => rfl
  | cons f fs =>
    cases f with
    | binary op' left =>
      have : op'.level + 1 ≤ op.level := h
      rw [close, if_neg (by omega)]
    | unary op' start =>
      -- such an operator would close an equal level, but there is none
      have : op'.level ≤ op.level := h
      have := hunary op'
      rw [close, if_neg (by omega)]
    | otherwise yes test => rw [close, if_neg (by show ¬ op.level ≤ 0; omega)]
    | _ => rfl

/-- A token that is no operator goes to the construct around the operand. -/
theorem step_complete {fs : List Frame} {e : Expr} {single : Bool} {token : Token} {start stop : Nat}
    (hassign : token ≠ .symbol .assign) (hop : stepOperator fs e ⟨token, start, stop⟩ = none) :
    step (.complete fs e single) ⟨token, start, stop⟩ = stepClose fs e ⟨token, start, stop⟩ := by
  rw [step, if_neg hassign, hop]

/-! ### Operands -/

/-- The tokens are read as an operand of the level. The word `not` after `is` would be taken for an
operator, so an operand that may begin with it is not read there. -/
def Operand (level : Nat) (ls : List Lexeme) (e : Expr) : Prop :=
  ∀ (frames : List Frame) (opening : Opening), demand frames ≤ level →
    (opening = .identity → notLevel < demand frames) →
    ∃ fs e' single, Leads (.want frames opening) ls (.complete fs e' single) ∧
      ∀ k ≤ level, close k fs e' = close k frames e

/-- The level of an operand without operators of its own. -/
def primaryLevel : Nat := 13

section Operand

variable {level : Nat} {ls : List Lexeme} {e : Expr}

/-- An operand of a tight level can stand where a looser one is demanded. -/
theorem Operand.mono (h : Operand level ls e) {level' : Nat} (hle : level' ≤ level) :
    Operand level' ls e := by
  intro frames opening hdemand hopening
  obtain ⟨fs, e', single, hleads, hclose⟩ := h frames opening (Nat.le_trans hdemand hle) hopening
  exact ⟨fs, e', single, hleads, fun k hk => hclose k (Nat.le_trans hk hle)⟩

/-- A primary leaves the stack as it was. -/
theorem Operand.leads_primary (h : Operand primaryLevel ls e) (frames : List Frame)
    (opening : Opening) (hdemand : demand frames ≤ primaryLevel)
    (hopening : opening = .identity → notLevel < demand frames) :
    ∃ single, Leads (.want frames opening) ls (.complete frames e single) := by
  obtain ⟨fs, e', single, hleads, hclose⟩ := h frames opening hdemand hopening
  -- closing at the level of a primary closes nothing on either side of the equation
  have heq := hclose primaryLevel (Nat.le_refl _)
  rw [close_of_lt (by decide), close_of_lt (by decide)] at heq
  obtain ⟨rfl, rfl⟩ := Prod.mk.inj heq
  exact ⟨single, hleads⟩

/-- Inside brackets and after them nothing is demanded. -/
theorem Operand.leads_inside (h : Operand level ls e) {f : Frame} (hf : f.demand = condLevel)
    (frames : List Frame) {opening : Opening} (hopening : opening ≠ .identity) :
    ∃ fs e' single, Leads (.want (f :: frames) opening) ls (.complete fs e' single) ∧
      close condLevel fs e' = close condLevel (f :: frames) e := by
  obtain ⟨fs, e', single, hleads, hclose⟩ :=
    h (f :: frames) opening (by rw [demand, hf]; exact Nat.zero_le _) (fun h => absurd h hopening)
  exact ⟨fs, e', single, hleads, hclose condLevel (Nat.zero_le _)⟩

/-! ### Atoms -/

/-- A token that is an operand by itself. -/
theorem operand_token {l : Lexeme}
    (h : ∀ frames opening, stepWant frames opening l = .ok (.complete frames e true)) :
    Operand primaryLevel [l] e :=
  fun frames opening _ _ => ⟨frames, e, true, .cons _ (h frames opening) (.nil _), fun _ _ => rfl⟩

theorem operand_literal {l : Lexeme} {value : Literal} (h : l.token.literal? = some value) :
    Operand primaryLevel [l] (.const (.bare l.start l.stop) value) := by
  refine operand_token fun frames opening => ?_
  unfold stepWant
  rw [h]

theorem operand_name (name : String) (start stop : Nat) :
    Operand primaryLevel [⟨.ident name, start, stop⟩] (.name (.bare start stop) name) :=
  operand_token fun _ _ => rfl

/-- Parentheses make a primary of any operand. -/
theorem operand_paren (h : Operand level ls e) (a b c d : Nat) :
    Operand primaryLevel (⟨.symbol .lparen, a, b⟩ :: (ls ++ [⟨.symbol .rparen, c, d⟩]))
      (e.parenthesized a d) := by
  intro frames opening _ _
  have hplain : Opening.plain ≠ .identity := by decide
  obtain ⟨fs, e', single, hleads, hclose⟩ := h.leads_inside (f := .paren a) rfl frames hplain
  -- the closing parenthesis closes everything down to the opening one
  refine ⟨frames, _, false, ?_, fun _ _ => rfl⟩
  refine .cons (.want (.paren a :: frames) .plain) rfl (hleads.append (.cons _ ?_ (.nil _)))
  rw [step_complete (by decide) rfl, stepClose, hclose]
  rfl

theorem operand_emptySet (a b c d a' b' : Nat) :
    Operand primaryLevel
      [⟨.symbol .lbrace, a, b⟩, ⟨.symbol .slash, c, d⟩, ⟨.symbol .rbrace, a', b'⟩]
      (.set (.bare a b') []) :=
  fun frames _ _ _ => ⟨frames, _, false, .cons (.want (.set a [] :: frames) .brace) rfl
    (.cons (.emptySet frames a) rfl (.cons _ rfl (.nil _))), fun _ _ => rfl⟩

/-! ### Items between commas -/

/-- A construct that takes items between commas. -/
structure Series (α : Type) where
  /-- The items so far, newest first. -/
  frame : List α → Frame
  /-- The opening before the first item. -/
  first : Opening
  closer : Token
  /-- The node over its items, with the closing token ending at the given byte. -/
  node : List α → Nat → Expr

/-- The tokens are the next item: behind them a comma takes the item up, and the closing token completes
the construct with it. -/
def Series.Takes {α : Type} (s : Series α) (ls : List Lexeme) (x : α) : Prop :=
  ∀ (xs : List α) (frames : List Frame) (opening : Opening), opening = s.first ∨ opening = .more →
    ∃ fs e single, Leads (.want (s.frame xs :: frames) opening) ls (.complete fs e single) ∧
      (∀ a b, step (.complete fs e single) ⟨.symbol .comma, a, b⟩ =
        .ok (.want (s.frame (x :: xs) :: frames) .more)) ∧
      ∀ a b, step (.complete fs e single) ⟨s.closer, a, b⟩ =
        .ok (.complete frames (s.node (x :: xs).reverse b) false)

/-- The closing token may follow a comma. -/
def Series.Ends {α : Type} (s : Series α) : Prop :=
  ∀ (x : α) (xs : List α) (frames : List Frame) (a b : Nat),
    step (.want (s.frame (x :: xs) :: frames) .more) ⟨s.closer, a, b⟩ =
      .ok (.complete frames (s.node (x :: xs).reverse b) false)

/-- **Items are read to the end of their construct.** -/
theorem Series.leads {α : Type} {s : Series α} (hends : s.Ends)
    {parts : List (List Lexeme × α)} (hparts : ∀ p ∈ parts, s.Takes p.1 p.2) (hne : parts ≠ [])
    {ls : List Lexeme}
    (hsep : Separated (fun l => l.token = .symbol .comma) (parts.map Prod.fst) ls) (xs : List α)
    (frames : List Frame) {opening : Opening} (hopening : opening = s.first ∨ opening = .more)
    (a b : Nat) :
    Leads (.want (s.frame xs :: frames) opening) (ls ++ [⟨s.closer, a, b⟩])
      (.complete frames (s.node (xs.reverse ++ parts.map Prod.snd) b) false) := by
  -- the items that are read are put down in the frame, latest first
  induction parts generalizing ls xs opening with
  | nil => exact absurd rfl hne
  | cons p parts ih =>
    obtain ⟨fs, e, single, hleads, hcomma, hclose⟩ :=
      hparts p List.mem_cons_self xs frames opening hopening
    rw [List.map_cons] at hsep
    generalize htails : parts.map Prod.fst = tails at hsep
    cases hsep with
    | last =>
      obtain rfl := List.map_eq_nil_iff.mp htails
      refine hleads.append (.cons _ ?_ (.nil _))
      rw [hclose, List.reverse_cons]
      rfl
    | @trailing _ mark hmark =>
      obtain ⟨_, c, d⟩ := mark
      cases hmark
      obtain rfl := List.map_eq_nil_iff.mp htails
      rw [List.append_assoc]
      -- the comma asks for another item, but the construct may end here as well
      refine hleads.append (.cons _ (hcomma c d) (.cons _ ?_ (.nil _)))
      rw [hends, List.reverse_cons]
      rfl
    | @cons _ mark _ rest hmark htail more =>
      obtain ⟨_, c, d⟩ := mark
      cases hmark
      subst htails
      have hrest := ih (fun q hq => hparts q (List.mem_cons_of_mem p hq)) (by simpa using htail) more
        (p.2 :: xs) (.inr rfl)
      rw [List.reverse_cons, List.append_assoc, List.singleton_append] at hrest
      rw [List.append_assoc, List.cons_append]
      exact hleads.append (.cons _ (hcomma c d) hrest)

/-- A list from its opening bracket on. -/
def listSeries (start : Nat) : Series Expr :=
  ⟨.list start, .first, .symbol .rbracket, fun items stop => .list (.bare start stop) items⟩

/-- A set from its opening brace on. -/
def setSeries (start : Nat) : Series Expr :=
  ⟨.set start, .brace, .symbol .rbrace, fun items stop => .set (.bare start stop) items⟩

/-- A call from its opening parenthesis on. -/
def callSeries (callee : Expr) : Series (ArgKind × Expr) :=
  ⟨fun args => .call callee args .positional, .first, .symbol .rparen, .mkCall callee⟩

theorem listSeries_ends (start : Nat) : (listSeries start).Ends := fun _ _ _ _ _ => rfl

theorem setSeries_ends (start : Nat) : (setSeries start).Ends := fun _ _ _ _ _ => rfl

theorem callSeries_ends (callee : Expr) : (callSeries callee).Ends := fun _ _ _ _ _ => rfl

theorem ne_identity {opening start : Opening} (hstart : start ≠ .identity)
    (h : opening = start ∨ opening = .more) : opening ≠ .identity := by
  rcases h with rfl | rfl
  · exact hstart
  · decide

/-- An operand is an item of a list, in front of a comma or the bracket. -/
theorem Operand.takes_list (h : Operand level ls e) (start : Nat) :
    (listSeries start).Takes ls e := by
  intro xs frames opening hopening
  have hne : opening ≠ .identity := ne_identity (by nofun) hopening
  obtain ⟨fs, e', single, hleads, hclose⟩ := h.leads_inside (f := .list start xs) rfl frames hne
  refine ⟨fs, e', single, hleads, fun a b => ?_, fun a b => ?_⟩
  · rw [step_complete (by decide) rfl, stepClose, hclose]
    rfl
  · change step _ ⟨.symbol .rbracket, a, b⟩ = _
    rw [step_complete (by decide) rfl, stepClose, hclose]
    rfl

/-- An operand is an item of a set, in front of a comma or the brace. -/
theorem Operand.takes_set (h : Operand level ls e) (start : Nat) :
    (setSeries start).Takes ls e := by
  intro xs frames opening hopening
  have hne : opening ≠ .identity := ne_identity (by nofun) hopening
  obtain ⟨fs, e', single, hleads, hclose⟩ := h.leads_inside (f := .set start xs) rfl frames hne
  refine ⟨fs, e', single, hleads, fun a b => ?_, fun a b => ?_⟩
  · rw [step_complete (by decide) rfl, stepClose, hclose]
    rfl
  · change step _ ⟨.symbol .rbrace, a, b⟩ = _
    rw [step_complete (by decide) rfl, stepClose, hclose]
    rfl

/-- What tells how an argument is passed is put down with the call. -/
theorem leads_argKind {kind : ArgKind} {word : List Lexeme}
    (hword : word.map Lexeme.token = kind.tokens) (callee : Expr) (xs : List (ArgKind × Expr))
    (frames : List Frame) {opening : Opening} (hopening : opening = .first ∨ opening = .more) :
    ∃ opening', opening' ≠ .identity ∧
      Leads (.want (.call callee xs .positional :: frames) opening) word
        (.want (.call callee xs kind :: frames) opening') := by
  have hplain : Opening.plain ≠ .identity := by decide
  cases kind with
  | positional =>
    obtain rfl := List.map_eq_nil_iff.mp hword
    exact ⟨opening, ne_identity (by decide) hopening, .nil _⟩
  | keyword name =>
    obtain ⟨a, b, rest, rfl, hrest⟩ := exists_eq_cons_of_tokens hword
    obtain ⟨c, d, rfl⟩ := exists_eq_singleton_of_tokens hrest
    exact ⟨.plain, hplain, .cons _ rfl (.cons _ rfl (.nil _))⟩
  | star | starStar =>
    obtain ⟨a, b, rfl⟩ := exists_eq_singleton_of_tokens hword
    refine ⟨.plain, hplain, .cons _ ?_ (.nil _)⟩
    rcases hopening with rfl | rfl <;> rfl

/-- An operand is an argument, behind what tells how it is passed. -/
theorem Operand.takes_call (h : Operand level ls e) {kind : ArgKind} {word : List Lexeme}
    (hword : word.map Lexeme.token = kind.tokens) (callee : Expr) :
    (callSeries callee).Takes (word ++ ls) (kind, e) := by
  intro xs frames opening hopening
  obtain ⟨opening', hne, hkind⟩ := leads_argKind hword callee xs frames hopening
  obtain ⟨fs, e', single, hleads, hclose⟩ :=
    h.leads_inside (f := .call callee xs kind) rfl frames hne
  refine ⟨fs, e', single, hkind.append hleads, fun a b => ?_, fun a b => ?_⟩
  · rw [step_complete (by decide) rfl, stepClose, hclose]
    rfl
  · change step _ ⟨.symbol .rparen, a, b⟩ = _
    rw [step_complete (by decide) rfl, stepClose, hclose]
    rfl

section Items

variable {parts : List (List Lexeme × Expr)} (hparts : ∀ p ∈ parts, ∃ level, Operand level p.1 p.2)
  {ls : List Lexeme}
  (hsep : Separated (fun l => l.token = .symbol .comma) (parts.map Prod.fst) ls)

include hparts hsep

/-- **A list**, which may be empty. -/
theorem operand_list (a b c d : Nat) :
    Operand primaryLevel (⟨.symbol .lbracket, a, b⟩ :: (ls ++ [⟨.symbol .rbracket, c, d⟩]))
      (.list (.bare a d) (parts.map Prod.snd)) := by
  intro frames opening _ _
  refine ⟨frames, _, false, ?_, fun _ _ => rfl⟩
  refine .cons (.want (.list a [] :: frames) .first) rfl ?_
  by_cases hne : parts = []
  · subst hne
    cases hsep
    exact .cons _ rfl (.nil _)
  · refine Series.leads (listSeries_ends a) (fun p hp => ?_) hne hsep [] frames (.inl rfl) c d
    obtain ⟨level, hoperand⟩ := hparts p hp
    exact hoperand.takes_list a

/-- **A set** with at least one item. -/
theorem operand_set (hne : parts ≠ []) (a b c d : Nat) :
    Operand primaryLevel (⟨.symbol .lbrace, a, b⟩ :: (ls ++ [⟨.symbol .rbrace, c, d⟩]))
      (.set (.bare a d) (parts.map Prod.snd)) := by
  intro frames opening _ _
  refine ⟨frames, _, false, ?_, fun _ _ => rfl⟩
  refine .cons (.want (.set a [] :: frames) .brace) rfl ?_
  refine Series.leads (setSeries_ends a) (fun p hp => ?_) hne hsep [] frames (.inl rfl) c d
  obtain ⟨level, hoperand⟩ := hparts p hp
  exact hoperand.takes_set a

end Items

/-! ### Forms behind a primary -/

section Primary

variable {obj : Expr} {front : List Lexeme} (hobj : Operand primaryLevel front obj)

include hobj

/-- **An attribute** of a primary. -/
theorem operand_attr (name : String) (a b c d : Nat) :
    Operand primaryLevel (front ++ [⟨.symbol .dot, a, b⟩, ⟨.ident name, c, d⟩])
      (.mkAttr obj name d) := by
  intro frames opening hdemand hopening
  obtain ⟨single, hleads⟩ := hobj.leads_primary frames opening hdemand hopening
  refine ⟨frames, _, false, ?_, fun _ _ => rfl⟩
  exact hleads.append (.cons (.member frames obj) rfl (.cons _ rfl (.nil _)))

theorem operand_call {parts : List (List Lexeme × ArgKind × Expr)}
    (hparts : ∀ p ∈ parts, (callSeries obj).Takes p.1 p.2) {ls : List Lexeme}
    (hsep : Separated (fun l => l.token = .symbol .comma) (parts.map Prod.fst) ls) (a b c d : Nat) :
    Operand primaryLevel
      (front ++ (⟨.symbol .lparen, a, b⟩ :: (ls ++ [⟨.symbol .rparen, c, d⟩])))
      (.mkCall obj (parts.map Prod.snd) d) := by
  intro frames opening hdemand hopening
  obtain ⟨single, hleads⟩ := hobj.leads_primary frames opening hdemand hopening
  refine ⟨frames, _, false, hleads.append ?_, fun _ _ => rfl⟩
  refine .cons (.want (.call obj [] .positional :: frames) .first) rfl ?_
  by_cases hne : parts = []
  · subst hne
    cases hsep
    exact .cons _ rfl (.nil _)
  · exact Series.leads (callSeries_ends obj) hparts hne hsep [] frames (.inl rfl) c d

/-- A call with arguments that are all passed by their position. -/
theorem operand_call_positional {parts : List (List Lexeme × Expr)}
    (hparts : ∀ p ∈ parts, ∃ level, Operand level p.1 p.2) {ls : List Lexeme}
    (hsep : Separated (fun l => l.token = .symbol .comma) (parts.map Prod.fst) ls) (a b c d : Nat) :
    Operand primaryLevel
      (front ++ (⟨.symbol .lparen, a, b⟩ :: (ls ++ [⟨.symbol .rparen, c, d⟩])))
      (.mkCall obj ((parts.map Prod.snd).map fun e => (.positional, e)) d) := by
  have htakes : ∀ p ∈ parts.map fun p => (p.1, ArgKind.positional, p.2),
      (callSeries obj).Takes p.1 p.2 := by
    refine List.forall_mem_map.mpr fun p hp => ?_
    obtain ⟨level, hoperand⟩ := hparts p hp
    have hword : ([] : List Lexeme).map Lexeme.token = ArgKind.positional.tokens := rfl
    exact hoperand.takes_call hword obj
  have hcall := operand_call hobj htakes (by rw [List.map_map]; exact hsep) a b c d
  rw [List.map_map] at hcall
  rw [List.map_map]
  exact hcall

/-- **An item** of a primary, with an index of any level. -/
theorem operand_item (h : Operand level ls e) (a b c d : Nat) :
    Operand primaryLevel
      (front ++ (⟨.symbol .lbracket, a, b⟩ :: (ls ++ [⟨.symbol .rbracket, c, d⟩])))
      (.mkItem obj e d) := by
  intro frames opening hdemand hopening
  obtain ⟨single, hleads⟩ := hobj.leads_primary frames opening hdemand hopening
  have hindex : Opening.index ≠ .identity := by decide
  obtain ⟨fs, e', single', hleads', hclose⟩ :=
    h.leads_inside (f := .subscript obj a) rfl frames hindex
  refine ⟨frames, _, false, hleads.append ?_, fun _ _ => rfl⟩
  refine .cons (.want (.subscript obj a :: frames) .index) rfl (hleads'.append (.cons _ ?_ (.nil _)))
  rw [step_complete (by decide) rfl, stepClose, hclose]
  rfl

end Primary

end Operand

/-! ### Slices -/

/-- A bound of a slice, which may be left out. -/
def IsBound (ls : List Lexeme) (e : Expr) : Prop :=
  (ls = [] ∧ e = .absent) ∨ ∃ level, Operand level ls e

section Slice

variable {low high obj : Expr} {front ls ls' : List Lexeme}

/-- The lower bound and the colon. -/
theorem leads_low (h : IsBound ls low) (o : Expr) (start a b : Nat) (frames : List Frame) :
    Leads (.want (.subscript o start :: frames) .index) (ls ++ [⟨.symbol .colon, a, b⟩])
      (.want (.slice o low :: frames) .bound) := by
  rcases h with ⟨rfl, rfl⟩ | ⟨level, h⟩
  · exact .cons _ rfl (.nil _)
  · have hindex : Opening.index ≠ .identity := by decide
    obtain ⟨fs, e, single, hleads, hclose⟩ :=
      h.leads_inside (f := .subscript o start) rfl frames hindex
    refine hleads.append (.cons _ ?_ (.nil _))
    rw [step_complete (by decide) rfl, stepClose, hclose]
    rfl

/-- The upper bound and the closing bracket. -/
theorem leads_high (h : IsBound ls high) (o l : Expr) (a b : Nat) (frames : List Frame) :
    Leads (.want (.slice o l :: frames) .bound) (ls ++ [⟨.symbol .rbracket, a, b⟩])
      (.complete frames (.mkSlice o l high b) false) := by
  rcases h with ⟨rfl, rfl⟩ | ⟨level, h⟩
  · exact .cons _ rfl (.nil _)
  · have hbound : Opening.bound ≠ .identity := by decide
    obtain ⟨fs, e, single, hleads, hclose⟩ := h.leads_inside (f := .slice o l) rfl frames hbound
    refine hleads.append (.cons _ ?_ (.nil _))
    rw [step_complete (by decide) rfl, stepClose, hclose]
    rfl

/-- **A slice** of a primary, with bounds that may be missing. -/
theorem operand_slice (hobj : Operand primaryLevel front obj) (hlow : IsBound ls low)
    (hhigh : IsBound ls' high) (a b c d a' b' : Nat) :
    Operand primaryLevel
      (front ++ (⟨.symbol .lbracket, a, b⟩ :: ((ls ++ [⟨.symbol .colon, c, d⟩]) ++
        (ls' ++ [⟨.symbol .rbracket, a', b'⟩]))))
      (.mkSlice obj low high b') := by
  intro frames opening hdemand hopening
  obtain ⟨single, hleads⟩ := hobj.leads_primary frames opening hdemand hopening
  refine ⟨frames, _, false, hleads.append ?_, fun _ _ => rfl⟩
  refine .cons (.want (.subscript obj a :: frames) .index) rfl ?_
  exact (leads_low hlow obj a c d frames).append (leads_high hhigh obj low a' b' frames)

end Slice

/-! ### Operators -/

section Operators

variable {word ls ls' ls'' : List Lexeme}

/-- The operator takes up the operand that is left after closing. -/
theorem leads_operator {op : BinaryOp} (hop : op ≠ .item)
    (hword : word.map Lexeme.token = op.tokens) {fs frames : List Frame} {e left : Expr}
    (single : Bool) (h : close op.level fs e = (frames, left)) :
    Leads (.complete fs e single) word
      (.want (.binary op left :: frames) (if op = .is then .identity else .plain)) := by
  have happly : ∀ opening, applyBinary op fs e opening = .want (.binary op left :: frames) opening := by
    intro opening
    rw [applyBinary, h]
  cases op
  case item => exact absurd rfl hop
  case isNot =>
    -- `is` closes the same level, and `not` turns it into the other operator
    obtain ⟨a, b, rest, rfl, hrest⟩ := exists_eq_cons_of_tokens hword
    obtain ⟨c, d, rfl⟩ := exists_eq_singleton_of_tokens hrest
    refine .cons (.want (.binary .is left :: frames) .identity) ?_ (.cons _ rfl (.nil _))
    have his : applyBinary .is fs e .identity = .want (.binary .is left :: frames) .identity := by
      rw [applyBinary, show close BinaryOp.is.level fs e = (frames, left) from h]
    exact congrArg Except.ok his
  case notContains =>
    obtain ⟨a, b, rest, rfl, hrest⟩ := exists_eq_cons_of_tokens hword
    obtain ⟨c, d, rfl⟩ := exists_eq_singleton_of_tokens hrest
    exact .cons (.notIn fs e) rfl (.cons _ (congrArg Except.ok (happly _)) (.nil _))
  all_goals
    obtain ⟨a, b, rfl⟩ := exists_eq_singleton_of_tokens hword
    exact .cons _ (congrArg Except.ok (happly _)) (.nil _)

/-- **A binary operator.** The left operand may be of its level, the right one has to be tighter. -/
theorem operand_binary {op : BinaryOp} (hop : op ≠ .item)
    (hword : word.map Lexeme.token = op.tokens) {left right : Expr}
    (hleft : Operand op.level ls left) (hright : Operand (op.level + 1) ls' right) :
    Operand op.level (ls ++ (word ++ ls')) (.mkBinary op left right) := by
  intro frames opening hdemand hopening
  -- the operator closes the left operand and nothing below it
  obtain ⟨fs, e, single, hleads, hclose⟩ := hleft frames opening hdemand hopening
  have hclosed := (hclose op.level (Nat.le_refl _)).trans (close_of_demand op hdemand _)
  -- after `is` the right operand cannot begin with `not`: the demand is above its level
  have hidentity : (if op = .is then Opening.identity else .plain) = .identity →
      notLevel < demand (.binary op left :: frames) := by
    intro h
    split at h
    · next his =>
      subst his
      show notLevel < BinaryOp.is.level + 1
      decide
    · cases h
  obtain ⟨fs', e', single', hleads', hclose'⟩ :=
    hright (.binary op left :: frames) _ (Nat.le_refl _) hidentity
  refine ⟨fs', e', single', ?_, ?_⟩
  · exact hleads.append ((leads_operator hop hword single hclosed).append hleads')
  · -- a token of level `k` completes the right operand and then the operator
    intro k hk
    rw [hclose' k (Nat.le_succ_of_le hk), close, if_pos hk]

/-- An operator in front of its operand leads to the operand, if the word `not` is admitted. -/
theorem leads_sign (op : UnaryOp) (a b : Nat) (frames : List Frame) (opening : Opening)
    (hdemand : demand frames ≤ op.level)
    (hopening : opening = .identity → notLevel < demand frames) :
    Leads (.want frames opening) [⟨op.token, a, b⟩] (.want (.unary op a :: frames) .plain) := by
  cases op with
  | neg | bitNot => exact .cons _ rfl (.nil _)
  | not =>
    -- directly behind `is` the demand would exceed the level of `not`
    have hne : opening ≠ .identity := by
      intro h
      have := hopening h
      have : demand frames ≤ notLevel := hdemand
      omega
    refine .cons _ ?_ (.nil _)
    have hadmit : (if demand frames ≤ notLevel then
        Except.ok (State.want (.unary .not a :: frames) .plain) else .error Refusal.unexpected) =
          .ok (.want (.unary .not a :: frames) .plain) := if_pos hdemand
    cases opening
    case identity => exact absurd rfl hne
    all_goals exact hadmit

/-- **An operator in front of its operand**, which may be of the same level. -/
theorem operand_unary {op : UnaryOp} {e : Expr} (h : Operand op.level ls e) (a b : Nat) :
    Operand op.level (⟨op.token, a, b⟩ :: ls) (.mkUnary op a e) := by
  intro frames opening hdemand hopening
  have hplain : Opening.plain = .identity → notLevel < demand (.unary op a :: frames) := nofun
  obtain ⟨fs, e', single, hleads, hclose⟩ := h (.unary op a :: frames) .plain (Nat.le_refl _) hplain
  refine ⟨fs, e', single, ?_, ?_⟩
  · exact (leads_sign op a b frames opening hdemand hopening).append hleads
  · intro k hk
    rw [hclose k hk, close, if_pos hk]

/-- **A conditional.** The first branch and the test are of the level of `or`, and a conditional in the
last branch needs no parentheses. -/
theorem operand_cond {yes test no : Expr} (hyes : Operand orLevel ls yes)
    (htest : Operand orLevel ls' test) (hno : Operand condLevel ls'' no) (a b c d : Nat) :
    Operand condLevel (ls ++ (⟨.keyword .ifWord, a, b⟩ :: (ls' ++ (⟨.keyword .elseWord, c, d⟩ :: ls''))))
      (.mkCond yes test no) := by
  intro frames opening hdemand hopening
  have hzero : demand frames = 0 := Nat.le_zero.mp hdemand
  have hplain : ∀ fs : List Frame, Opening.plain = .identity → notLevel < demand fs := fun _ => nofun
  -- the first branch closes up to the construct around the conditional
  obtain ⟨fs, e, single, hleads, hclose⟩ := hyes frames opening (by omega) hopening
  have hclosed : close orLevel fs e = (frames, yes) := by
    rw [hclose orLevel (Nat.le_refl _)]
    exact close_of_demand .or (by omega) _
  -- the test closes up to the first branch, the last branch up to the test
  obtain ⟨fs₁, e₁, single₁, hleads₁, hclose₁⟩ :=
    htest (.test yes :: frames) .plain (Nat.le_refl _) (hplain _)
  obtain ⟨fs₂, e₂, single₂, hleads₂, hclose₂⟩ :=
    hno (.otherwise yes test :: frames) .plain (Nat.le_refl _) (hplain _)
  have hif : step (.complete fs e single) ⟨.keyword .ifWord, a, b⟩ =
      .ok (.want (.test yes :: frames) .plain) := by
    -- a test around the conditional would have to be closed first, but it demands more
    rw [step_complete (by decide) rfl, stepClose, hclosed]
    cases frames with
    | nil => rfl
    | cons f fs =>
      cases f
      case test => cases hzero
      all_goals rfl
  have helse : step (.complete fs₁ e₁ single₁) ⟨.keyword .elseWord, c, d⟩ =
      .ok (.want (.otherwise yes test :: frames) .plain) := by
    rw [step_complete (by decide) rfl, stepClose, hclose₁ orLevel (Nat.le_refl _)]
    rfl
  refine ⟨fs₂, e₂, single₂, ?_, ?_⟩
  · exact hleads.append (.cons _ hif (hleads₁.append (.cons _ helse hleads₂)))
  · intro k hk
    rw [hclose₂ k hk, close, if_pos hk]

end Operators

end Parse

/-! ### Whole texts -/

open Parse in
/-- A text that is one operand is accepted: it is read over the empty stack, and its end closes everything. -/
theorem Expr.ofTokens_of_operand (length : Nat) {ls : List Lexeme} {e : Expr}
    (h : Operand condLevel ls e) : ofTokens length ls = .ok e := by
  have hplain : Opening.plain = .identity → notLevel < demand [] := nofun
  obtain ⟨fs, e', single, hleads, hclose⟩ := h [] .plain (Nat.zero_le _) hplain
  have hfinish : finish (.complete fs e' single) = some e := by
    rw [finish, hclose condLevel (Nat.zero_le _)]
    rfl
  rw [ofTokens, initial, hleads.run, Parse.run, hfinish]

end QueryExpr
