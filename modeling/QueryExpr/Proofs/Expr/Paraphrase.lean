import QueryExpr.Compile
import QueryExpr.Proofs.Expr.Grammar

/-!
# Texts that say the same

Two texts can have the same tree and still differ in spaces, parentheses, quotes and digits. What a
text compiles to depends on its tree alone, but for the source that every node keeps: the term without
its source (`Term.bare`) is a function of the tree without its places (`Expr.unplaced`).

The text enters the resolution of a tree in two ways only, as the source of a node and as the source of
a call that is refused. `Expr.bareOutcome_resolve` says that both can be erased before or after: resolving
a tree over its text comes to the same as resolving the unplaced tree over no text at all. Two texts
with the same tree are compared through the latter (`compile_of_unplaced_eq`).
-/

namespace QueryExpr

/-! ### Terms without source -/

namespace Term

mutual

/-- The term alone, whatever the source of its nodes. -/
def bare : Term → Term
  | .node head verdict _ slots => .node head verdict [] (bareAll slots)

/-- Several terms alone. -/
def bareAll : List Term → List Term
  | [] => []
  | t :: ts => t.bare :: bareAll ts

end

theorem bareAll_eq (ts : List Term) : bareAll ts = ts.map bare := by
  induction ts with
  | nil => rfl
  | cons t ts ih => rw [bareAll, ih, List.map_cons]

@[simp] theorem head_bare (t : Term) : t.bare.head = t.head := by
  cases t
  rfl

@[simp] theorem verdict_bare (t : Term) : t.bare.verdict = t.verdict := by
  cases t
  rfl

@[simp] theorem slots_bare (t : Term) : t.bare.slots = t.slots.map bare := by
  cases t
  exact bareAll_eq _

@[simp] theorem fault_bare (t : Term) : t.bare.fault = t.fault := by
  rw [fault, verdict_bare, fault]

@[simp] theorem field?_bare (t : Term) : t.bare.field? = t.field? := by
  rw [field?, head_bare, field?]

/-- Where a path leads to does not depend on how it is written. -/
theorem member?_bare (groups : Groups) (t : Term) (identifier : String) :
    member? groups t.bare identifier = member? groups t identifier := by
  rw [member?, field?_bare, member?]

@[simp] theorem signature?_map_bare (ts : List Term) : signature? (ts.map bare) = signature? ts := by
  simp only [signature?, List.mapM_map, Function.comp_def, verdict_bare]

/-- The verdict on a node does not see the source of its slots. -/
theorem verdictOn_map_bare (reg : Registry) (head : Head) (ts : List Term) :
    verdictOn reg head (ts.map bare) = verdictOn reg head ts := by
  rw [verdictOn.eq_def, signature?_map_bare, ← verdictOn.eq_def]

theorem bare_make (head : Head) (content : List Fragment) (slots : List Term) :
    (make head content slots).bare =
      .node head (verdictOn .standard head (slots.map bare)) [] (slots.map bare) := by
  rw [make, bare, bareAll_eq, verdictOn_map_bare]

/-- **Nodes with the same head over slots that are the same** but for their source. -/
theorem bare_make_congr (head : Head) (content content' : List Fragment) {slots slots' : List Term}
    (h : slots.map bare = slots'.map bare) :
    (make head content slots).bare = (make head content' slots').bare := by
  rw [bare_make, bare_make, h]

theorem bare_withFault (f : Fault) (t : Term) : (t.withFault f).bare = t.bare.withFault f := by
  cases t
  rfl

end Term

/-! ### Outcomes without source -/

/-- What is refused, whatever the source of the call. -/
def Unsupported.bare : Unsupported → Unsupported
  | .keywordArgument _ => .keywordArgument ""
  | .starArgument _ => .starArgument ""
  | .callee _ => .callee ""

/-- The outcome of a resolution, seen without source. -/
def bareOutcome {α β : Type} (view : α → β) : Except Unsupported α → Except Unsupported β
  | .ok a => .ok (view a)
  | .error u => .error u.bare

section Outcome

variable {α β γ δ : Type} {view : α → β} {view' : γ → δ}

/-- Steps with the same outcome, each of which goes on in the same way. -/
theorem bareOutcome_bind {x y : Except Unsupported α} {f g : α → Except Unsupported γ}
    (h : bareOutcome view x = bareOutcome view y)
    (hnext : ∀ a b, view a = view b → bareOutcome view' (f a) = bareOutcome view' (g b)) :
    bareOutcome view' (x >>= f) = bareOutcome view' (y >>= g) := by
  cases x with
  | error u =>
    cases y with
    | error u' => exact congrArg Except.error (Except.error.inj h)
    | ok b => cases h
  | ok a =>
    cases y with
    | error u' => cases h
    | ok b => exact hnext a b (Except.ok.inj h)

end Outcome

/-! ### Resolving without text -/

namespace Expr

variable (schema : Schema) (text text' : List Char)

/-- Nodes that are built alike. -/
theorem bareOutcome_build (head : Head) (span span' : Span) (es es' : List Expr) {slots slots' : List Term}
    (h : slots.map Term.bare = slots'.map Term.bare) :
    bareOutcome Term.bare (.ok (build text span head es slots)) =
      bareOutcome Term.bare (.ok (build text' span' head es' slots')) :=
  congrArg Except.ok (Term.bare_make_congr head _ _ h)

/-- A literal stands for the same constant wherever it is written. -/
theorem bare_resolveConst (span span' : Span) (value : Literal) :
    (resolveConst text span value).bare = (resolveConst text' span' value).bare := by
  cases value with
  | malformed kind =>
    rw [resolveConst, resolveConst, Term.bare_withFault, Term.bare_withFault]
    exact congrArg (Term.withFault _) (Term.bare_make_congr _ _ _ rfl)
  | _ => exact Term.bare_make_congr _ _ _ rfl

/-- What is refused about the arguments does not depend on the source. -/
theorem bare_refusal {kinds : List ArgKind} {refusal : String → Unsupported}
    (h : refused? kinds = some refusal) (source source' : String) :
    (refusal source).bare = (refusal source').bare := by
  induction kinds with
  | nil => cases h
  | cons kind kinds ih =>
    cases kind with
    | positional => exact ih h
    | _ =>
      cases h
      rfl

mutual

/-- **The text is only a source.** A tree over its text has the outcome of the unplaced tree over any
other text. -/
theorem bareOutcome_resolve : ∀ e : Expr, bareOutcome Term.bare (e.resolve schema text) =
    bareOutcome Term.bare (e.unplaced.resolve schema text')
  | .const place value => by
    rw [unplaced, resolve, resolve]
    exact congrArg Except.ok (bare_resolveConst text text' _ _ value)
  | .name place identifier => by
    rw [unplaced, resolve, resolve]
    exact bareOutcome_build text text' _ _ _ _ _ rfl
  | .absent => by rw [unplaced, resolve, resolve]
  | .list place items | .set place items => by
    rw [unplaced, resolve, resolve]
    refine bareOutcome_bind (bareOutcome_resolveAll items) fun slots slots' h => ?_
    exact bareOutcome_build text text' _ _ _ _ _ h
  | .attr place obj identifier => by
    rw [unplaced, resolve, resolve]
    refine bareOutcome_bind (bareOutcome_resolve obj) fun parent parent' h => ?_
    -- the group to look in is that of the field, which the source has no part in
    rw [← Term.member?_bare, h, Term.member?_bare]
    split <;> exact bareOutcome_build text text' _ _ _ _ _ (congrArg (fun t => [t]) h)
  | .call place callee kinds args => by
    rw [unplaced]
    unfold resolve
    cases hkinds : refused? kinds with
    | some refusal => exact congrArg Except.error (bare_refusal hkinds _ _)
    | none =>
      -- a name or an attribute is called, and with the attribute its object comes first
      cases callee with
      | name _ identifier =>
        refine bareOutcome_bind (bareOutcome_resolveAll args) fun slots slots' h => ?_
        exact bareOutcome_build text text' _ _ _ _ _ h
      | attr _ obj identifier =>
        refine bareOutcome_bind (bareOutcome_resolve obj) fun o o' ho => ?_
        refine bareOutcome_bind (bareOutcome_resolveAll args) fun slots slots' h => ?_
        exact bareOutcome_build text text' _ _ _ _ _ (by rw [List.map_cons, List.map_cons, ho, h])
      | _ => rfl
  | .item place obj index => by
    rw [unplaced, resolve, resolve]
    refine bareOutcome_bind (bareOutcome_resolve obj) fun o o' ho => ?_
    refine bareOutcome_bind (bareOutcome_resolve index) fun i i' hi => ?_
    exact bareOutcome_build text text' _ _ _ _ _ (by simp [ho, hi])
  | .slice place obj low high => by
    rw [unplaced, resolve, resolve]
    refine bareOutcome_bind (bareOutcome_resolve obj) fun o o' ho => ?_
    refine bareOutcome_bind (bareOutcome_resolve low) fun l l' hl => ?_
    refine bareOutcome_bind (bareOutcome_resolve high) fun h h' hh => ?_
    exact bareOutcome_build text text' _ _ _ _ _ (by simp [ho, hl, hh])
  | .binary place op left right => by
    rw [unplaced, resolve, resolve]
    refine bareOutcome_bind (bareOutcome_resolve left) fun l l' hl => ?_
    refine bareOutcome_bind (bareOutcome_resolve right) fun r r' hr => ?_
    exact bareOutcome_build text text' _ _ _ _ _ (by simp [hl, hr])
  | .unary place op obj => by
    rw [unplaced, resolve, resolve]
    refine bareOutcome_bind (bareOutcome_resolve obj) fun o o' ho => ?_
    exact bareOutcome_build text text' _ _ _ _ _ (by simp [ho])
  | .cond place yes test no => by
    rw [unplaced, resolve, resolve]
    refine bareOutcome_bind (bareOutcome_resolve yes) fun y y' hy => ?_
    refine bareOutcome_bind (bareOutcome_resolve test) fun t t' ht => ?_
    refine bareOutcome_bind (bareOutcome_resolve no) fun n n' hn => ?_
    exact bareOutcome_build text text' _ _ _ _ _ (by simp [hy, ht, hn])

/-- The same for several trees. -/
theorem bareOutcome_resolveAll : ∀ es : List Expr,
    bareOutcome (List.map Term.bare) (resolveAll schema text es) =
      bareOutcome (List.map Term.bare) (resolveAll schema text' (unplacedAll es))
  | [] => by rw [unplacedAll, resolveAll, resolveAll]
  | e :: es => by
    rw [unplacedAll, resolveAll, resolveAll]
    refine bareOutcome_bind (bareOutcome_resolve e) fun t t' ht => ?_
    refine bareOutcome_bind (bareOutcome_resolveAll es) fun ts ts' hts => ?_
    show Except.ok (t.bare :: ts.map Term.bare) = .ok (t'.bare :: ts'.map Term.bare)
    rw [ht, hts]

end

end Expr

/-! ### Whole texts -/

section Compile

variable {schema : Schema} {source source' : String} {e e' : Expr}

/-- Compiling a text that is parsed is resolving its tree. -/
theorem compile_of_parse (hparse : Expr.parse source = .ok e) :
    compile schema source = (e.resolve schema source.toList).mapError .unsupported := by
  rw [compile, hparse]

/-- A text compiles to what its tree resolves to without text. -/
theorem exists_compile_of_resolve {t : Term} (hparse : Expr.parse source = .ok e)
    (h : e.unplaced.resolve schema [] = .ok t) :
    ∃ t', compile schema source = .ok t' ∧ t'.bare = t.bare := by
  have houtcome := Expr.bareOutcome_resolve schema source.toList [] e
  rw [h] at houtcome
  rw [compile_of_parse hparse]
  cases hresolve : e.resolve schema source.toList with
  | error u => rw [hresolve] at houtcome; cases houtcome
  | ok t' =>
    rw [hresolve] at houtcome
    exact ⟨t', rfl, Except.ok.inj houtcome⟩

variable (schema) in
/-- **Texts with the same tree** are refused alike, or compile to the same term but for its source. -/
theorem compile_of_unplaced_eq (hparse : Expr.parse source = .ok e)
    (hparse' : Expr.parse source' = .ok e') (h : e.unplaced = e'.unplaced) :
    (∃ u u', compile schema source = .error (.unsupported u) ∧
      compile schema source' = .error (.unsupported u') ∧ u.bare = u'.bare) ∨
    ∃ t t', compile schema source = .ok t ∧ compile schema source' = .ok t' ∧ t.bare = t'.bare := by
  have houtcome : bareOutcome Term.bare (e.resolve schema source.toList) =
      bareOutcome Term.bare (e'.resolve schema source'.toList) :=
    calc
      _ = bareOutcome Term.bare (e.unplaced.resolve schema []) := Expr.bareOutcome_resolve ..
      _ = bareOutcome Term.bare (e'.unplaced.resolve schema []) := by rw [h]
      _ = _ := (Expr.bareOutcome_resolve ..).symm
  rw [compile_of_parse hparse, compile_of_parse hparse']
  cases hresolve : e.resolve schema source.toList with
  | error u =>
    cases hresolve' : e'.resolve schema source'.toList with
    | error u' =>
      rw [hresolve, hresolve'] at houtcome
      exact .inl ⟨u, u', rfl, rfl, Except.error.inj houtcome⟩
    | ok t' => rw [hresolve, hresolve'] at houtcome; cases houtcome
  | ok t =>
    cases hresolve' : e'.resolve schema source'.toList with
    | error u' => rw [hresolve, hresolve'] at houtcome; cases houtcome
    | ok t' =>
      rw [hresolve, hresolve'] at houtcome
      exact .inr ⟨t, t', rfl, rfl, Except.ok.inj houtcome⟩

end Compile

end QueryExpr
