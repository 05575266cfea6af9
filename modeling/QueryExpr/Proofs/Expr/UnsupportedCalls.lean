import QueryExpr.Proofs.Expr.Fidelity

/-!
# Calls that the language lacks

Only calls are ever refused: those with an argument that is not passed by position, and those of
something other than a name or an attribute. Everything else resolves, names and literals that mean
nothing included.

A tree is resolved part by part and the first refusal ends it, so which call is named depends on the
order in which the parts come up. The two forms of calls and the other nodes go through their parts in
ways of their own, and the callee of a method is passed over in favour of its object. All of them keep
to the order of the source with a node in front of its parts (`nodes`): `refusalOf_resolve` says that
resolving a tree is refused for what the first node in this order is refused for. The schema has no part
in it.
-/

namespace QueryExpr

/-- What a resolution was refused for. -/
def refusalOf {α : Type} : Except Unsupported α → Option Unsupported
  | .ok _ => none
  | .error u => some u

theorem refusalOf_eq_some_iff {α : Type} {x : Except Unsupported α} {u : Unsupported} :
    refusalOf x = some u ↔ x = .error u := by
  cases x with
  | ok a => exact ⟨nofun, nofun⟩
  | error v => exact ⟨fun h => congrArg _ (Option.some.inj h), fun h => congrArg _ (Except.error.inj h)⟩

/-- A computation is refused for what its first step is refused for, and otherwise for what the rest
is. -/
theorem refusalOf_bind {α β : Type} (x : Except Unsupported α) {f : α → Except Unsupported β}
    {rest : Option Unsupported} (h : ∀ a, refusalOf (f a) = rest) :
    refusalOf (x >>= f) = (refusalOf x).or rest := by
  cases x with
  | ok a => exact h a
  | error u => rfl

/-- The last step of a computation that is not refused. -/
theorem refusalOf_bind_ok {α β : Type} (x : Except Unsupported α) {f : α → Except Unsupported β}
    (h : ∀ a, refusalOf (f a) = none) : refusalOf (x >>= f) = refusalOf x := by
  rw [refusalOf_bind x h, Option.or_none]

namespace Expr

/-! ### Trees in the order of the source -/

mutual

/-- The nodes of a tree in the order of the source, each in front of its parts. A bound that is left
out is no node. -/
def nodes : Expr → List Expr
  | .absent => []
  | .const place value => [.const place value]
  | .name place identifier => [.name place identifier]
  | .list place items => .list place items :: nodesAll items
  | .set place items => .set place items :: nodesAll items
  | .attr place obj identifier => .attr place obj identifier :: nodes obj
  | .call place callee kinds args => .call place callee kinds args :: (nodes callee ++ nodesAll args)
  | .item place obj index => .item place obj index :: (nodes obj ++ nodes index)
  | .slice place obj low high => .slice place obj low high :: (nodes obj ++ (nodes low ++ nodes high))
  | .binary place op left right => .binary place op left right :: (nodes left ++ nodes right)
  | .unary place op obj => .unary place op obj :: nodes obj
  | .cond place yes test no => .cond place yes test no :: (nodes yes ++ (nodes test ++ nodes no))

/-- The nodes of several trees. -/
def nodesAll : List Expr → List Expr
  | [] => []
  | e :: es => nodes e ++ nodesAll es

end

theorem nodesAll_eq (es : List Expr) : nodesAll es = es.flatMap nodes := by
  induction es with
  | nil => rfl
  | cons e es ih => rw [nodesAll, ih, List.flatMap_cons]

/-- A node comes in front of its parts. -/
theorem nodes_eq {e : Expr} (h : e.isPresent = true) : e.nodes = e :: e.parts.flatMap nodes := by
  cases e with
  | absent => cases h
  | _ => simp [nodes, nodesAll_eq, parts]

/-! ### Unsupported calls -/

/-- Only names and attributes can be called. -/
def isCallable : Expr → Bool
  | .name _ _ | .attr _ _ _ => true
  | _ => false

/-- The node is a call of a form that the language lacks. -/
def IsUnsupported : Expr → Prop
  | .call _ callee kinds _ => (∃ kind ∈ kinds, kind ≠ .positional) ∨ callee.isCallable = false
  | _ => False

/-- Why a call is refused, in words that quote it: the first argument that is not passed by position
decides, and the callee matters only if there is none. -/
inductive Refused (quoted : String) : Expr → Unsupported → String → Prop where
  | keyword {place : Place} {callee : Expr} {front back : List ArgKind} {name : String}
      {args : List Expr} (first : ∀ kind ∈ front, kind = .positional) :
      Refused quoted (.call place callee (front ++ .keyword name :: back) args)
        (.keywordArgument quoted)
        ("Keyword arguments are not supported in vSQL: `" ++ quoted ++ "`")
  | star {place : Place} {callee : Expr} {front back : List ArgKind} {kind : ArgKind}
      {args : List Expr} (first : ∀ kind ∈ front, kind = .positional)
      (star : kind = .star ∨ kind = .starStar) :
      Refused quoted (.call place callee (front ++ kind :: back) args) (.starArgument quoted)
        ("Star arguments are not supported in vSQL: `" ++ quoted ++ "`")
  | callee {place : Place} {callee : Expr} {kinds : List ArgKind} {args : List Expr}
      (positional : ∀ kind ∈ kinds, kind = .positional) (other : callee.isCallable = false) :
      Refused quoted (.call place callee kinds args) (.callee quoted)
        ("Only functions and methods can be called in vSQL: `" ++ quoted ++ "`")

/-- What the node is refused for, whatever its parts are. -/
def refusal? (text : List Char) : Expr → Option Unsupported
  | .call place callee kinds _ =>
    ((refused? kinds).or (if callee.isCallable then none else some .callee)).map
      fun refusal => refusal (textBetween text place.span.start place.span.stop)
  | _ => none

theorem refused?_eq_none_iff {kinds : List ArgKind} :
    refused? kinds = none ↔ ∀ kind ∈ kinds, kind = .positional := by
  induction kinds with
  | nil => exact ⟨fun _ => List.forall_mem_nil _, fun _ => rfl⟩
  | cons kind kinds ih =>
    rw [List.forall_mem_cons, ← ih]
    cases kind with
    | positional => exact ⟨fun h => ⟨rfl, h⟩, And.right⟩
    | _ => exact ⟨nofun, nofun⟩

/-- The arguments in front of the first one that is not passed by position. -/
theorem exists_of_refused?_eq_some {kinds : List ArgKind} {refusal : String → Unsupported}
    (h : refused? kinds = some refusal) :
    ∃ front kind back, kinds = front ++ kind :: back ∧ (∀ kind ∈ front, kind = .positional) ∧
      ((∃ name, kind = .keyword name ∧ refusal = .keywordArgument) ∨
        ((kind = .star ∨ kind = .starStar) ∧ refusal = .starArgument)) := by
  induction kinds with
  | nil => cases h
  | cons kind kinds ih =>
    cases kind with
    | positional =>
      obtain ⟨front, kind, back, rfl, hfront, hkind⟩ := ih h
      exact ⟨.positional :: front, kind, back, rfl, List.forall_mem_cons.mpr ⟨rfl, hfront⟩, hkind⟩
    | keyword name =>
      cases h
      exact ⟨[], _, kinds, rfl, List.forall_mem_nil _, .inl ⟨name, rfl, rfl⟩⟩
    | star | starStar =>
      cases h
      exact ⟨[], _, kinds, rfl, List.forall_mem_nil _, .inr ⟨by simp, rfl⟩⟩

/-- Arguments that are passed by position in front of others do not matter. -/
theorem refused?_append {front : List ArgKind} (h : ∀ kind ∈ front, kind = .positional)
    (kinds : List ArgKind) : refused? (front ++ kinds) = refused? kinds := by
  induction front with
  | nil => rfl
  | cons kind front ih =>
    obtain ⟨rfl, hfront⟩ := List.forall_mem_cons.mp h
    rw [List.cons_append, refused?, ih hfront]

section Refusal

variable {text : List Char} {e : Expr} {u : Unsupported}

theorem refusal?_eq_none_iff : e.refusal? text = none ↔ ¬ e.IsUnsupported := by
  cases e with
  | call place callee kinds args =>
    rw [refusal?, Option.map_eq_none_iff, Option.or_eq_none_iff, refused?_eq_none_iff, IsUnsupported]
    cases callee.isCallable <;> simp
  | _ => exact ⟨fun _ => id, fun _ => rfl⟩

/-- **The reason for which a call is refused**, and its wording. -/
theorem refusal?_eq_some_iff :
    e.refusal? text = some u ↔
      e.Refused (textBetween text e.span.start e.span.stop) u u.message := by
  constructor
  · intro h
    cases e with
    | call place callee kinds args =>
      obtain ⟨refusal, hor, rfl⟩ := Option.map_eq_some_iff.mp h
      rcases Option.or_eq_some_iff.mp hor with hkinds | ⟨hkinds, hcallee⟩
      · -- the first argument that is not passed by its position
        obtain ⟨front, kind, back, rfl, hfront, ⟨name, rfl, rfl⟩ | ⟨hstar, rfl⟩⟩ :=
          exists_of_refused?_eq_some hkinds
        · exact .keyword hfront
        · exact .star hfront hstar
      · -- the arguments are fine, so it is what is called
        split at hcallee
        · cases hcallee
        · next hother =>
          cases hcallee
          exact .callee (refused?_eq_none_iff.mp hkinds) ((Bool.not_eq_true _).mp hother)
    | _ => cases h
  · generalize hmessage : u.message = message
    intro h
    cases h with
    | keyword first =>
      rw [refusal?, refused?_append first]
      rfl
    | star first star =>
      rw [refusal?, refused?_append first]
      rcases star with rfl | rfl <;> rfl
    | callee positional other =>
      rw [refusal?, refused?_eq_none_iff.mpr positional, other]
      rfl

end Refusal

/-! ### The first refusal -/

section Resolve

variable (schema : Schema) (text : List Char)

mutual

/-- **A tree is refused for what its first unsupported call is refused for.** -/
theorem refusalOf_resolve : ∀ e : Expr,
    refusalOf (e.resolve schema text) = e.nodes.findSome? (refusal? text)
  | .const place value => rfl
  | .name place identifier => rfl
  | .absent => rfl
  | .list place items | .set place items => by
    rw [resolve, refusalOf_bind_ok _ fun slots => rfl, refusalOf_resolveAll items]
    rfl
  | .attr place obj identifier => by
    rw [resolve, refusalOf_bind_ok _ fun parent => ?_, refusalOf_resolve obj]
    · rfl
    · -- whether the name is known makes no difference
      split <;> rfl
  | .call place callee kinds args => by
    rw [nodes, List.findSome?_cons, refusal?]
    unfold resolve
    cases hkinds : refused? kinds with
    | some refusal => rfl
    | none =>
      -- an attribute as a callee is no reason for a refusal, but its object may have one
      cases callee with
      | name _ identifier => exact (refusalOf_bind_ok _ fun slots => rfl).trans (refusalOf_resolveAll args)
      | attr _ obj identifier =>
        refine (refusalOf_bind _ fun receiver => refusalOf_bind_ok _ fun slots => rfl).trans ?_
        rw [refusalOf_resolve obj, refusalOf_resolveAll args, ← List.findSome?_append]
        rfl
      | _ => rfl
  | .item place obj index | .binary place op obj index => by
    rw [resolve, refusalOf_bind _ fun o => refusalOf_bind_ok _ fun i => rfl, refusalOf_resolve obj,
      refusalOf_resolve index, ← List.findSome?_append]
    rfl
  | .slice place obj low high | .cond place obj low high => by
    rw [resolve, refusalOf_bind _ fun o => refusalOf_bind _ fun l => refusalOf_bind_ok _ fun h => rfl,
      refusalOf_resolve obj, refusalOf_resolve low, refusalOf_resolve high, ← List.findSome?_append,
      ← List.findSome?_append]
    rfl
  | .unary place op obj => by
    rw [resolve, refusalOf_bind_ok _ fun o => rfl, refusalOf_resolve obj]
    rfl

/-- The same for several trees. -/
theorem refusalOf_resolveAll : ∀ es : List Expr,
    refusalOf (resolveAll schema text es) = (nodesAll es).findSome? (refusal? text)
  | [] => rfl
  | e :: es => by
    rw [resolveAll, refusalOf_bind _ fun t => refusalOf_bind_ok _ fun ts => rfl, refusalOf_resolve e,
      refusalOf_resolveAll es, ← List.findSome?_append, nodesAll]

end

end Resolve

/-- The nodes of a placed tree are placed. -/
theorem Placed.of_mem_nodes {text : List Char} {e c : Expr} (h : e.Placed text) (hc : c ∈ e.nodes) :
    c.Placed text := by
  induction h with
  | @mk e present enclosed row spelled parts ih =>
    rw [nodes_eq present] at hc
    rcases List.mem_cons.mp hc with rfl | hc
    · exact .mk present enclosed row spelled parts
    · obtain ⟨p, hp, hc⟩ := List.mem_flatMap.mp hc
      cases hpresent : p.isPresent with
      | true => exact ih p hp hpresent hc
      | false =>
        cases p with
        | absent => cases hc
        | _ => cases hpresent

/-- **Unsupported calls are refused, and nothing else is.** Whatever the schema and the text, a tree is
refused if and only if it has an unsupported call. It is then refused for the first one in the order of
the source, a node coming before its parts: for its first argument that is not passed by position, and
for its callee only if there is no such argument. The message quotes the source of that call, and in a
text that was parsed to the tree every node has its source. -/
theorem resolve_refuses_first_call (schema : Schema) (text : List Char) (e : Expr) :
    ((∃ u, e.resolve schema text = .error u) ↔ ∃ c ∈ e.nodes, c.IsUnsupported) ∧
    (∀ u, e.resolve schema text = .error u ↔
      ∃ front call back, e.nodes = front ++ call :: back ∧ (∀ c ∈ front, ¬ c.IsUnsupported) ∧
        call.Refused (textBetween text call.span.start call.span.stop) u u.message) ∧
    ∀ source, parse source = .ok e → ∀ c ∈ e.nodes, ∃ quoted,
      Text.slice? source.toList c.span.start c.span.stop = some quoted ∧
      textBetween source.toList c.span.start c.span.stop = String.ofList quoted := by
  -- the refusal is that of the first node that is refused by itself
  have hfirst : ∀ u, e.resolve schema text = .error u ↔
      e.nodes.findSome? (refusal? text) = some u := fun u => by
    rw [← refusalOf_resolve schema text e, refusalOf_eq_some_iff]
  refine ⟨?_, fun u => ?_, fun source hparse c hc => ?_⟩
  · rw [exists_congr hfirst, ← Option.isSome_iff_exists, List.findSome?_isSome_iff]
    refine exists_congr fun c => and_congr_right fun _ => ?_
    rw [Option.isSome_iff_ne_none, ne_eq, refusal?_eq_none_iff, not_not]
  · rw [hfirst, List.findSome?_eq_some_iff]
    refine exists_congr fun front => exists_congr fun call => exists_congr fun back => ?_
    refine and_congr_right fun _ => ?_
    rw [and_comm, refusal?_eq_some_iff]
    exact and_congr_left fun _ => forall₂_congr fun c _ => refusal?_eq_none_iff
  · -- in a text that was parsed the span of a node lies between whole characters
    obtain ⟨hplaced, -, -⟩ := placed_of_parse hparse
    have hnode := hplaced.of_mem_nodes hc
    obtain ⟨quoted, hquoted⟩ := Text.exists_slice? hnode.boundary_start hnode.boundary_stop hnode.span_le
    exact ⟨quoted, hquoted, textBetween_of_slice? hquoted⟩

/-- Three calls are unsupported. The method in the list comes first: before the call of an item among its
own arguments, and before the keyword in the bound of the slice. -/
theorem resolve_refuses_first_call_nested :
    ∃ e u, parse "[ü, v.w(p[1](), **q)][z(k=1):]" = .ok e ∧
      e.resolve {} "[ü, v.w(p[1](), **q)][z(k=1):]".toList = .error u ∧
      u.message = "Star arguments are not supported in vSQL: `v.w(p[1](), **q)`" ∧
      (∃ c ∈ e.nodes, c.IsUnsupported) ∧
      ∃ front call back quoted, e.nodes = front ++ call :: back ∧
        (∀ c ∈ front, ¬ c.IsUnsupported) ∧
        Text.slice? "[ü, v.w(p[1](), **q)][z(k=1):]".toList call.span.start call.span.stop = some quoted ∧
        call.Refused (String.ofList quoted) u u.message := by
  have hsome : (parse "[ü, v.w(p[1](), **q)][z(k=1):]").toOption.map
      (fun e => refusalOf (e.resolve {} "[ü, v.w(p[1](), **q)][z(k=1):]".toList)) =
        some (some (.starArgument "v.w(p[1](), **q)")) := by decide +kernel
  obtain ⟨e, hparse, hrefusal⟩ := exists_of_toOption_map_eq_some hsome
  have herror := refusalOf_eq_some_iff.mp hrefusal
  obtain ⟨hiff, hfirst, hquotes⟩ :=
    resolve_refuses_first_call {} "[ü, v.w(p[1](), **q)][z(k=1):]".toList e
  obtain ⟨front, call, back, hsplit, hfront, hcall⟩ := (hfirst _).mp herror
  have hmem : call ∈ e.nodes := by
    rw [hsplit]
    exact List.mem_append_right front List.mem_cons_self
  obtain ⟨quoted, hslice, hquoted⟩ := hquotes _ hparse call hmem
  rw [hquoted] at hcall
  exact ⟨e, _, hparse, herror, by decide, hiff.mp ⟨_, herror⟩, front, call, back, quoted, hsplit, hfront,
    hslice, hcall⟩

end Expr
end QueryExpr
