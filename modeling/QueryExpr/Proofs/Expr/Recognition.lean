import QueryExpr.Proofs.Expr.Grammar
import QueryExpr.Proofs.Expr.Moves
import QueryExpr.Proofs.Expr.Placement

/-!
# The parser recognizes the grammar

What the parser accepts is a phrase of the grammar. The proof is an invariant of the parser's stack:
the tokens that are read so far are those of the constructs on it, each with parts that are phrases
(`Begun`), and each construct will be a phrase of a layer that the one below it admits (`Covers`).
Closing a construct makes a phrase out of it (`CompleteAt.close`), so every token preserves the
invariant (`step_reached`).

Together with the fact that every phrase is read this settles the grammar: the parser accepts exactly
its phrases, and since the parser has one result, a phrase has one tree.
-/

namespace QueryExpr

/-- No operator between operands is looser than `or`. -/
theorem BinaryOp.orLevel_le (op : BinaryOp) : orLevel ≤ op.level := by
  cases op <;> decide

/-- Every operator in front of an operand is tighter than `or`. -/
theorem UnaryOp.orLevel_lt (op : UnaryOp) : orLevel < op.level := by
  cases op <;> decide

namespace Layer

/-- No two layers are on one level. -/
theorem level_inj {layer layer' : Layer} (h : layer.level = layer'.level) : layer = layer' := by
  cases layer <;> cases layer' <;> cases h <;> rfl

/-- There is a next layer before every tighter one. -/
theorem exists_tighter? {looser layer : Layer} (h : looser.level < layer.level) :
    ∃ next, looser.tighter? = some next ∧ looser.level < next.level ∧ next.level ≤ layer.level := by
  cases looser with
  | primary => cases layer <;> exact absurd h (by decide)
  | sign =>
    -- no layer has the level between the signs and the primaries
    refine ⟨.primary, rfl, by decide, ?_⟩
    cases layer <;> revert h <;> decide
  | _ => exact ⟨_, rfl, by decide, h⟩

/-- A sign binds tighter than every operator between operands. -/
theorem level_lt_of_mem_operators {layer : Layer} {op : BinaryOp} (h : op ∈ layer.operators) :
    op.level < Layer.sign.level := by
  cases layer <;> revert op <;> decide

/-- Every operator but item access belongs to a layer. -/
theorem exists_mem_operators {op : BinaryOp} (h : op ≠ .item) :
    ∃ layer : Layer, op ∈ layer.operators := by
  cases op with
  | item => exact absurd rfl h
  | or => exact ⟨.disjunction, by decide⟩
  | and => exact ⟨.conjunction, by decide⟩
  | bitOr => exact ⟨.bitOr, by decide⟩
  | bitXor => exact ⟨.bitXor, by decide⟩
  | bitAnd => exact ⟨.bitAnd, by decide⟩
  | shiftLeft | shiftRight => exact ⟨.shift, by decide⟩
  | add | sub => exact ⟨.sum, by decide⟩
  | mul | trueDiv | floorDiv | mod => exact ⟨.product, by decide⟩
  | _ => exact ⟨.comparison, by decide⟩

end Layer

/-- A phrase is also one of every looser layer. -/
theorem Derives.loosen {layer : Layer} {ts : List Token} {e : Expr} (h : Derives layer ts e)
    (looser : Layer) (hle : looser.level ≤ layer.level) : Derives looser ts e := by
  -- one layer after the other, from the looser one on
  by_cases heq : looser.level = layer.level
  · rw [Layer.level_inj heq]
    exact h
  · obtain ⟨next, hnext, hlt, hle'⟩ := Layer.exists_tighter? (Nat.lt_of_le_of_ne hle heq)
    exact .tighter hnext (h.loosen next hle')
termination_by layer.level - looser.level

namespace Parse

/-! ### Parts of brackets -/

/-- What stands between two brackets: items that are read as told, with commas between them. -/
def Listed {α : Type} (reads : List Token → α → Prop) (items : List α) (us : List Token) : Prop :=
  ∃ parts : List (List Token × α), items = parts.map Prod.snd ∧ (∀ p ∈ parts, reads p.1 p.2) ∧
    Commas (parts.map Prod.fst) us

/-- Items that are followed by a comma each. They are given newest first. -/
inductive Items {α : Type} (reads : List Token → α → Prop) : List α → List Token → Prop where
  | nil : Items reads [] []
  | snoc {items : List α} {us ts : List Token} {x : α} (front : Items reads items us)
      (last : reads ts x) : Items reads (x :: items) (us ++ (ts ++ [.symbol .comma]))

namespace Items

variable {α : Type} {reads : List Token → α → Prop} {items : List α} {us ts : List Token} {x : α}

/-- Items with a comma behind each, and parts behind them, are all listed in the order of the text. -/
theorem listed_append (h : Items reads items us) {parts : List (List Token × α)}
    (hparts : ∀ p ∈ parts, reads p.1 p.2) (hne : parts ≠ []) {rest : List Token}
    (hsep : Commas (parts.map Prod.fst) rest) :
    Listed reads (items.reverse ++ parts.map Prod.snd) (us ++ rest) := by
  induction h generalizing parts rest with
  | nil => exact ⟨parts, rfl, hparts, hsep⟩
  | @snoc items us ts x front last ih =>
    -- the newest item joins the parts behind it
    have hcons : Commas (((ts, x) :: parts).map Prod.fst) (ts ++ .symbol .comma :: rest) :=
      .cons ts rfl (by simpa using hne) hsep
    have hlisted := ih (List.forall_mem_cons.mpr ⟨last, hparts⟩) (List.cons_ne_nil _ _) hcons
    simpa only [List.reverse_cons, List.append_assoc, List.cons_append, List.nil_append,
      List.map_cons] using hlisted

/-- The bracket may be closed behind a comma, or directly. -/
theorem listed (h : Items reads items us) : Listed reads items.reverse us := by
  cases h with
  | nil => exact ⟨[], rfl, List.forall_mem_nil _, .nil⟩
  | @snoc items us ts x front last =>
    rw [List.reverse_cons]
    exact front.listed_append (List.forall_mem_singleton.mpr last) (List.cons_ne_nil (ts, x) _)
      (.trailing ts rfl)

/-- The bracket may be closed behind an item. -/
theorem listed_last (h : Items reads items us) (last : reads ts x) :
    Listed reads (x :: items).reverse (us ++ ts) := by
  rw [List.reverse_cons]
  exact h.listed_append (List.forall_mem_singleton.mpr last) (List.cons_ne_nil (ts, x) _) (.last ts)

end Items

/-- An item of a list or a set. -/
def IsItem (ts : List Token) (e : Expr) : Prop := Derives .conditional ts e.unplaced

/-- An argument, with what tells how it is passed. -/
def IsArg (ts : List Token) (arg : ArgKind × Expr) : Prop :=
  ∃ us, ts = arg.1.tokens ++ us ∧ Derives .conditional us arg.2.unplaced

/-- A bound of a slice, which may be left out. -/
def Bounds (us : List Token) (e : Expr) : Prop :=
  (us = [] ∧ e = .absent) ∨ Derives .conditional us e.unplaced

theorem Bounds.exists_option {us : List Token} {e : Expr} (h : Bounds us e) :
    ∃ b : Option (List Token × Expr), us = b.elim [] Prod.fst ∧ e.unplaced = b.elim .absent Prod.snd ∧
      ∀ p ∈ b, Derives .conditional p.1 p.2 := by
  rcases h with ⟨rfl, rfl⟩ | h
  · exact ⟨none, rfl, rfl, nofun⟩
  · refine ⟨some (us, e.unplaced), rfl, rfl, ?_⟩
    rintro p ⟨⟩
    exact h

section Derives

variable {ts us us' : List Token} {items : List Expr} {args : List (ArgKind × Expr)}

theorem Listed.exists_unplaced (h : Listed IsItem items us) :
    ∃ parts : List (List Token × Expr), Expr.unplacedAll items = parts.map Prod.snd ∧
      (∀ p ∈ parts, Derives .conditional p.1 p.2) ∧ Commas (parts.map Prod.fst) us := by
  obtain ⟨parts, rfl, hparts, hsep⟩ := h
  refine ⟨parts.map fun p => (p.1, p.2.unplaced), ?_, ?_, ?_⟩
  · rw [Expr.unplacedAll_eq, List.map_map, List.map_map]
    rfl
  · exact List.forall_mem_map.mpr hparts
  · rw [List.map_map]
    exact hsep

theorem Listed.derives_list (h : Listed IsItem items us) (place : Place) :
    Derives .primary (.symbol .lbracket :: (us ++ [.symbol .rbracket]))
      (Expr.list place items).unplaced := by
  obtain ⟨parts, hitems, hparts, hsep⟩ := h.exists_unplaced
  rw [Expr.unplaced, hitems]
  exact .list hparts hsep

theorem Listed.derives_set (h : Listed IsItem items us) (hne : items ≠ []) (place : Place) :
    Derives .primary (.symbol .lbrace :: (us ++ [.symbol .rbrace]))
      (Expr.set place items).unplaced := by
  obtain ⟨parts, hitems, hparts, hsep⟩ := h.exists_unplaced
  rw [Expr.unplaced, hitems]
  refine .set ?_ hparts hsep
  rintro rfl
  rw [Expr.unplacedAll_eq] at hitems
  exact hne (List.map_eq_nil_iff.mp hitems)

/-- The kinds, the tokens and the trees of arguments. -/
theorem exists_args {parts : List (List Token × ArgKind × Expr)}
    (h : ∀ p ∈ parts, IsArg p.1 p.2) :
    ∃ args : List (ArgKind × List Token × Expr),
      (∀ a ∈ args, Derives .conditional a.2.1 a.2.2) ∧
      (args.map fun a => a.1.tokens ++ a.2.1) = parts.map Prod.fst ∧
      (args.map fun a => a.1) = parts.map (fun p => p.2.1) ∧
      (args.map fun a => a.2.2) = parts.map fun p => p.2.2.unplaced := by
  induction parts with
  | nil => exact ⟨[], List.forall_mem_nil _, rfl, rfl, rfl⟩
  | cons p parts ih =>
    obtain ⟨⟨us, hus, hderives⟩, hrest⟩ := List.forall_mem_cons.mp h
    obtain ⟨args, hargs, htokens, hkinds, htrees⟩ := ih hrest
    refine ⟨(p.2.1, us, p.2.2.unplaced) :: args, List.forall_mem_cons.mpr ⟨hderives, hargs⟩, ?_⟩
    simp only [List.map_cons, htokens, hkinds, htrees, hus, and_self]

theorem Listed.derives_call {callee : Expr} (part : Derives .primary ts callee.unplaced)
    (h : Listed IsArg args us) (stop : Nat) :
    Derives .primary (ts ++ .symbol .lparen :: (us ++ [.symbol .rparen]))
      (Expr.mkCall callee args stop).unplaced := by
  obtain ⟨parts, rfl, hparts, hsep⟩ := h
  obtain ⟨args, hargs, htokens, hkinds, htrees⟩ := exists_args hparts
  have hcall := Derives.call part hargs (by rw [htokens]; exact hsep)
  rw [hkinds, htrees] at hcall
  rw [Expr.unplaced_mkCall, List.map_map, List.map_map]
  exact hcall

theorem derives_slice {obj low high : Expr} (part : Derives .primary ts obj.unplaced)
    (hlow : Bounds us low) (hhigh : Bounds us' high) (stop : Nat) :
    Derives .primary (ts ++ .symbol .lbracket :: ((us ++ [.symbol .colon]) ++
      (us' ++ [.symbol .rbracket]))) (Expr.mkSlice obj low high stop).unplaced := by
  obtain ⟨b, rfl, hb, parts⟩ := hlow.exists_option
  obtain ⟨b', rfl, hb', parts'⟩ := hhigh.exists_option
  have hslice := Derives.slice part parts parts'
  rw [← hb, ← hb'] at hslice
  exact hslice

end Derives

/-! ### Constructs that have begun -/

/-- The tokens of a construct so far. All its parts are phrases, and an operand is wanted next. -/
inductive Begun : Frame → List Token → Prop where
  | binary {layer : Layer} {op : BinaryOp} {ts : List Token} {left : Expr}
      (hop : op ∈ layer.operators) (part : Derives layer ts left.unplaced) :
      Begun (.binary op left) (ts ++ op.tokens)
  | unary {layer : Layer} {op : UnaryOp} (hop : op ∈ layer.signs) (start : Nat) :
      Begun (.unary op start) [op.token]
  | test {ts : List Token} {yes : Expr} (part : Derives .disjunction ts yes.unplaced) :
      Begun (.test yes) (ts ++ [.keyword .ifWord])
  | otherwise {ts ts' : List Token} {yes test : Expr} (part : Derives .disjunction ts yes.unplaced)
      (part' : Derives .disjunction ts' test.unplaced) :
      Begun (.otherwise yes test) (ts ++ .keyword .ifWord :: (ts' ++ [.keyword .elseWord]))
  | paren (start : Nat) : Begun (.paren start) [.symbol .lparen]
  | list {items : List Expr} {us : List Token} (parts : Items IsItem items us) (start : Nat) :
      Begun (.list start items) (.symbol .lbracket :: us)
  | set {items : List Expr} {us : List Token} (parts : Items IsItem items us) (start : Nat) :
      Begun (.set start items) (.symbol .lbrace :: us)
  | call {ts us : List Token} {callee : Expr} {args : List (ArgKind × Expr)}
      (part : Derives .primary ts callee.unplaced) (parts : Items IsArg args us) (kind : ArgKind) :
      Begun (.call callee args kind) (ts ++ .symbol .lparen :: (us ++ kind.tokens))
  | subscript {ts : List Token} {obj : Expr} (part : Derives .primary ts obj.unplaced) (start : Nat) :
      Begun (.subscript obj start) (ts ++ [.symbol .lbracket])
  | slice {ts us : List Token} {obj low : Expr} (part : Derives .primary ts obj.unplaced)
      (bound : Bounds us low) :
      Begun (.slice obj low) (ts ++ .symbol .lbracket :: (us ++ [.symbol .colon]))

/-- The level of the operand that the construct will be. -/
def Frame.yields : Frame → Nat
  | .binary op _ => op.level
  | .unary op _ => op.level
  | .test _ | .otherwise _ _ => condLevel
  | _ => primaryLevel

/-- The tokens so far are those of the constructs on the stack, and each construct may stand where it
stands. -/
inductive Covers : List Frame → List Token → Prop where
  | nil : Covers [] []
  | cons {f : Frame} {fs : List Frame} {ts us : List Token} (below : Covers fs ts)
      (fits : demand fs ≤ f.yields) (frame : Begun f us) : Covers (f :: fs) (ts ++ us)

/-- A primary is complete over the stack. -/
def PrimaryAt (frames : List Frame) (e : Expr) (ts : List Token) : Prop :=
  ∃ front back, ts = front ++ back ∧ Covers frames front ∧ Derives .primary back e.unplaced

/-- An operand of at least this level is complete over the stack. -/
def CompleteAt (level : Nat) (frames : List Frame) (e : Expr) (ts : List Token) : Prop :=
  ∃ layer front back, ts = front ++ back ∧ Covers frames front ∧ Derives layer back e.unplaced ∧
    level ≤ layer.level ∧ demand frames ≤ layer.level

section Covers

variable {f f' : Frame} {frames fs : List Frame} {ts ws : List Token} {e : Expr}

/-- No construct demands more than an operand with a sign. -/
theorem Covers.demand_le (h : Covers frames ts) : demand frames ≤ Layer.sign.level := by
  cases h with
  | nil => exact Nat.zero_le _
  | cons below fits frame =>
    cases frame with
    | binary hop part => exact Layer.level_lt_of_mem_operators hop
    | @unary layer op hop start =>
      show op.level ≤ Layer.sign.level
      cases op <;> decide
    | test part => exact (by decide : orLevel ≤ Layer.sign.level)
    | _ => exact Nat.zero_le _

/-- The tokens of the topmost construct, and those below it. -/
theorem Covers.exists_top (h : Covers (f :: fs) ts) :
    ∃ front us, ts = front ++ us ∧ Covers fs front ∧ demand fs ≤ f.yields ∧ Begun f us := by
  cases h with
  | cons below fits frame => exact ⟨_, _, rfl, below, fits, frame⟩

/-- A token that begins a construct with brackets. -/
theorem Covers.push (h : Covers fs ts) (hyields : f.yields = primaryLevel) (frame : Begun f ws) :
    Covers (f :: fs) (ts ++ ws) := by
  refine .cons h ?_ frame
  rw [hyields]
  exact Nat.le_trans h.demand_le (by decide)

/-- Tokens that go on with the construct on top of the stack. -/
theorem Covers.replace (h : Covers (f :: fs) ts)
    (hframe : ∀ us, Begun f us → Begun f' (us ++ ws)) (hyields : f'.yields = f.yields) :
    Covers (f' :: fs) (ts ++ ws) := by
  obtain ⟨front, us, rfl, below, fits, frame⟩ := h.exists_top
  rw [List.append_assoc]
  exact .cons below (by rw [hyields]; exact fits) (hframe us frame)

/-- Tokens that end the construct on top of the stack. -/
theorem Covers.finish (h : Covers (f :: fs) ts)
    (hframe : ∀ us, Begun f us → Derives .primary (us ++ ws) e.unplaced) :
    PrimaryAt fs e (ts ++ ws) := by
  obtain ⟨front, us, rfl, below, -, frame⟩ := h.exists_top
  exact ⟨front, us ++ ws, List.append_assoc .., below, hframe us frame⟩

/-- Tokens that begin a construct of which the primary is the first part. -/
theorem PrimaryAt.push (h : PrimaryAt fs e ts) (hyields : f.yields = primaryLevel)
    (hframe : ∀ back, Derives .primary back e.unplaced → Begun f (back ++ ws)) :
    Covers (f :: fs) (ts ++ ws) := by
  obtain ⟨front, back, rfl, hcovers, hderives⟩ := h
  rw [List.append_assoc]
  exact hcovers.push hyields (hframe back hderives)

/-- A primary is an operand of every level. -/
theorem PrimaryAt.completeAt (h : PrimaryAt frames e ts) (level : Nat) (hle : level ≤ primaryLevel) :
    CompleteAt level frames e ts := by
  obtain ⟨front, back, rfl, hcovers, hderives⟩ := h
  exact ⟨.primary, front, back, rfl, hcovers, hderives, hle,
    Nat.le_trans hcovers.demand_le (by decide)⟩

/-! ### Closing -/

/-- **Closing constructs makes phrases of them.** -/
theorem CompleteAt.close {level : Nat} (h : CompleteAt level frames e ts) :
    CompleteAt level (close level frames e).1 (close level frames e).2 ts := by
  -- along the constructs that are closed; each becomes the operand of the one below
  fun_induction Parse.close level frames e with
  | case1 op left fs e hle ih =>
    obtain ⟨layer, front, back, rfl, hcovers, hderives, -, hdemand⟩ := h
    obtain ⟨bottom, us, rfl, below, fits, frame⟩ := hcovers.exists_top
    cases frame with
    | @binary layer' _ us _ hop part =>
      -- the right operand is tighter than the operator
      have hlevel := (Layer.level_of_mem_operators hop).1
      have hlt : layer'.level < layer.level := by
        rw [← hlevel]
        exact hdemand
      obtain ⟨next, hnext, -, hle'⟩ := Layer.exists_tighter? hlt
      exact ih ⟨layer', bottom, us ++ (op.tokens ++ back), by simp only [List.append_assoc], below,
        .binary hop hnext part (hderives.loosen next hle'), hlevel ▸ hle, hlevel ▸ fits⟩
  | case3 op start fs e hle ih =>
    obtain ⟨layer, front, back, rfl, hcovers, hderives, -, hdemand⟩ := h
    obtain ⟨bottom, us, rfl, below, fits, frame⟩ := hcovers.exists_top
    cases frame with
    | @unary layer' _ hop _ =>
      have hlevel := Layer.level_of_mem_signs hop
      have hle' : layer'.level ≤ layer.level := by
        rw [← hlevel]
        exact hdemand
      have htokens : bottom ++ [op.token] ++ back = bottom ++ op.token :: back := by
        rw [List.append_assoc, List.singleton_append]
      exact ih ⟨layer', bottom, op.token :: back, htokens, below,
        .unary hop (hderives.loosen layer' hle'), hlevel ▸ hle, hlevel ▸ fits⟩
  | case5 yes condition fs e hle ih =>
    obtain ⟨layer, front, back, rfl, hcovers, hderives, -, -⟩ := h
    obtain ⟨bottom, us, rfl, below, fits, frame⟩ := hcovers.exists_top
    cases frame with
    | @otherwise us us' _ _ part part' =>
      refine ih ⟨.conditional, bottom,
        us ++ .keyword .ifWord :: (us' ++ .keyword .elseWord :: back), ?_, below,
        .cond part part' (hderives.loosen .conditional (Nat.zero_le _)), hle, fits⟩
      simp only [List.append_assoc, List.cons_append, List.nil_append]
  | case2 | case4 | case6 | case7 => exact h

/-- What is left after closing demands no more than was asked for. -/
theorem demand_close {level : Nat} (h : orLevel ≤ level) (frames : List Frame) (e : Expr) :
    demand (close level frames e).1 ≤ level := by
  fun_induction Parse.close level frames e with
  | case1 _ _ _ _ _ ih | case3 _ _ _ _ _ ih | case5 _ _ _ _ _ ih => exact ih
  -- an operator that stays open binds looser than what was asked for
  | case2 op left fs e hlt =>
    show op.level + 1 ≤ level
    omega
  | case4 op start fs e hlt =>
    show op.level ≤ level
    omega
  | case6 => exact Nat.zero_le _
  | case7 fs e hbinary hunary hotherwise =>
    cases fs with
    | nil => exact Nat.zero_le _
    | cons f fs =>
      cases f with
      | binary op left => exact absurd rfl (hbinary op left fs)
      | unary op start => exact absurd rfl (hunary op start fs)
      | test yes => exact h
      | _ => exact Nat.zero_le _

/-- The operand is a part of the construct below it, whose demand it meets. -/
theorem CompleteAt.exists_part {level : Nat} (h : CompleteAt level (f :: fs) e ts) (layer : Layer)
    (hlayer : layer.level ≤ f.demand) :
    ∃ front back, ts = front ++ back ∧ Covers (f :: fs) front ∧ Derives layer back e.unplaced := by
  obtain ⟨layer', front, back, rfl, hcovers, hderives, -, hdemand⟩ := h
  exact ⟨front, back, rfl, hcovers, hderives.loosen layer (Nat.le_trans hlayer hdemand)⟩

/-- The operand becomes a part of the construct below it, which goes on. -/
theorem CompleteAt.replace {level : Nat} (h : CompleteAt level (f :: fs) e ts) (layer : Layer)
    (hlayer : layer.level ≤ f.demand)
    (hframe : ∀ us back, Begun f us → Derives layer back e.unplaced → Begun f' (us ++ (back ++ ws)))
    (hyields : f'.yields = f.yields) : Covers (f' :: fs) (ts ++ ws) := by
  obtain ⟨front, back, rfl, hcovers, hderives⟩ := h.exists_part layer hlayer
  rw [List.append_assoc]
  exact hcovers.replace (fun us hus => hframe us back hus hderives) hyields

/-- The operand is the last part of the construct below it. -/
theorem CompleteAt.finish {level : Nat} (h : CompleteAt level (f :: fs) e ts) {e' : Expr}
    (hframe : ∀ us back, Begun f us → Derives .conditional back e.unplaced →
      Derives .primary (us ++ (back ++ ws)) e'.unplaced) : PrimaryAt fs e' (ts ++ ws) := by
  obtain ⟨front, back, rfl, hcovers, hderives⟩ := h.exists_part .conditional (Nat.zero_le _)
  rw [List.append_assoc]
  exact hcovers.finish fun us hus => hframe us back hus hderives

end Covers

/-! ### Going on with a construct and ending it -/

namespace Begun

variable {start : Nat} {items : List Expr} {args : List (ArgKind × Expr)} {kind : ArgKind}
  {callee obj low left e : Expr} {us back : List Token}

/-- The word `not` behind `is`. -/
theorem isNot (h : Begun (.binary .is left) us) :
    Begun (.binary .isNot left) (us ++ [.keyword .not]) := by
  cases h with
  | @binary layer _ ts _ hop part =>
    -- both operators are of one layer
    have hop' : BinaryOp.isNot ∈ layer.operators := by
      revert hop
      cases layer <;> decide
    rw [List.append_assoc]
    exact .binary hop' part

/-- What tells how the next argument is passed. -/
theorem pass (h : Begun (.call callee args .positional) us) (kind : ArgKind) :
    Begun (.call callee args kind) (us ++ kind.tokens) := by
  cases h with
  | call part parts _ =>
    rw [List.append_assoc, List.cons_append, List.append_assoc]
    exact .call part parts kind

section Next

variable (hback : Derives .conditional back e.unplaced)

include hback

/-- A comma behind an item of a list. -/
theorem next_list (h : Begun (.list start items) us) :
    Begun (.list start (e :: items)) (us ++ (back ++ [.symbol .comma])) := by
  cases h with
  | list parts _ => exact .list (parts.snoc hback) start

/-- A comma behind an item of a set. -/
theorem next_set (h : Begun (.set start items) us) :
    Begun (.set start (e :: items)) (us ++ (back ++ [.symbol .comma])) := by
  cases h with
  | set parts _ => exact .set (parts.snoc hback) start

/-- A comma behind an argument; how the next one is passed is open. -/
theorem next_call (h : Begun (.call callee args kind) us) :
    Begun (.call callee (finishArg args kind e) .positional) (us ++ (back ++ [.symbol .comma])) := by
  cases h with
  | call part parts _ =>
    have harg : IsArg (kind.tokens ++ back) (kind, e) := ⟨back, rfl, hback⟩
    have hcall := Begun.call part (parts.snoc harg) .positional
    have htokens : ArgKind.positional.tokens = [] := rfl
    simpa only [finishArg, htokens, List.append_assoc, List.cons_append, List.append_nil] using hcall

/-- A colon behind the lower bound of a slice. -/
theorem next_slice (h : Begun (.subscript obj start) us) :
    Begun (.slice obj e) (us ++ (back ++ [.symbol .colon])) := by
  cases h with
  | subscript part _ =>
    rw [List.append_assoc]
    exact .slice part (.inr hback)

/-- A parenthesis behind an operand. -/
theorem last_paren (h : Begun (.paren start) us) (stop : Nat) :
    Derives .primary (us ++ (back ++ [.symbol .rparen])) (e.parenthesized start stop).unplaced := by
  cases h with
  | paren _ =>
    rw [e.unplaced_parenthesized]
    exact .paren hback

/-- A bracket behind the last item of a list. -/
theorem last_list (h : Begun (.list start items) us) (place : Place) :
    Derives .primary (us ++ (back ++ [.symbol .rbracket]))
      (Expr.list place (e :: items).reverse).unplaced := by
  cases h with
  | list parts _ =>
    rw [List.cons_append, ← List.append_assoc]
    exact (parts.listed_last hback).derives_list place

/-- A brace behind the last item of a set, which then has an item. -/
theorem last_set (h : Begun (.set start items) us) (place : Place) :
    Derives .primary (us ++ (back ++ [.symbol .rbrace]))
      (Expr.set place (e :: items).reverse).unplaced := by
  cases h with
  | set parts _ =>
    rw [List.cons_append, ← List.append_assoc]
    exact (parts.listed_last hback).derives_set (by simp) place

/-- A parenthesis behind the last argument. -/
theorem last_call (h : Begun (.call callee args kind) us) (stop : Nat) :
    Derives .primary (us ++ (back ++ [.symbol .rparen]))
      (Expr.mkCall callee (finishArg args kind e).reverse stop).unplaced := by
  cases h with
  | call part parts _ =>
    have harg : IsArg (kind.tokens ++ back) (kind, e) := ⟨back, rfl, hback⟩
    have hcall := Listed.derives_call part (parts.listed_last harg) stop
    simpa only [finishArg, List.append_assoc, List.cons_append] using hcall

/-- A bracket behind an index. -/
theorem last_item (h : Begun (.subscript obj start) us) (stop : Nat) :
    Derives .primary (us ++ (back ++ [.symbol .rbracket])) (Expr.mkItem obj e stop).unplaced := by
  cases h with
  | subscript part _ =>
    rw [List.append_assoc]
    exact .item part hback

end Next

/-- The word `else` behind the test of a conditional. -/
theorem otherwise_test {yes : Expr} (h : Begun (.test yes) us)
    (hback : Derives .disjunction back e.unplaced) :
    Begun (.otherwise yes e) (us ++ (back ++ [.keyword .elseWord])) := by
  cases h with
  | test part =>
    rw [List.append_assoc]
    exact .otherwise part hback

/-- The colon of a slice without a lower bound. -/
theorem slice_absent (h : Begun (.subscript obj start) us) :
    Begun (.slice obj .absent) (us ++ [.symbol .colon]) := by
  cases h with
  | subscript part _ =>
    rw [List.append_assoc]
    exact .slice part (.inl ⟨rfl, rfl⟩)

/-- A bracket where an item could come. -/
theorem end_list (h : Begun (.list start items) us) (place : Place) :
    Derives .primary (us ++ [.symbol .rbracket]) (Expr.list place items.reverse).unplaced := by
  cases h with
  | list parts _ => exact parts.listed.derives_list place

/-- A brace where an item could come, which needs one before. -/
theorem end_set (h : Begun (.set start items) us) (hne : items ≠ []) (place : Place) :
    Derives .primary (us ++ [.symbol .rbrace]) (Expr.set place items.reverse).unplaced := by
  cases h with
  | set parts _ => exact parts.listed.derives_set (by simpa using hne) place

/-- A parenthesis where an argument could come, without anything that tells how it is passed. -/
theorem end_call (h : Begun (.call callee args .positional) us) (stop : Nat) :
    Derives .primary (us ++ [.symbol .rparen]) (Expr.mkCall callee args.reverse stop).unplaced := by
  cases h with
  | call part parts _ =>
    rw [List.append_assoc, List.cons_append, List.append_assoc]
    exact parts.listed.derives_call part stop

/-- A bracket behind the upper bound of a slice, or in its place. -/
theorem end_slice (h : Begun (.slice obj low) us) (hbound : Bounds back e) (stop : Nat) :
    Derives .primary (us ++ (back ++ [.symbol .rbracket])) (Expr.mkSlice obj low e stop).unplaced := by
  cases h with
  | slice part bound =>
    rw [List.append_assoc, List.cons_append]
    exact derives_slice part bound hbound stop

end Begun

/-! ### One token -/

/-- What is known of the construct on top of the stack from what may come instead of an operand. -/
def Opened : Opening → List Frame → Prop
  | .first, .call _ _ kind :: _ | .more, .call _ _ kind :: _ => kind = .positional
  | .more, .set _ items :: _ => items ≠ []
  | .brace, .set _ items :: _ => items = []
  | .identity, .binary op _ :: _ => op = .is
  | _, _ => True

/-- The parser may be in the situation after these tokens. A name that is all of an operand is known by
its token, since it may turn out to be that of an argument. -/
def Reached : State → List Token → Prop
  | .want frames opening, ts => Covers frames ts ∧ Opened opening frames
  | .complete frames e single, ts => PrimaryAt frames e ts ∧ (single = true →
      ∀ place n, e = .name place n → ∃ front, ts = front ++ [.ident n] ∧ Covers frames front)
  | .emptySet frames _, ts =>
    ∃ front, ts = front ++ [.symbol .lbrace, .symbol .slash] ∧ Covers frames front
  | .member frames obj, ts => ∃ front, ts = front ++ [.symbol .dot] ∧ PrimaryAt frames obj front
  | .notIn frames e, ts => ∃ front, ts = front ++ [.keyword .not] ∧ PrimaryAt frames e front

section Step

variable {frames : List Frame} {e : Expr} {ts : List Token} {l : Lexeme} {s : State}

/-- An operand of several tokens is not a name. -/
theorem PrimaryAt.reached (h : PrimaryAt frames e ts) : Reached (.complete frames e false) ts :=
  ⟨h, nofun⟩

/-- A construct that begins is one of the grammar, with nothing in it. -/
theorem Opens.reached {f : Frame} {opening : Opening} (h : Opens frames l f opening)
    (hcovers : Covers frames ts) : Reached (.want (f :: frames) opening) (ts ++ [l.token]) := by
  cases h with
  | paren token => rw [token]; exact ⟨hcovers.push rfl (.paren _), trivial⟩
  | list token => rw [token]; exact ⟨hcovers.push rfl (.list .nil _), trivial⟩
  | set token => rw [token]; exact ⟨hcovers.push rfl (.set .nil _), rfl⟩
  | neg token =>
    have hsign : UnaryOp.neg ∈ Layer.sign.signs := by decide
    rw [token]
    exact ⟨.cons hcovers hcovers.demand_le (.unary hsign _), trivial⟩
  | bitNot token =>
    have hsign : UnaryOp.bitNot ∈ Layer.sign.signs := by decide
    rw [token]
    exact ⟨.cons hcovers hcovers.demand_le (.unary hsign _), trivial⟩
  | not token fits =>
    -- the only one of these that is not admitted everywhere
    have hsign : UnaryOp.not ∈ Layer.negation.signs := by decide
    rw [token]
    exact ⟨.cons hcovers fits (.unary hsign _), trivial⟩

/-- Before an argument or behind a comma it is still open how the argument is passed. -/
theorem Opened.eq_positional {opening : Opening} {callee : Expr} {args : List (ArgKind × Expr)}
    {kind : ArgKind} {fs : List Frame} (h : Opened opening (.call callee args kind :: fs))
    (now : opening = .first ∨ opening = .more) : kind = .positional := by
  rcases now with rfl | rfl <;> exact h

/-- A construct that goes on has one more token. -/
theorem GoesOn.reached {f f' : Frame} {fs : List Frame} {opening opening' : Opening}
    (h : GoesOn opening l f f' opening') (hcovers : Covers (f :: fs) ts)
    (hopened : Opened opening (f :: fs)) : Reached (.want (f' :: fs) opening') (ts ++ [l.token]) := by
  cases h with
  | isNot token now =>
    subst now
    obtain rfl := hopened
    rw [token]
    exact ⟨hcovers.replace (fun us => Begun.isNot) rfl, trivial⟩
  | star token now =>
    -- stars stand in front of an argument, before anything else of it
    obtain rfl := hopened.eq_positional now
    rw [token]
    exact ⟨hcovers.replace (fun us hus => hus.pass .star) rfl, trivial⟩
  | starStar token now =>
    obtain rfl := hopened.eq_positional now
    rw [token]
    exact ⟨hcovers.replace (fun us hus => hus.pass .starStar) rfl, trivial⟩
  | colon token now =>
    rw [token]
    exact ⟨hcovers.replace (fun us hus => hus.slice_absent) rfl, trivial⟩

/-- A construct that ends without another operand is a phrase. -/
theorem Ends.reached {f : Frame} {fs : List Frame} {opening : Opening} (h : Ends opening l f e)
    (hcovers : Covers (f :: fs) ts) (hopened : Opened opening (f :: fs)) :
    Reached (.complete fs e false) (ts ++ [l.token]) := by
  cases h with
  | call token now =>
    obtain rfl := hopened.eq_positional now
    rw [token]
    exact (hcovers.finish fun us hus => hus.end_call l.stop).reached
  | list token now => rw [token]; exact (hcovers.finish fun us hus => hus.end_list _).reached
  | set token now =>
    subst now
    rw [token]
    exact (hcovers.finish fun us hus => hus.end_set hopened _).reached
  | slice token now =>
    rw [token]
    exact (hcovers.finish fun us hus => hus.end_slice (.inl ⟨rfl, rfl⟩) _).reached

/-- The braces of a set that has no items yet. -/
theorem Covers.emptySet {start : Nat} {fs : List Frame} (h : Covers (.set start [] :: fs) ts) :
    Reached (.emptySet fs start) (ts ++ [.symbol .slash]) := by
  obtain ⟨front, us, rfl, below, -, frame⟩ := h.exists_top
  cases frame with
  | set parts _ =>
    cases parts
    exact ⟨front, List.append_assoc .., below⟩

/-- **A token where an operand is wanted preserves the invariant.** -/
theorem stepWant_reached {opening : Opening} (hs : Reached (.want frames opening) ts)
    (h : stepWant frames opening l = .ok s) : Reached s (ts ++ [l.token]) := by
  obtain ⟨hcovers, hopened⟩ := hs
  cases stepWant_cases h with
  | literal token => exact ⟨⟨ts, _, rfl, hcovers, .literal token⟩, nofun⟩
  | @name n token =>
    -- the name may yet turn out to be that of an argument
    rw [token]
    refine ⟨⟨ts, _, rfl, hcovers, .name n⟩, ?_⟩
    rintro - place _ ⟨⟩
    exact ⟨ts, rfl, hcovers⟩
  | opens move => exact move.reached hcovers
  | goesOn top move =>
    subst top
    exact move.reached hcovers hopened
  | ends top move =>
    subst top
    exact move.reached hcovers hopened
  | emptySet top token now =>
    subst top now
    obtain rfl := hopened
    rw [token]
    exact hcovers.emptySet

/-- An operator makes what is closed its left operand. -/
theorem PrimaryAt.applyBinary (h : PrimaryAt frames e ts) {op : BinaryOp} (hop : op ≠ .item)
    {opening : Opening} (hopening : opening = .plain ∨ opening = .identity ∧ op = .is) :
    Reached (applyBinary op frames e opening) (ts ++ op.tokens) := by
  obtain ⟨layer, hmem⟩ := Layer.exists_mem_operators hop
  have hlevel := (Layer.level_of_mem_operators hmem).1
  have hlt := Layer.level_lt_of_mem_operators hmem
  have hcomplete := h.completeAt op.level (Nat.le_trans (Nat.le_of_lt hlt) (by decide))
  -- what is left after closing is of the operator's layer, and the construct below admits it
  obtain ⟨layer', front, back, rfl, hcovers, hderives, hle, -⟩ := hcomplete.close
  have hopened : ∀ left fs, Opened opening (.binary op left :: fs) := by
    intro left fs
    rcases hopening with rfl | ⟨rfl, rfl⟩
    · exact trivial
    · rfl
  refine ⟨?_, hopened _ _⟩
  rw [List.append_assoc]
  exact .cons hcovers (demand_close op.orLevel_le frames e)
    (.binary hmem (hderives.loosen layer (hlevel ▸ hle)))

theorem tokens_of_binaryOp? {token : Token} {op : BinaryOp} (h : token.binaryOp? = some op) :
    op.tokens = [token] ∧ op ≠ .item := by
  unfold Token.binaryOp? at h
  split at h <;> cases h <;> exact ⟨rfl, nofun⟩

theorem stepOperator_reached (hs : PrimaryAt frames e ts) (h : stepOperator frames e l = some s) :
    Reached s (ts ++ [l.token]) := by
  unfold stepOperator at h
  split at h
  · next htoken => cases h; rw [htoken]; exact ⟨ts, rfl, hs⟩
  · next htoken =>
    cases h
    rw [htoken]
    exact ⟨hs.push rfl fun back hback => .call hback .nil .positional, rfl⟩
  · next htoken =>
    cases h
    rw [htoken]
    exact ⟨hs.push rfl fun back hback => .subscript hback _, trivial⟩
  · next htoken => cases h; rw [htoken]; exact ⟨ts, rfl, hs⟩
  · next htoken =>
    cases h
    rw [htoken]
    have hitem : BinaryOp.is ≠ .item := by decide
    exact hs.applyBinary hitem (.inr ⟨rfl, rfl⟩)
  · -- all other operators have one token
    obtain ⟨op, hop, rfl⟩ := Option.map_eq_some_iff.mp h
    obtain ⟨htokens, hitem⟩ := tokens_of_binaryOp? hop
    rw [← htokens]
    exact hs.applyBinary hitem (.inl rfl)

/-- The first branch of a conditional is complete. A test around it would have to be closed first, and
every other construct that is still open admits a conditional. -/
theorem CompleteAt.test {yes : Expr} {fs : List Frame} (h : CompleteAt orLevel fs yes ts)
    (hdemand : demand fs ≤ orLevel) (htest : ∀ yes' fs', fs ≠ .test yes' :: fs') :
    Covers (.test yes :: fs) (ts ++ [.keyword .ifWord]) := by
  obtain ⟨layer, front, back, rfl, hcovers, hderives, hle, -⟩ := h
  -- operators demand more than the level that everything was closed to
  have hzero : demand fs ≤ condLevel := by
    cases fs with
    | nil => exact Nat.zero_le _
    | cons f fs =>
      cases f with
      | binary op left => exact absurd hdemand (Nat.not_le.mpr (Nat.lt_succ_of_le op.orLevel_le))
      | unary op start => exact absurd hdemand (Nat.not_le.mpr op.orLevel_lt)
      | test yes' => exact absurd rfl (htest yes' fs)
      | _ => exact Nat.zero_le _
  rw [List.append_assoc]
  exact .cons hcovers hzero (.test (hderives.loosen .disjunction hle))

theorem TakesUp.level_le {level : Nat} {f f' : Frame} {opening : Opening}
    (h : TakesUp l e level f f' opening) : level ≤ primaryLevel := by
  cases h <;> decide

/-- An operand that is taken up is one more part of the construct below it. -/
theorem TakesUp.reached {level : Nat} {f f' : Frame} {fs : List Frame} {opening : Opening}
    (h : TakesUp l e level f f' opening) (hcomplete : CompleteAt level (f :: fs) e ts) :
    Reached (.want (f' :: fs) opening) (ts ++ [l.token]) := by
  -- the operand that was read is put down in the frame of its construct, which asks for another one
  cases h with
  | test token =>
    rw [token]
    refine ⟨hcomplete.replace .disjunction (Nat.le_refl _) (fun us back hus hback => ?_) rfl, trivial⟩
    exact hus.otherwise_test hback
  | list token =>
    rw [token]
    refine ⟨hcomplete.replace .conditional (Nat.zero_le _) (fun us back hus hback => ?_) rfl, trivial⟩
    exact hus.next_list hback
  | set token =>
    rw [token]
    refine ⟨hcomplete.replace .conditional (Nat.zero_le _) (fun us back hus hback => ?_) rfl,
      List.cons_ne_nil _ _⟩
    exact hus.next_set hback
  | call token =>
    rw [token]
    refine ⟨hcomplete.replace .conditional (Nat.zero_le _) (fun us back hus hback => ?_) rfl, rfl⟩
    exact hus.next_call hback
  | colon token =>
    rw [token]
    refine ⟨hcomplete.replace .conditional (Nat.zero_le _) (fun us back hus hback => ?_) rfl, trivial⟩
    exact hus.next_slice hback

/-- A construct that is completed with its last part is a phrase. -/
theorem Completes.reached {f : Frame} {fs : List Frame} {node : Expr} (h : Completes l e f node)
    (hcomplete : CompleteAt condLevel (f :: fs) e ts) :
    Reached (.complete fs node false) (ts ++ [l.token]) := by
  refine PrimaryAt.reached ?_
  -- the construct is closed behind its last part, and is a primary as a whole
  cases h with
  | paren token =>
    rw [token]
    exact hcomplete.finish fun us back hus hback => hus.last_paren hback _
  | call token =>
    rw [token]
    exact hcomplete.finish fun us back hus hback => hus.last_call hback _
  | list token =>
    rw [token]
    exact hcomplete.finish fun us back hus hback => hus.last_list hback _
  | item token =>
    rw [token]
    exact hcomplete.finish fun us back hus hback => hus.last_item hback _
  | slice token =>
    rw [token]
    exact hcomplete.finish fun us back hus hback => hus.end_slice (.inr hback) _
  | set token =>
    rw [token]
    exact hcomplete.finish fun us back hus hback => hus.last_set hback _

theorem stepClose_reached (hs : PrimaryAt frames e ts) (h : stepClose frames e l = .ok s) :
    Reached s (ts ++ [l.token]) := by
  -- the token closes what binds tighter than the construct that it belongs to
  cases stepClose_cases h with
  | test closed token none =>
    have hcomplete := (hs.completeAt orLevel (by decide)).close
    have hdemand := demand_close (Nat.le_refl orLevel) frames e
    rw [closed] at hcomplete hdemand
    rw [token]
    exact ⟨hcomplete.test hdemand none, trivial⟩
  | @takesUp level f f' fs e' opening closed move =>
    have hcomplete := (hs.completeAt level move.level_le).close
    rw [closed] at hcomplete
    exact move.reached hcomplete
  | completes closed move =>
    have hcomplete := (hs.completeAt condLevel (by decide)).close
    rw [closed] at hcomplete
    exact move.reached hcomplete

theorem stepAssign_reached {single : Bool} (hs : Reached (.complete frames e single) ts)
    (h : stepAssign frames e single = .ok s) : Reached s (ts ++ [.symbol .assign]) := by
  unfold stepAssign at h
  split at h
  · next place n callee args fs =>
    -- the name was no operand
    cases h
    obtain ⟨front, rfl, hcovers⟩ := hs.2 rfl place n rfl
    rw [List.append_assoc]
    exact ⟨hcovers.replace (fun us hus => hus.pass (.keyword n)) rfl, trivial⟩
  · cases h

/-- **One token** is taken up by a construct of the grammar. -/
theorem step_reached {s' : State} (hs : Reached s ts) (h : step s l = .ok s') :
    Reached s' (ts ++ [l.token]) := by
  cases s with
  | want frames opening => exact stepWant_reached hs h
  | complete frames e single =>
    rw [step] at h
    split at h
    · next htoken =>
      -- a name and the sign `=`, inside a call
      rw [htoken]
      exact stepAssign_reached hs h
    · split at h
      · next hop =>
        cases h
        exact stepOperator_reached hs.1 hop
      · exact stepClose_reached hs.1 h
  | emptySet frames start =>
    rw [step] at h
    split at h
    · next htoken =>
      cases h
      obtain ⟨front, rfl, hcovers⟩ := hs
      rw [htoken, List.append_assoc]
      exact PrimaryAt.reached ⟨front, _, rfl, hcovers, .emptySet⟩
    · cases h
  | member frames obj =>
    rw [step] at h
    split at h
    · next n htoken =>
      cases h
      obtain ⟨_, rfl, front, back, rfl, hcovers, hderives⟩ := hs
      rw [htoken]
      refine PrimaryAt.reached ⟨front, back ++ [.symbol .dot, .ident n], ?_, hcovers, .attr n hderives⟩
      simp only [List.append_assoc, List.cons_append, List.nil_append]
    · cases h
  | notIn frames e =>
    rw [step] at h
    split at h
    · next htoken =>
      cases h
      obtain ⟨front, rfl, hprimary⟩ := hs
      rw [htoken, List.append_assoc]
      have hitem : BinaryOp.notContains ≠ .item := by decide
      exact hprimary.applyBinary hitem (.inl rfl)
    · cases h

end Step

/-! ### Whole texts -/

/-- At the end of the text all constructs are closed. -/
theorem finish_reached {s : State} {ts : List Token} {e : Expr} (hs : Reached s ts)
    (h : finish s = some e) : Derives .conditional ts e.unplaced := by
  cases s with
  | complete frames operand single =>
    have hcond := (hs.1.completeAt condLevel (by decide)).close
    rw [finish] at h
    split at h
    · next hclose =>
      cases h
      rw [hclose] at hcond
      -- the stack is empty, so the operand is the whole text
      obtain ⟨layer, front, back, rfl, hcovers, hderives, -, -⟩ := hcond
      cases hcovers
      exact hderives.loosen .conditional (Nat.zero_le _)
    · cases h
  | _ => cases h

/-- **What is accepted is a phrase**, with the tree that is the result. -/
theorem run_derives {length : Nat} {s : State} {ts : List Token} {ls : List Lexeme} {e : Expr}
    (hs : Reached s ts) (h : run length s ls = .ok e) :
    Derives .conditional (ts ++ ls.map Lexeme.token) e.unplaced := by
  induction ls generalizing s ts with
  | nil =>
    rw [run] at h
    split at h
    · next hfinish =>
      cases h
      rw [List.map_nil, List.append_nil]
      exact finish_reached hs hfinish
    · cases h
  | cons l ls ih =>
    rw [run] at h
    split at h
    · next hstep =>
      have hderives := ih (step_reached hs hstep) h
      rwa [List.append_assoc, List.singleton_append] at hderives
    · cases h
    · cases h

end Parse

namespace Expr

open Parse

variable {length : Nat} {ls : List Lexeme}

theorem derives_of_ofTokens {e : Expr} (h : ofTokens length ls = .ok e) :
    Derives .conditional (ls.map Lexeme.token) e.unplaced := by
  have hinitial : Reached initial [] := ⟨.nil, trivial⟩
  exact run_derives hinitial h

/-- **What is accepted is spelled by its tokens**, places and all. -/
theorem spells_of_ofTokens {e : Expr} (h : ofTokens length ls = .ok e) : Spells .conditional ls e := by
  obtain ⟨e', -, hspells⟩ := (derives_of_ofTokens h).spelled ls rfl
  have he' := ofTokens_of_operand length hspells.operand
  obtain rfl : e = e' := Except.ok.inj (h.symm.trans he')
  exact hspells

/-- **A phrase is accepted**, with its tree. -/
theorem exists_ofTokens_of_derives (length : Nat) {t : Expr}
    (h : Derives .conditional (ls.map Lexeme.token) t) :
    ∃ e, ofTokens length ls = .ok e ∧ e.unplaced = t := by
  obtain ⟨e, he, hspells⟩ := h.spelled ls rfl
  exact ⟨e, ofTokens_of_operand length hspells.operand, he⟩

/-- **The parser recognizes the grammar.** For every sequence of tokens it succeeds if and only if the
sequence is a phrase; a phrase has one tree, and that is the result. -/
theorem ofTokens_iff_derives (length : Nat) (ls : List Lexeme) :
    ((∃ e, ofTokens length ls = .ok e) ↔ ∃ t, Derives .conditional (ls.map Lexeme.token) t) ∧
    (∀ t t', Derives .conditional (ls.map Lexeme.token) t →
      Derives .conditional (ls.map Lexeme.token) t' → t = t') ∧
    ∀ e, ofTokens length ls = .ok e → Derives .conditional (ls.map Lexeme.token) e.unplaced := by
  refine ⟨⟨?_, ?_⟩, ?_, fun e => derives_of_ofTokens⟩
  · rintro ⟨e, h⟩
    exact ⟨e.unplaced, derives_of_ofTokens h⟩
  · rintro ⟨t, h⟩
    obtain ⟨e, he, -⟩ := exists_ofTokens_of_derives length h
    exact ⟨e, he⟩
  · -- two trees of one phrase are both what the parser returns
    intro t t' h h'
    obtain ⟨e, he, rfl⟩ := exists_ofTokens_of_derives length h
    obtain ⟨e', he', rfl⟩ := exists_ofTokens_of_derives length h'
    obtain rfl : e = e' := Except.ok.inj (he.symm.trans he')
    rfl

end Expr

end QueryExpr
