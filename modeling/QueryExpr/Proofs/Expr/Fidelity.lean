import Mathlib.Data.List.Forall2
import QueryExpr.Compile
import QueryExpr.Proofs.Expr.Placement
import QueryExpr.Proofs.Term.Source

/-!
# Source fidelity

A term that was read from a text writes exactly that text again. The source of a node is cut out of
the text around its operands, and the cuts are made at the byte offsets that the parser has left in
the expression; an offset that denotes no position would silently give an empty piece.

`cutOut?` is the cutting that refuses such an offset. In a placed expression it never does
(`cutOut?_eq_some`), and what it cuts, with the sources of the operands in between, is the text of the
node's own range (`slice?_cutOut`). The induction over the expression is `covers_of_resolve`; its step
uses that the operands of a node are placed and in a row (`Placed.operand`, `Placed.row_operands`),
which for a call of a method has to look through the callee. `compile_source` is the result for
whole texts.
-/

namespace QueryExpr

open Text

/-- A computation that goes on after a first step succeeds only if both do. -/
theorem exists_of_bind_eq_ok {ε α β : Type} {x : Except ε α} {f : α → Except ε β} {b : β}
    (h : x >>= f = .ok b) : ∃ a, x = .ok a ∧ f a = .ok b := by
  cases x with
  | error e => cases h
  | ok a => exact ⟨a, rfl, h⟩

/-- What a computation gives can be read off the value that it gives, if any. -/
theorem exists_of_toOption_map_eq_some {ε α β : Type} {x : Except ε α} {f : α → β} {b : β}
    (h : x.toOption.map f = some b) : ∃ a, x = .ok a ∧ f a = b := by
  cases x with
  | error e => cases h
  | ok a => exact ⟨a, rfl, by simpa [Except.toOption] using h⟩

/-- Fields and constants, which have SQL of their own. -/
def NodeType.isLeaf : NodeType → Bool
  | .field | .const _ => true
  | _ => false

/-- The numbers of slots that a node with this head can have. -/
def Head.Takes : Head → Nat → Prop
  | .field _ _, n => n ≤ 1
  | .const _, n => n = 0
  | .list, _ | .set, _ | .func _, _ => True
  | .binary _, n => n = 2
  | .unary _, n | .attr _, n => n = 1
  | .cond, n | .slice, n => n = 3
  | .meth _, n => 0 < n

namespace Expr

/-! ### Operands -/

/-- The expressions whose terms are the slots of the node's term. The callee is none of them: a call of
a method has the object as its first operand, and the name of a function is no operand. -/
def operands : Expr → List Expr
  | .call _ (.attr _ obj _) _ args => obj :: args
  | .call _ _ _ args => args
  | e => e.parts

/-- An operand is a part of the node or the object of its callee. -/
theorem mem_operands {e o : Expr} (ho : o ∈ e.operands) :
    o ∈ e.parts ∨ ∃ callee ∈ e.parts, callee.isPresent = true ∧ o ∈ callee.operands := by
  unfold operands at ho
  split at ho
  · next obj _ _ args =>
    rcases List.mem_cons.mp ho with rfl | ho
    · exact .inr ⟨_, List.mem_cons_self, rfl, List.mem_singleton.mpr rfl⟩
    · exact .inl (List.mem_cons_of_mem _ ho)
  · exact .inl (List.mem_cons_of_mem _ ho)
  · exact .inl ho

/-- A row may begin earlier. -/
theorem Row.anti {start start' stop : Nat} {es : List Expr} (h : Row start stop es)
    (hle : start' ≤ start) : Row start' stop es := by
  induction es with
  | nil => exact Nat.le_trans hle h
  | cons e es ih =>
    unfold Row at h ⊢
    split
    · next he =>
      rw [if_pos he] at h
      exact ⟨Nat.le_trans hle h.1, h.2⟩
    · next he =>
      rw [if_neg he] at h
      exact ih h

section Placed

variable {text : List Char} {e : Expr}

/-- The operands of a placed node are placed. -/
theorem Placed.operand (h : e.Placed text) {o : Expr} (ho : o ∈ e.operands)
    (hpresent : o.isPresent = true) : o.Placed text := by
  -- the object of a callee is an operand of the callee, to which the induction goes down
  induction h generalizing o with
  | mk _ _ _ _ parts ih =>
    rcases mem_operands ho with hpart | ⟨callee, hcallee, hc, ho⟩
    · exact parts o hpart hpresent
    · exact ih callee hcallee hc ho hpresent

/-- The operands of a placed node follow one another in its range. -/
theorem Placed.row_operands (h : e.Placed text) :
    Row e.span.start e.span.stop e.operands := by
  have hrow := h.row
  unfold operands
  split
  · next place cplace obj identifier kinds args =>
    -- the object stands where the callee does
    obtain ⟨hstart, hrest⟩ := (row_cons rfl).mp hrow
    have hcallee := h.part (p := .attr cplace obj identifier) List.mem_cons_self rfl
    have hobj := hcallee.row
    have houter := hcallee.outer_start_le
    have hstop := hcallee.le_outer_stop
    have hlift : Row (Expr.attr cplace obj identifier).span.start
        (Expr.attr cplace obj identifier).outer.stop [obj] := Row.mono hobj hstop
    exact (hlift.append fun hm => hrest.anti hm).anti (Nat.le_trans hstart houter)
  · next place callee kinds args _ =>
    -- the name of a function is no operand, and its bytes are left in front of the arguments
    unfold parts Row at hrow
    split at hrow
    · next hc =>
      have hcallee := h.part List.mem_cons_self hc
      exact hrow.2.anti (Nat.le_trans hrow.1 hcallee.outer_le)
    · exact hrow
  · exact hrow

end Placed

/-! ### The shape of a resolved node -/

section Resolve

variable {schema : Schema} {text : List Char}

/-- Several expressions resolve one by one. -/
theorem resolveAll_eq_ok_iff {es : List Expr} {ts : List Term} :
    resolveAll schema text es = .ok ts ↔
      List.Forall₂ (fun e t => e.resolve schema text = .ok t) es ts := by
  induction es generalizing ts with
  | nil =>
    rw [resolveAll, List.forall₂_nil_left_iff]
    exact ⟨fun h => by cases h; rfl, fun h => by rw [h]⟩
  | cons e es ih =>
    constructor
    · intro h
      rw [resolveAll] at h
      obtain ⟨t, ht, h⟩ := exists_of_bind_eq_ok h
      obtain ⟨ts', hts, h⟩ := exists_of_bind_eq_ok h
      cases h
      exact .cons ht (ih.mp hts)
    · intro h
      cases h with
      | cons ht hts =>
        rw [resolveAll, ht, ih.mpr hts]
        rfl

/-- The head of the term of an expression, given the terms of its operands: a name is looked up among
the variables, an attribute in the group behind its object, and every other form has a head of its
own. -/
inductive HeadOf (schema : Schema) : Expr → List Term → Head → Prop where
  | name (place : Place) (identifier : String) :
      HeadOf schema (.name place identifier) [] (.field identifier (schema.vars.get? identifier))
  | member {parent : Term} {field : Field} (place : Place) (obj : Expr) (identifier : String)
      (known : Term.member? schema.groups parent identifier = some field) :
      HeadOf schema (.attr place obj identifier) [parent] (.field identifier (some field))
  | inner {e : Expr} {slots : List Term} {head : Head} (inner : head.nodeType.isLeaf = false)
      (takes : head.Takes slots.length) : HeadOf schema e slots head

/-- **One step of resolving.** The term of an expression is that of a literal, or a node over the terms
of its operands. -/
theorem resolve_cases {e : Expr} {t : Term} (hpresent : e.isPresent = true)
    (h : e.resolve schema text = .ok t) :
    (∃ place value, e = .const place value ∧ t = resolveConst text place.span value) ∨
      ∃ head slots, resolveAll schema text e.operands = .ok slots ∧ HeadOf schema e slots head ∧
        t = build text e.span head e.operands slots := by
  cases e with
  | absent => cases hpresent
  | const place value =>
    rw [resolve] at h
    cases h
    exact .inl ⟨place, value, rfl, rfl⟩
  | name place identifier =>
    rw [resolve] at h
    cases h
    exact .inr ⟨_, [], rfl, .name place identifier, rfl⟩
  | list place items | set place items =>
    rw [resolve] at h
    obtain ⟨slots, hslots, h⟩ := exists_of_bind_eq_ok h
    cases h
    exact .inr ⟨_, slots, hslots, .inner rfl (by exact trivial), rfl⟩
  | attr place obj identifier =>
    rw [resolve] at h
    obtain ⟨parent, hparent, h⟩ := exists_of_bind_eq_ok h
    -- an attribute is a member of what the path leads to, if there is one of this name
    have hslots : resolveAll schema text [obj] = .ok [parent] :=
      resolveAll_eq_ok_iff.mpr (.cons hparent .nil)
    split at h
    · next hmember =>
      cases h
      exact .inr ⟨_, [parent], hslots, .member place obj identifier hmember, rfl⟩
    · cases h
      exact .inr ⟨_, [parent], hslots, .inner rfl (by exact rfl), rfl⟩
  | call place callee kinds args =>
    unfold resolve at h
    split at h
    · -- arguments of another kind are refused
      cases h
    · obtain ⟨slots, hslots, h⟩ := exists_of_bind_eq_ok h
      cases h
      exact .inr ⟨_, slots, hslots, .inner rfl (by exact trivial), rfl⟩
    · -- a method: the object is resolved before the arguments
      obtain ⟨receiver, hreceiver, h⟩ := exists_of_bind_eq_ok h
      obtain ⟨slots, hslots, h⟩ := exists_of_bind_eq_ok h
      cases h
      exact .inr ⟨_, receiver :: slots,
        resolveAll_eq_ok_iff.mpr (.cons hreceiver (resolveAll_eq_ok_iff.mp hslots)),
        .inner rfl (by exact Nat.succ_pos _), rfl⟩
    · cases h
  | item place obj index | binary place op obj index =>
    rw [resolve] at h
    obtain ⟨o, ho, h⟩ := exists_of_bind_eq_ok h
    obtain ⟨i, hi, h⟩ := exists_of_bind_eq_ok h
    cases h
    exact .inr ⟨_, [o, i], resolveAll_eq_ok_iff.mpr (.cons ho (.cons hi .nil)),
      .inner rfl (by exact rfl), rfl⟩
  | slice place obj low high | cond place obj low high =>
    rw [resolve] at h
    obtain ⟨o, ho, h⟩ := exists_of_bind_eq_ok h
    obtain ⟨l, hl, h⟩ := exists_of_bind_eq_ok h
    obtain ⟨r, hr, h⟩ := exists_of_bind_eq_ok h
    cases h
    exact .inr ⟨_, [o, l, r], resolveAll_eq_ok_iff.mpr (.cons ho (.cons hl (.cons hr .nil))),
      .inner rfl (by exact rfl), rfl⟩
  | unary place op obj =>
    rw [resolve] at h
    obtain ⟨o, ho, h⟩ := exists_of_bind_eq_ok h
    cases h
    exact .inr ⟨_, [o], resolveAll_eq_ok_iff.mpr (.cons ho .nil), .inner rfl (by exact rfl), rfl⟩

/-- Whatever the head and the verdict, the content of the term is cut out around the operands, and the
slots are the terms of the operands. -/
theorem content_and_slots_of_resolve {e : Expr} {t : Term} (hpresent : e.isPresent = true)
    (h : e.resolve schema text = .ok t) :
    t.content = Term.mergeContent (cutOut text e.span.stop e.span.start 0 e.operands) ∧
      resolveAll schema text e.operands = .ok t.slots := by
  rcases resolve_cases hpresent h with ⟨place, value, rfl, rfl⟩ | ⟨head, slots, hslots, -, rfl⟩
  · cases value <;> exact ⟨rfl, rfl⟩
  · exact ⟨rfl, hslots⟩

end Resolve

/-! ### Cutting out -/

/-- `cutOut` that refuses to cut where the offsets denote no text. -/
def cutOut? (text : List Char) (stop : Nat) : Nat → Nat → List Expr → Option (List Fragment)
  | cursor, _, [] => do
    let last ← slice? text cursor stop
    return [.text (String.ofList last)]
  | cursor, index, e :: es =>
    if e.isPresent then do
      let front ← slice? text cursor e.span.start
      let rest ← cutOut? text stop e.span.stop (index + 1) es
      return .text (String.ofList front) :: .slot index :: rest
    else do
      let rest ← cutOut? text stop cursor (index + 1) es
      return .slot index :: rest

section CutOut

variable {text : List Char} {stop : Nat}

theorem textBetween_of_slice? {start : Nat} {xs : List Char}
    (h : slice? text start stop = some xs) : textBetween text start stop = String.ofList xs := by
  rw [textBetween, h, Option.getD_some]

/-- In a row of placed operands every cut is made at boundaries. -/
theorem cutOut?_eq_some {cursor : Nat} (index : Nat) {es : List Expr}
    (hcursor : Boundary text cursor) (hstop : Boundary text stop) (hrow : Row cursor stop es)
    (hes : ∀ e ∈ es, e.isPresent = true → e.Placed text) :
    cutOut? text stop cursor index es = some (cutOut text stop cursor index es) := by
  induction es generalizing cursor index with
  | nil =>
    obtain ⟨last, hlast⟩ := exists_slice? hcursor hstop hrow
    rw [cutOut?, cutOut, textBetween_of_slice? hlast, hlast]
    rfl
  | cons e es ih =>
    have htail : ∀ e' ∈ es, e'.isPresent = true → e'.Placed text :=
      fun e' he' => hes e' (List.mem_cons_of_mem e he')
    by_cases he : e.isPresent = true
    · -- the cut ends where the operand begins, and the cursor moves to the operand's end
      have hplaced := hes e List.mem_cons_self he
      obtain ⟨hle, hrow⟩ := (row_cons he).mp hrow
      obtain ⟨front, hfront⟩ := exists_slice? hcursor hplaced.boundary_start
        (Nat.le_trans hle hplaced.outer_start_le)
      rw [cutOut?, cutOut, if_pos he, if_pos he, textBetween_of_slice? hfront, hfront,
        ih (index + 1) hplaced.boundary_stop (hrow.anti hplaced.le_outer_stop) htail]
      rfl
    · rw [Row, if_neg he] at hrow
      rw [cutOut?, cutOut, if_neg he, if_neg he, ih (index + 1) hcursor hrow htail]
      rfl

/-- The term has the text of the expression's own range as its source; where the expression is absent
it has none. -/
def Covers (text : List Char) (e : Expr) (t : Term) : Prop :=
  if e.isPresent then slice? text e.span.start e.span.stop = some t.sourceChars
  else t.sourceChars = []

/-- **Cutting loses nothing.** With the sources of the operands put back in, the pieces join to the text
from the cursor to the end. -/
theorem slice?_cutOut {cursor : Nat} {es : List Expr} (done : List Term) {ts : List Term}
    (hcursor : Boundary text cursor) (hstop : Boundary text stop) (hrow : Row cursor stop es)
    (hes : ∀ e ∈ es, e.isPresent = true → e.Placed text)
    (hts : List.Forall₂ (Covers text) es ts) :
    slice? text cursor stop =
      some ((cutOut text stop cursor done.length es).flatMap (Fragment.chars (done ++ ts))) := by
  -- the slots that are used up already move to `done`
  induction es generalizing cursor done ts with
  | nil =>
    obtain ⟨last, hlast⟩ := exists_slice? hcursor hstop hrow
    rw [cutOut, textBetween_of_slice? hlast, hlast]
    simp [Fragment.chars]
  | cons e es ih =>
    obtain ⟨t, ts', ht, hts', rfl⟩ := List.forall₂_cons_left_iff.mp hts
    have htail : ∀ e' ∈ es, e'.isPresent = true → e'.Placed text :=
      fun e' he' => hes e' (List.mem_cons_of_mem e he')
    have hslot : Fragment.chars (done ++ t :: ts') (.slot done.length) = t.sourceChars := by
      simp [Fragment.chars]
    have hdone : done ++ t :: ts' = (done ++ [t]) ++ ts' := by simp
    have hlength : done.length + 1 = (done ++ [t]).length := by simp
    unfold Covers at ht
    by_cases he : e.isPresent = true
    · rw [if_pos he] at ht
      have hplaced := hes e List.mem_cons_self he
      obtain ⟨hle, hrow⟩ := (row_cons he).mp hrow
      obtain ⟨front, hfront⟩ := exists_slice? hcursor hplaced.boundary_start
        (Nat.le_trans hle hplaced.outer_start_le)
      have hrest := ih (done ++ [t]) hplaced.boundary_stop
        (hrow.anti hplaced.le_outer_stop) htail hts'
      rw [cutOut, if_pos he, textBetween_of_slice? hfront, List.flatMap_cons, List.flatMap_cons,
        hslot, hdone, hlength]
      simp only [Fragment.chars, String.toList_ofList]
      exact slice?_join hfront (slice?_join ht hrest)
    · -- an absent bound has a slot, and its source is empty
      rw [if_neg he] at ht
      rw [Row, if_neg he] at hrow
      have hrest := ih (done ++ [t]) hcursor hrow htail hts'
      rw [cutOut, if_neg he, List.flatMap_cons, hslot, ht, List.nil_append, hdone, hlength]
      exact hrest

end CutOut

/-! ### Fidelity of every node -/

section Fidelity

variable {schema : Schema} {text : List Char}

/-- A node covers its text if its operands do. -/
theorem covers_node {e : Expr} {t : Term} (he : e.Placed text)
    (h : e.resolve schema text = .ok t)
    (hops : ∀ o ∈ e.operands, ∀ u, o.resolve schema text = .ok u → Covers text o u) :
    Covers text e t := by
  obtain ⟨hcontent, hslots⟩ := content_and_slots_of_resolve he.isPresent h
  -- operands and slots stand in the same order, so each slot covers its operand
  have hcovers : List.Forall₂ (Covers text) e.operands t.slots := by
    have hpairs := List.forall₂_iff_zip.mp (resolveAll_eq_ok_iff.mp hslots)
    refine List.forall₂_iff_zip.mpr ⟨hpairs.1, fun {o u} hmem => ?_⟩
    exact hops o (List.of_mem_zip hmem).1 u (hpairs.2 hmem)
  have hslice := slice?_cutOut [] he.boundary_start he.boundary_stop he.row_operands
    (fun o ho => he.operand ho) hcovers
  obtain ⟨head, verdict, content, slots⟩ := t
  obtain rfl : content = _ := hcontent
  rw [Covers, if_pos he.isPresent, Term.sourceChars_node, Term.flatMap_mergeContent]
  exact hslice

/-- Absent bounds have no source. -/
theorem covers_absent {e : Expr} {t : Term} (he : ¬ e.isPresent = true)
    (h : e.resolve schema text = .ok t) : Covers text e t := by
  cases e with
  | absent =>
    rw [resolve] at h
    cases h
    rw [Covers, if_neg he, Term.absent, Term.sourceChars_make]
    rfl
  | _ => exact absurd rfl he

/-- Induction from the operands to the node. The object of a called attribute is an operand of the
call and no part of it, so the statement is carried along for the operands of the parts. -/
theorem Placed.induction_on_operands {motive : Expr → Prop} {e : Expr} (he : e.Placed text)
    (absent : ∀ e : Expr, ¬ e.isPresent = true → motive e)
    (node : ∀ e : Expr, e.Placed text → (∀ o ∈ e.operands, motive o) → motive e) : motive e := by
  suffices h : (∀ o ∈ e.operands, motive o) ∧ motive e from h.2
  induction he with
  | @mk e present enclosed row spelled parts ih =>
    have hops : ∀ o ∈ e.operands, motive o := by
      intro o ho
      by_cases hpresent : o.isPresent = true
      · rcases mem_operands ho with hpart | ⟨callee, hcallee, hc, ho⟩
        · exact (ih o hpart hpresent).2
        · exact (ih callee hcallee hc).1 o ho
      · exact absent o hpresent
    exact ⟨hops, node e (.mk present enclosed row spelled parts) hops⟩

/-- **Every term has the text of its expression as its source.** -/
theorem covers_of_resolve {e : Expr} (he : e.Placed text) :
    ∀ t, e.resolve schema text = .ok t → Covers text e t := by
  refine Placed.induction_on_operands
    (motive := fun e => ∀ t, e.resolve schema text = .ok t → Covers text e t) he ?_ ?_
  · exact fun e habsent t ht => covers_absent habsent ht
  · exact fun e hplaced hops t ht => covers_node hplaced ht hops

/-- The expressions that resolving the root `e` to `t` reaches, each with its term: the root, and the
operands of what is reached with the slots that they were resolved to. -/
inductive Resolves (e : Expr) (t : Term) : Expr → Term → Prop where
  | root : Resolves e t e t
  | operand {e' o : Expr} {t' u : Term} (node : Resolves e t e' t')
      (slot : (o, u) ∈ e'.operands.zip t'.slots) (present : o.isPresent = true) :
      Resolves e t o u

/-- What is reached is placed and resolved. -/
theorem Resolves.placed {e e' : Expr} {t t' : Term} (h : Resolves e t e' t')
    (he : e.Placed text) (ht : e.resolve schema text = .ok t) :
    e'.Placed text ∧ e'.resolve schema text = .ok t' := by
  induction h with
  | root => exact ⟨he, ht⟩
  | operand node slot present ih =>
    obtain ⟨hplaced, hresolve⟩ := ih
    have hslots := (content_and_slots_of_resolve hplaced.isPresent hresolve).2
    have hpairs := List.forall₂_iff_zip.mp (resolveAll_eq_ok_iff.mp hslots)
    exact ⟨hplaced.operand (List.of_mem_zip slot).1 present, hpairs.2 slot⟩

/-- What a placed expression leaves of its text, if white space is left out: the parentheses around
it. -/
theorem Placed.exists_append {e : Expr} {source : List Char} (he : e.Placed text)
    (hfront : Gap text 0 e.outer.start) (hback : Gap text e.outer.stop (byteLength text))
    (hsource : slice? text e.span.start e.span.stop = some source) :
    ∃ (depth : Nat) (front back : List Char), text = front ++ source ++ back ∧
      front.filter (fun c => !isBlank c) = List.replicate depth '(' ∧
      back.filter (fun c => !isBlank c) = List.replicate depth ')' := by
  obtain ⟨depth, before, after, hbefore, hafter, hopen, hclose⟩ := he.enclosed
  obtain ⟨first, hfirst, hnil⟩ := hfront.exists_filter_eq_nil
  obtain ⟨last, hlast, hnil'⟩ := hback.exists_filter_eq_nil
  -- five slices that meet make up the whole text
  have hwhole := slice?_join (slice?_join (slice?_join hfirst hbefore) hsource)
    (slice?_join hafter hlast)
  rw [slice?_self, Option.some.injEq] at hwhole
  refine ⟨depth, first ++ before, after ++ last, hwhole, ?_, ?_⟩
  · rw [List.filter_append, hnil, hopen, List.nil_append]
  · rw [List.filter_append, hnil', hclose, List.append_nil]

end Fidelity

end Expr

/-- A text that compiles is parsed, and the tree is resolved. -/
theorem exists_of_compile {schema : Schema} {source : String} {t : Term}
    (h : compile schema source = .ok t) :
    ∃ e, Expr.parse source = .ok e ∧ e.resolve schema source.toList = .ok t := by
  unfold compile at h
  split at h
  · cases h
  · next e hparse =>
    cases hresolve : e.resolve schema source.toList with
    | error r => rw [hresolve] at h; cases h
    | ok u =>
      rw [hresolve] at h
      cases h
      exact ⟨e, hparse, hresolve⟩

/-- **Source fidelity.** In a text that compiles, every expression that is resolved has exactly the
bytes of its own range as the source of its term. All cuts behind it are made at positions of the
text, and the source of the whole is the text without the white space and the parentheses around
it. -/
theorem compile_source {schema : Schema} {source : String} {t : Term}
    (h : compile schema source = .ok t) :
    ∃ e, Expr.parse source = .ok e ∧ e.resolve schema source.toList = .ok t ∧
      (∀ e' t', Expr.Resolves e t e' t' →
        Expr.resolveAll schema source.toList e'.operands = .ok t'.slots ∧
        (slice? source.toList e'.span.start e'.span.stop).map String.ofList = some t'.source ∧
        (Expr.cutOut? source.toList e'.span.stop e'.span.start 0 e'.operands).map
          Term.mergeContent = some t'.content) ∧
      ∃ (depth : Nat) (front back : List Char),
        source.toList = front ++ t.source.toList ++ back ∧
        front.filter (fun c => !isBlank c) = List.replicate depth '(' ∧
        back.filter (fun c => !isBlank c) = List.replicate depth ')' := by
  obtain ⟨e, hparse, hresolve⟩ := exists_of_compile h
  obtain ⟨hplaced, hfront, hback⟩ := placed_of_parse hparse
  -- every operand has a place in the text, and is resolved to a term with the source that stands there
  have hsource : ∀ {e' : Expr} {t' : Term}, e'.Placed source.toList →
      e'.resolve schema source.toList = .ok t' →
      slice? source.toList e'.span.start e'.span.stop = some t'.source.toList := by
    intro e' t' he' ht'
    have hcovers := Expr.covers_of_resolve he' t' ht'
    rwa [Expr.Covers, if_pos he'.isPresent, ← Term.toList_source] at hcovers
  refine ⟨e, hparse, hresolve, ?_, hplaced.exists_append hfront hback (hsource hplaced hresolve)⟩
  -- down to any operand the same holds, so its content is what is cut out around its own operands
  intro e' t' hreach
  obtain ⟨hplaced', hresolve'⟩ := hreach.placed hplaced hresolve
  obtain ⟨hcontent, hslots⟩ := Expr.content_and_slots_of_resolve hplaced'.isPresent hresolve'
  refine ⟨hslots, ?_, ?_⟩
  · rw [hsource hplaced' hresolve', Option.map_some, String.ofList_toList]
  · rw [Expr.cutOut?_eq_some 0 hplaced'.boundary_start hplaced'.boundary_stop
      hplaced'.row_operands (fun o ho => hplaced'.operand ho), Option.map_some, hcontent]

/-- The parentheses around the callee belong to the source of the call; those around the whole do not,
and the slice without a lower bound, the comma at the end and the umlauts lose nothing. -/
theorem compile_source_of_method_call :
    ∃ t e, compile {} " ((é[:(y)] .f)( \"ü\", [z,]) ) " = .ok t ∧
      t.source = "(é[:(y)] .f)( \"ü\", [z,])" ∧
      Expr.parse " ((é[:(y)] .f)( \"ü\", [z,]) ) " = .ok e ∧
      ∀ e' t', Expr.Resolves e t e' t' →
        (slice? " ((é[:(y)] .f)( \"ü\", [z,]) ) ".toList e'.span.start e'.span.stop).map
          String.ofList = some t'.source := by
  have hsome : (compile {} " ((é[:(y)] .f)( \"ü\", [z,]) ) ").toOption.map Term.source =
      some "(é[:(y)] .f)( \"ü\", [z,])" := by decide +kernel
  obtain ⟨t, hcompile, hsource⟩ := exists_of_toOption_map_eq_some hsome
  obtain ⟨e, hparse, -, hnodes, -⟩ := compile_source hcompile
  exact ⟨t, e, hcompile, hsource, hparse, fun e' t' h => (hnodes e' t' h).2.1⟩

end QueryExpr
