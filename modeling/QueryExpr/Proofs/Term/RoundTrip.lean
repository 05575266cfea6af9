import QueryExpr.Proofs.Expr.Fidelity
import QueryExpr.Proofs.Expr.Literals
import QueryExpr.Proofs.Expr.Phrases

/-!
# Terms read back

A term that is built by the constructors writes a source that compiles to the same term: the same
nodes, resolved fields, types and faults. Only the cutting of the source into pieces can differ, since
a slice without a bound has the empty slot at another place (`Alike`).

The constructors put parentheses by binding strength, the grammar reads by level, and the two agree
but for one case: `and` and `or` have the same strength and different levels. `Built` describes the
terms in question; for each of them there is a phrase that spells its source, is read as an operand of
the term's level and resolves to the term (`Writes`, by induction in `exists_writes`).
-/

namespace QueryExpr

open Text

/-! ### Terms up to the cutting of their source -/

namespace Term

/-- The same term, but for how its source is cut into pieces. -/
inductive Alike : Term → Term → Prop where
  | node {head : Head} {verdict : Verdict} {content content' : List Fragment}
      {slots slots' : List Term}
      (source : (Term.node head verdict content slots).source =
        (Term.node head verdict content' slots').source)
      (each : List.Forall₂ Alike slots slots') :
      Alike (.node head verdict content slots) (.node head verdict content' slots')

theorem Alike.head_eq {t t' : Term} (h : Alike t t') : t.head = t'.head := by
  cases h with
  | node => rfl

theorem Alike.verdict_eq {t t' : Term} (h : Alike t t') : t.verdict = t'.verdict := by
  cases h with
  | node => rfl

theorem Alike.member?_eq {t t' : Term} (h : Alike t t') (groups : Groups) (identifier : String) :
    member? groups t identifier = member? groups t' identifier := by
  rw [member?, member?, field?, field?, h.head_eq]

theorem signature?_congr {slots slots' : List Term} (h : List.Forall₂ Alike slots slots') :
    signature? slots = signature? slots' := by
  induction h with
  | nil => rfl
  | cons ht _ ih =>
    rw [signature?, signature?, List.mapM_cons, List.mapM_cons, ht.verdict_eq]
    rw [signature?, signature?] at ih
    rw [ih]

/-- The verdict on a node depends on the verdicts on its slots only. -/
theorem verdictOn_congr (reg : Registry) (head : Head) {slots slots' : List Term}
    (h : List.Forall₂ Alike slots slots') :
    verdictOn reg head slots = verdictOn reg head slots' := by
  rw [verdictOn.eq_def, verdictOn.eq_def, signature?_congr h]

/-- Nodes with the same head and source over slots that are alike. -/
theorem alike_make {head : Head} {content content' : List Fragment} {slots slots' : List Term}
    (hslots : List.Forall₂ Alike slots slots')
    (hsource : (make head content slots).sourceChars = (make head content' slots').sourceChars) :
    Alike (make head content slots) (make head content' slots') := by
  rw [make, make, verdictOn_congr _ head hslots] at *
  exact .node (congrArg String.ofList hsource) hslots

end Term

/-! ### Binding strength and level -/

/-- The level of the grammar on which a node is read. -/
def Head.level : Head → Nat
  | .binary .item => Phrase.primary
  | .binary op => op.level
  | .unary op => op.level
  | .cond => condLevel
  | _ => Phrase.primary

namespace Head

/-- The least level of the nodes of a binding strength. -/
def levelOf (strength : Nat) : Nat :=
  if strength < 4 then 0 else if strength < 5 then 1 else if strength < 6 then 3
  else if strength < 13 then strength - 2 else if strength < 16 then 11 else Phrase.primary

theorem levelOf_precedence_le (head : Head) : levelOf head.precedence ≤ head.level := by
  cases head with
  | binary op => cases op <;> decide
  | unary op => cases op <;> decide
  | _ => exact Nat.le_refl _

theorem levelOf_mono {m n : Nat} (h : m ≤ n) : levelOf m ≤ levelOf n := by
  unfold levelOf Phrase.primary
  split_ifs <;> omega

variable {head : Head}

/-- A left operand without parentheses is of the level of the operator, unless it is `or` under
`and`. -/
theorem level_le_of_left {op : BinaryOp} (h : ¬ head.precedence < op.precedence)
    (hor : ¬ (op = .and ∧ head = .binary .or)) : op.level ≤ head.level := by
  by_cases hand : op = .and
  · -- strength does not tell `or` from `and`, so the heads are gone through
    subst hand
    cases head with
    | binary op' => cases op' <;> first | decide | exact absurd ⟨rfl, rfl⟩ hor
    | unary op' => cases op' <;> decide
    | cond => exact absurd (by decide) h
    | _ => exact (by decide : BinaryOp.and.level ≤ Phrase.primary)
  · have hlevel : op.level ≤ levelOf op.precedence := by
      cases op <;> first | decide | contradiction
    calc op.level
      _ ≤ levelOf op.precedence := hlevel
      _ ≤ levelOf head.precedence := levelOf_mono (Nat.le_of_not_lt h)
      _ ≤ head.level := levelOf_precedence_le head

/-- A right operand without parentheses is tighter than the operator. -/
theorem level_lt_of_right {op : BinaryOp} (h : ¬ head.precedence ≤ op.precedence) :
    op.level + 1 ≤ head.level := by
  have hlevel : op.level + 1 ≤ levelOf (op.precedence + 1) := by cases op <;> decide
  calc op.level + 1
    _ ≤ levelOf (op.precedence + 1) := hlevel
    _ ≤ levelOf head.precedence := levelOf_mono (Nat.lt_of_not_le h)
    _ ≤ head.level := levelOf_precedence_le head

/-- An operand without parentheses after an operator in front of it is of its level. -/
theorem level_le_of_unary {op : UnaryOp} (h : ¬ head.precedence ≤ op.precedence) :
    op.level ≤ head.level := by
  have hlevel : op.level ≤ levelOf (op.precedence + 1) := by cases op <;> decide
  calc op.level
    _ ≤ levelOf (op.precedence + 1) := hlevel
    _ ≤ levelOf head.precedence := levelOf_mono (Nat.lt_of_not_le h)
    _ ≤ head.level := levelOf_precedence_le head

/-- A part of a conditional without parentheses is no conditional. -/
theorem orLevel_le_of_cond (h : ¬ head.precedence ≤ Head.cond.precedence) :
    orLevel ≤ head.level :=
  Nat.le_trans (levelOf_mono (m := 4) (Nat.lt_of_not_le h)) (levelOf_precedence_le head)

/-- What takes a postfix without parentheses is a primary. -/
theorem primary_le_of_postfix {strength : Nat} (hstrength : 16 ≤ strength)
    (h : ¬ head.precedence < strength) : Phrase.primary ≤ head.level :=
  Nat.le_trans (levelOf_mono (m := 16) (Nat.le_trans hstrength (Nat.le_of_not_lt h)))
    (levelOf_precedence_le head)

end Head

/-! ### Phrases for terms -/

/-- The source of an operand, in parentheses if asked for. -/
def Term.operandChars (parenthesize : Bool) (t : Term) : List Char :=
  if parenthesize then '(' :: (t.sourceChars ++ [')']) else t.sourceChars

theorem Term.flatMap_slotIn {slots : List Term} {n : Nat} {t : Term} (h : slots[n]? = some t)
    (parenthesize : Bool) :
    (slotIn parenthesize n).flatMap (Fragment.chars slots) = t.operandChars parenthesize := by
  cases parenthesize <;> simp [slotIn, operandChars, Fragment.chars, h]

/-- All operators but the subscript are written alike. -/
theorem Term.mkBinary_eq {op : BinaryOp} (hop : op ≠ .item) (left right : Term) :
    mkBinary op left right = make (.binary op)
      (slotIn (left.precedence < op.precedence) 0 ++ .text (" " ++ op.text ++ " ") ::
        slotIn (right.precedence ≤ op.precedence) 1) [left, right] := by
  cases op <;> first | rfl | contradiction

theorem Term.sourceChars_mkBinary {op : BinaryOp} (hop : op ≠ .item) (left right : Term) :
    (mkBinary op left right).sourceChars =
      left.operandChars (left.precedence < op.precedence) ++
        ' ' :: (op.text.toList ++ ' ' :: right.operandChars (right.precedence ≤ op.precedence)) := by
  rw [mkBinary_eq hop, sourceChars_make, List.flatMap_append, List.flatMap_cons,
    flatMap_slotIn (t := left) rfl, flatMap_slotIn (t := right) rfl]
  simp [Fragment.chars]

theorem Term.sourceChars_mkUnary (op : UnaryOp) (obj : Term) :
    (mkUnary op obj).sourceChars =
      op.text.toList ++ obj.operandChars (obj.precedence ≤ op.precedence) := by
  rw [mkUnary, sourceChars_make, List.flatMap_cons, flatMap_slotIn (t := obj) rfl]
  simp [Fragment.chars]

namespace Phrase

/-- Where the phrase stands in a text, its tree resolves to the term. -/
def Denotes (schema : Schema) (p : Phrase) (t : Term) : Prop :=
  ∀ (offset : Nat) (text : List Char), (p.expr offset).Placed text →
    slice? text offset (offset + p.size) = some p.text →
    ∃ t', (p.expr offset).resolve schema text = .ok t' ∧ t.Alike t'

/-- The phrase spells the source of the term, and reading it gives the term. -/
structure Writes (schema : Schema) (p : Phrase) (t : Term) : Prop where
  text : p.text = t.sourceChars
  reads : p.Reads t.head.level
  bare : p.Bare
  denotes : p.Denotes schema t

variable {schema : Schema}

/-- **One node.** If the tree resolves to a node with the right head over slots that are alike, the
node as a whole is alike: its source is the text that the tree covers. -/
theorem denotes_make {p : Phrase} {head : Head} {content : List Fragment} {slots : List Term}
    (hbare : p.Bare) (htext : p.text = (Term.make head content slots).sourceChars)
    (h : ∀ (offset : Nat) (text : List Char), (p.expr offset).Placed text →
      slice? text offset (offset + p.size) = some p.text →
      ∃ operands slots', (p.expr offset).resolve schema text =
          .ok (Expr.build text (p.expr offset).span head operands slots') ∧
        List.Forall₂ Term.Alike slots slots') :
    p.Denotes schema (Term.make head content slots) := by
  intro offset text hplaced hslice
  obtain ⟨operands, slots', hresolve, hslots⟩ := h offset text hplaced hslice
  refine ⟨_, hresolve, Term.alike_make hslots ?_⟩
  -- a resolved node has the text of its range as its source, and this is the text of the phrase
  have hcovers := Expr.covers_of_resolve hplaced _ hresolve
  have hown : slice? text (p.expr offset).span.start (p.expr offset).span.stop = some p.text := by
    rw [Expr.span, hbare offset]
    exact hslice
  rw [Expr.Covers, if_pos hplaced.isPresent, hown, htext, Option.some.injEq] at hcovers
  exact hcovers

/-- Parentheses make no difference to what a tree resolves to. -/
theorem resolve_parenthesized (e : Expr) (text : List Char) (start stop : Nat) :
    (e.parenthesized start stop).resolve schema text = e.resolve schema text := by
  cases e with
  | call place callee kinds args =>
    rw [Expr.parenthesized, Expr.withPlace]
    unfold Expr.resolve
    rfl
  | _ => rfl

/-- Without the parentheses around it a tree stands where it stood. -/
theorem placed_of_parenthesized {e : Expr} {text : List Char} {start stop first last : Nat}
    (h : (e.parenthesized start stop).Placed text) (hplace : e.place = .bare first last) :
    e.Placed text := by
  have hpresent : e.isPresent = true := by simpa using h.isPresent
  have hspan : (e.parenthesized start stop).span = ⟨first, last⟩ := by
    rw [Expr.span, Expr.parenthesized_place _ _ _ hpresent, Expr.span, hplace]
    rfl
  -- the node's own range does not change, and with it what is known of its parts
  have hrow := h.row
  have hfirst := h.boundary_start
  have hlast := h.boundary_stop
  rw [hspan] at hrow hfirst hlast
  rw [Expr.parenthesized_parts] at hrow
  refine Expr.placed_of_bare hplace hpresent hfirst hlast hrow (by simpa using h.spelled) ?_
  intro part hpart
  exact h.part (by simpa using hpart)

/-- **An operand**, in parentheses if asked for, of a level that it has without them. -/
theorem Writes.exists_operand {p : Phrase} {t : Term} (h : p.Writes schema t) {level : Nat}
    (hlevel : level ≤ primary) (parenthesize : Bool)
    (hbare : parenthesize = false → level ≤ t.head.level) :
    ∃ q : Phrase, q.text = t.operandChars parenthesize ∧ q.Reads level ∧ q.Denotes schema t := by
  cases parenthesize with
  | false => exact ⟨p, h.text, h.reads.mono (hbare rfl), h.denotes⟩
  | true =>
    refine ⟨p.paren, ?_, (reads_paren h.reads).mono hlevel, ?_⟩
    · rw [text_paren, h.text]
      rfl
    · -- inside the parentheses the phrase stands one byte further on
      intro offset text hplaced hslice
      rw [text_paren] at hslice
      have hinner : slice? text (offset + 1) (offset + 1 + p.size) = some p.text :=
        slice?_middle ['('] p.text [')'] hslice
      obtain ⟨t', hresolve, halike⟩ := h.denotes (offset + 1) text
        (placed_of_parenthesized hplaced (h.bare (offset + 1))) hinner
      exact ⟨t', by rw [paren, resolve_parenthesized, hresolve], halike⟩

/-! ### Leaves -/

/-- A constant that is written as a literal. -/
theorem exists_writes_const {value : Constant} (h : value.IsLiteral) :
    ∃ p : Phrase, p.Writes schema (Term.mkConst value) := by
  obtain ⟨token, lit, hstands, hlit, hresolve⟩ := exists_stands_literal h
  have hbare : (atom token value.literal.toList fun place => .const place lit).Bare :=
    bare_atom fun _ => rfl
  have htext : (atom token value.literal.toList fun place => .const place lit).text =
      (Term.mkConst value).sourceChars := by
    rw [text_atom, Term.mkConst, Term.sourceChars_make]
    simp [Fragment.chars]
  refine ⟨_, htext, reads_literal hstands hlit, hbare, denotes_make hbare htext ?_⟩
  -- a literal resolves to its constant wherever it stands
  intro offset text _ _
  refine ⟨[], [], ?_, .nil⟩
  rw [atom, Expr.resolve, hresolve]
  rfl

/-- A name that stands for a variable or for nothing known. -/
theorem exists_writes_name {n : String} {field : Option Field} (hname : Token.isName n = true)
    (hfield : schema.vars.get? n = field) :
    ∃ p : Phrase, p.Writes schema (Term.make (.field n field) [.text n] []) := by
  have hbare : (atom (.ident n) n.toList fun place => .name place n).Bare := bare_atom fun _ => rfl
  have htext : (atom (.ident n) n.toList fun place => .name place n).text =
      (Term.make (.field n field) [.text n] []).sourceChars := by
    rw [text_atom, Term.sourceChars_make]
    simp [Fragment.chars]
  refine ⟨_, htext, reads_name hname, hbare, denotes_make hbare htext ?_⟩
  intro offset text _ _
  refine ⟨[], [], ?_, .nil⟩
  rw [atom, Expr.resolve, hfield]
  rfl

/-! ### Attributes -/

section Attr

variable {q : Phrase} {obj : Term} {n : String}

/-- What the parts of an attribute give. -/
theorem exists_resolve_attr (hpresent : ∀ offset, (q.expr offset).isPresent = true)
    (hq : q.Denotes schema obj) {offset : Nat} {text : List Char}
    (hplaced : ((q.attr n).expr offset).Placed text)
    (hslice : slice? text offset (offset + (q.attr n).size) = some (q.attr n).text) :
    ∃ obj', (q.expr offset).resolve schema text = .ok obj' ∧ obj.Alike obj' := by
  rw [text_attr] at hslice
  have hpart := hplaced.operand (o := q.expr offset) (List.mem_singleton.mpr rfl) (hpresent offset)
  exact hq offset text hpart (slice?_middle [] q.text _ hslice)

/-- A reference to a field behind a reference. -/
theorem exists_writes_fieldRef (h : q.Writes schema obj) (hname : Token.isName n = true)
    (hmember : (Term.member? schema.groups obj n).isSome = true) :
    ∃ p : Phrase, p.Writes schema (Term.mkFieldRef schema.groups obj n) := by
  obtain ⟨field, hfield⟩ := Option.isSome_iff_exists.mp hmember
  -- only a reference to a field has members, and such a reference is a primary
  have hlevel : obj.head.level = primary := by
    unfold Term.member? Term.field? at hfield
    cases hhead : obj.head with
    | field identifier found => rfl
    | _ => rw [hhead] at hfield; cases hfield
  have hreads : q.Reads primary := hlevel ▸ h.reads
  have hbare : (q.attr n).Bare := bare_attr hreads.outer
  have htext : (q.attr n).text = (Term.mkFieldRef schema.groups obj n).sourceChars := by
    rw [text_attr, h.text, Term.mkFieldRef, Term.sourceChars_make]
    simp [Fragment.chars]
  refine ⟨_, htext, reads_attr hreads hname, hbare, denotes_make hbare htext ?_⟩
  intro offset text hplaced hslice
  obtain ⟨obj', hresolve, halike⟩ := exists_resolve_attr hreads.present h.denotes hplaced hslice
  refine ⟨[q.expr offset], [obj'], ?_, .cons halike .nil⟩
  show Expr.resolve schema text (.attr _ (q.expr offset) n) = _
  rw [Expr.resolve, hresolve]
  simp only [bind, Except.bind, ← halike.member?_eq, hfield]
  rfl

/-- An attribute that is no field. -/
theorem exists_writes_attr (h : q.Writes schema obj) (hname : Token.isName n = true)
    (hmember : Term.member? schema.groups obj n = none) :
    ∃ p : Phrase, p.Writes schema (Term.mkAttr obj n) := by
  obtain ⟨q', htext', hreads, hdenotes⟩ := h.exists_operand (Nat.le_refl primary)
    (obj.precedence < (Head.attr n).precedence)
    (fun hb => Head.primary_le_of_postfix (show 16 ≤ 19 by decide) (of_decide_eq_false hb))
  -- the phrase is the object, in parentheses where the constructor puts them, with the name behind it
  have hbare : (q'.attr n).Bare := bare_attr hreads.outer
  have htext : (q'.attr n).text = (Term.mkAttr obj n).sourceChars := by
    rw [text_attr, htext', Term.mkAttr, Term.sourceChars_make, List.flatMap_append,
      Term.flatMap_slotIn rfl]
    simp [Fragment.chars]
  refine ⟨_, htext, reads_attr hreads hname, hbare, denotes_make hbare htext ?_⟩
  intro offset text hplaced hslice
  obtain ⟨obj', hresolve, halike⟩ := exists_resolve_attr hreads.present hdenotes hplaced hslice
  refine ⟨[q'.expr offset], [obj'], ?_, .cons halike .nil⟩
  show Expr.resolve schema text (.attr _ (q'.expr offset) n) = _
  rw [Expr.resolve, hresolve]
  -- what the object was read back as has no such field either
  simp only [bind, Except.bind, ← halike.member?_eq, hmember]
  rfl

end Attr

/-! ### Collections and calls -/

section Items

variable {ps : List Phrase} {ts : List Term}

/-- The items of a phrase resolve one by one. -/
theorem exists_resolveAll (hps : List.Forall₂ (Writes schema) ps ts) {text : List Char}
    {offset : Nat} (hplaced : ∀ e ∈ itemExprs offset ps, e.isPresent = true → e.Placed text)
    (hslice : slice? text offset (offset + byteLength ([',', ' '].intercalate (ps.map Phrase.text))) =
      some ([',', ' '].intercalate (ps.map Phrase.text))) :
    ∃ ts', Expr.resolveAll schema text (itemExprs offset ps) = .ok ts' ∧
      List.Forall₂ Term.Alike ts ts' := by
  induction hps generalizing offset with
  | nil => exact ⟨[], rfl, .nil⟩
  | @cons p t ps ts hp hps ih =>
    -- the text of the first item, and behind it a comma with the others or nothing
    have hjoin : ∃ back, [',', ' '].intercalate ((p :: ps).map Phrase.text) = p.text ++ back ∧
        (ps ≠ [] → back = [',', ' '] ++ ([',', ' '].intercalate (ps.map Phrase.text))) := by
      cases ps with
      | nil => exact ⟨[], by simp [List.intercalate], fun h => absurd rfl h⟩
      | cons q ps =>
        refine ⟨[',', ' '] ++ ([',', ' '].intercalate ((q :: ps).map Phrase.text)), ?_, fun _ => rfl⟩
        simp [List.intercalate]
    obtain ⟨back, hback, hrest⟩ := hjoin
    rw [hback] at hslice
    obtain ⟨t', hresolve, halike⟩ := hp.denotes offset text
      (hplaced _ List.mem_cons_self (hp.reads.present offset)) (slice?_middle [] p.text back hslice)
    have htail : slice? text (offset + p.size + 2)
        (offset + p.size + 2 + byteLength ([',', ' '].intercalate (ps.map Phrase.text))) =
          some ([',', ' '].intercalate (ps.map Phrase.text)) ∨ ps = [] := by
      by_cases hne : ps = []
      · exact .inr hne
      · refine .inl ?_
        exact slice?_third p.text [',', ' '] ([',', ' '].intercalate (ps.map Phrase.text)) []
          (by rw [hslice, hrest hne]; simp)
    obtain ⟨ts', hresolve', halike'⟩ : ∃ ts', Expr.resolveAll schema text
        (itemExprs (offset + p.size + 2) ps) = .ok ts' ∧ List.Forall₂ Term.Alike ts ts' := by
      rcases htail with htail | rfl
      · exact ih (fun e he => hplaced e (List.mem_cons_of_mem _ he)) htail
      · cases hps
        exact ⟨[], rfl, .nil⟩
    refine ⟨t' :: ts', ?_, .cons halike halike'⟩
    rw [itemExprs, Expr.resolveAll, hresolve, hresolve']
    rfl

/-- The phrases of several terms are operands. -/
theorem exists_reads_of_writes (hps : List.Forall₂ (Writes schema) ps ts) :
    ∀ p ∈ ps, ∃ level, p.Reads level := by
  induction hps with
  | nil => exact fun p hp => nomatch hp
  | cons hp _ ih =>
    intro q hq
    rcases List.mem_cons.mp hq with rfl | hq
    · exact ⟨_, hp.reads⟩
    · exact ih q hq

theorem map_text_of_writes (hps : List.Forall₂ (Writes schema) ps ts) :
    ps.map Phrase.text = ts.map Term.sourceChars := by
  induction hps with
  | nil => rfl
  | cons hp _ ih => rw [List.map_cons, List.map_cons, hp.text, ih]

/-- The content of a node with items. -/
theorem flatMap_slotItems (front ts : List Term) :
    (Term.slotItems front.length ts.length).flatMap (Fragment.chars (front ++ ts)) =
      [',', ' '].intercalate (ts.map Term.sourceChars) := by
  induction ts generalizing front with
  | nil => rfl
  | cons t ts ih =>
    have hslot : Fragment.chars (front ++ t :: ts) (.slot front.length) = t.sourceChars := by
      simp [Fragment.chars]
    cases ts with
    | nil => simp [Term.slotItems, hslot, List.intercalate]
    | cons u ts =>
      -- the first item joins those in front, so that the slots keep their numbers
      have hrest := ih (front ++ [t])
      rw [List.append_assoc, List.singleton_append, List.length_append] at hrest
      simp only [List.length_cons, List.length_nil, Nat.zero_add] at hrest ⊢
      rw [Term.slotItems, List.flatMap_cons, List.flatMap_cons, hslot, hrest]
      simp [List.intercalate, Fragment.chars]

/-- A list. -/
theorem exists_writes_list (hps : List.Forall₂ (Writes schema) ps ts) :
    ∃ p : Phrase, p.Writes schema (Term.mkList ts) := by
  have htext : (list ps).text = (Term.mkList ts).sourceChars := by
    rw [text_list, map_text_of_writes hps, Term.mkList, Term.sourceChars_make, ← flatMap_slotItems []]
    simp [Fragment.chars]
  refine ⟨list ps, htext, reads_list (exists_reads_of_writes hps), bare_list ps,
    denotes_make (bare_list ps) htext ?_⟩
  intro offset text hplaced hslice
  -- the items stand between the brackets, each at its own offset
  rw [text_list] at hslice
  obtain ⟨ts', hresolve, halike⟩ := exists_resolveAll hps (fun e he => hplaced.operand he)
    (slice?_middle ['['] _ [']'] hslice)
  refine ⟨itemExprs (offset + 1) ps, ts', ?_, halike⟩
  show Expr.resolve schema text (.list _ (itemExprs (offset + 1) ps)) = _
  rw [Expr.resolve, hresolve]
  rfl

/-- A set. -/
theorem exists_writes_set (hps : List.Forall₂ (Writes schema) ps ts) :
    ∃ p : Phrase, p.Writes schema (Term.mkSet ts) := by
  have hempty : ps.isEmpty = ts.isEmpty := by cases hps <;> rfl
  have htext : (set ps).text = (Term.mkSet ts).sourceChars := by
    rw [text_set, map_text_of_writes hps, Term.mkSet, Term.sourceChars_make, ← flatMap_slotItems [],
      hempty]
    cases ts <;> simp [Fragment.chars]
  refine ⟨set ps, htext, reads_set (exists_reads_of_writes hps), bare_set ps,
    denotes_make (bare_set ps) htext ?_⟩
  intro offset text hplaced hslice
  obtain ⟨ts', hresolve, halike⟩ : ∃ ts', Expr.resolveAll schema text (itemExprs (offset + 1) ps) =
      .ok ts' ∧ List.Forall₂ Term.Alike ts ts' := by
    -- the slash of the empty set is no item
    by_cases hne : ps = []
    · subst hne
      cases hps
      exact ⟨[], rfl, .nil⟩
    · rw [text_set, if_neg (by simpa using hne)] at hslice
      exact exists_resolveAll hps (fun e he => hplaced.operand he)
        (slice?_middle ['\x7b'] _ ['\x7d'] hslice)
  refine ⟨itemExprs (offset + 1) ps, ts', ?_, halike⟩
  show Expr.resolve schema text (.set _ (itemExprs (offset + 1) ps)) = _
  rw [Expr.resolve, hresolve]
  rfl

/-- The tree of a call. Its arguments are passed by position, so it is not refused. -/
theorem exists_expr_call (callee : Phrase) (args : List Phrase) (offset : Nat) :
    ∃ place kinds, (callee.call args).expr offset =
        .call place (callee.expr offset) kinds (itemExprs (offset + callee.size + 1) args) ∧
      Expr.refused? kinds = none := by
  -- the tree keeps kinds and arguments in two lists, which come from one list of pairs
  have hkinds : ∀ es : List Expr,
      Expr.refused? ((es.map fun e => (ArgKind.positional, e)).map Prod.fst) = none := by
    intro es
    induction es with
    | nil => rfl
    | cons e es ih => rw [List.map_cons, List.map_cons, Expr.refused?, ih]
  have hargs : ∀ es : List Expr, (es.map fun e => (ArgKind.positional, e)).map Prod.snd = es := by
    intro es
    rw [List.map_map]
    exact List.map_id es
  refine ⟨((callee.call args).expr offset).place, _, ?_,
    hkinds (itemExprs (offset + callee.size + 1) args)⟩
  show Expr.call _ _ _ _ = _
  rw [hargs]
  rfl

/-- The arguments of a call resolve. -/
theorem exists_resolveAll_call {callee : Phrase} (hps : List.Forall₂ (Writes schema) ps ts)
    {offset : Nat} {text : List Char} (hplaced : ((callee.call ps).expr offset).Placed text)
    (hslice : slice? text offset (offset + (callee.call ps).size) = some (callee.call ps).text) :
    ∃ ts', Expr.resolveAll schema text (itemExprs (offset + callee.size + 1) ps) = .ok ts' ∧
      List.Forall₂ Term.Alike ts ts' := by
  have hpart : ∀ e ∈ itemExprs (offset + callee.size + 1) ps,
      e ∈ ((callee.call ps).expr offset).parts := by
    intro e he
    obtain ⟨place, kinds, hexpr, -⟩ := exists_expr_call callee ps offset
    rw [hexpr]
    exact List.mem_cons_of_mem _ he
  -- the arguments begin behind the callee and the parenthesis
  rw [text_call] at hslice
  exact exists_resolveAll hps (fun e he => hplaced.part (hpart e he))
    (slice?_third callee.text ['('] _ [')'] hslice)

/-- A call of a function. -/
theorem exists_writes_func {n : String} (hname : Token.isName n = true)
    (hps : List.Forall₂ (Writes schema) ps ts) :
    ∃ p : Phrase, p.Writes schema (Term.mkFunc n ts) := by
  -- the callee is a phrase of its own, but no operand: its name goes into the head
  have hcallee : (atom (.ident n) n.toList fun place => .name place n).Reads primary :=
    reads_atom (fun _ => Token.stands_name hname) (fun _ => rfl) (fun _ => rfl) fun _ _ _ _ => rfl
  have hbare : ((atom (.ident n) n.toList fun place => .name place n).call ps).Bare :=
    bare_call hcallee.outer
  have htext : ((atom (.ident n) n.toList fun place => .name place n).call ps).text =
      (Term.mkFunc n ts).sourceChars := by
    rw [text_call, text_atom, map_text_of_writes hps, Term.mkFunc, Term.sourceChars_make,
      ← flatMap_slotItems []]
    simp [Fragment.chars]
  refine ⟨_, htext, reads_call hcallee (exists_reads_of_writes hps), hbare,
    denotes_make hbare htext ?_⟩
  intro offset text hplaced hslice
  obtain ⟨ts', hresolve, halike⟩ := exists_resolveAll_call hps hplaced hslice
  refine ⟨itemExprs (offset + (atom (.ident n) n.toList fun place => .name place n).size + 1) ps,
    ts', ?_, halike⟩
  obtain ⟨place, kinds, hexpr, hkinds⟩ := exists_expr_call
    (atom (.ident n) n.toList fun place => .name place n) ps offset
  rw [hexpr]
  unfold Expr.resolve
  rw [hkinds, hresolve]
  rfl

/-- A call of a method. -/
theorem exists_writes_meth {q : Phrase} {obj : Term} {n : String} (h : q.Writes schema obj)
    (hname : Token.isName n = true) (hps : List.Forall₂ (Writes schema) ps ts) :
    ∃ p : Phrase, p.Writes schema (Term.mkMeth obj n ts) := by
  obtain ⟨q', htext', hreads, hdenotes⟩ := h.exists_operand (Nat.le_refl primary)
    (obj.precedence < (Head.meth n).precedence)
    (fun hb => Head.primary_le_of_postfix (show 16 ≤ 17 by decide) (of_decide_eq_false hb))
  have hcallee : (q'.attr n).Reads primary := reads_attr hreads hname
  have hbare : ((q'.attr n).call ps).Bare := bare_call hcallee.outer
  have htext : ((q'.attr n).call ps).text = (Term.mkMeth obj n ts).sourceChars := by
    rw [text_call, text_attr, map_text_of_writes hps, htext', Term.mkMeth, Term.sourceChars_make,
      List.flatMap_append, List.flatMap_append, Term.flatMap_slotIn (t := obj) rfl,
      ← flatMap_slotItems [obj]]
    simp [Fragment.chars]
  refine ⟨_, htext, reads_call hcallee (exists_reads_of_writes hps), hbare,
    denotes_make hbare htext ?_⟩
  intro offset text hplaced hslice
  obtain ⟨ts', hresolve, halike⟩ := exists_resolveAll_call hps hplaced hslice
  -- the object is no part of the call but of the attribute that is called
  have hattr : ((q'.attr n).expr offset).Placed text := hplaced.part List.mem_cons_self rfl
  rw [text_call] at hslice
  obtain ⟨obj', hresolve', halike'⟩ := exists_resolve_attr hreads.present hdenotes hattr
    (slice?_middle [] (q'.attr n).text _ hslice)
  refine ⟨q'.expr offset :: itemExprs (offset + (q'.attr n).size + 1) ps, obj' :: ts', ?_,
    .cons halike' halike⟩
  obtain ⟨place, kinds, hexpr, hkinds⟩ := exists_expr_call (q'.attr n) ps offset
  rw [hexpr]
  show Expr.resolve schema text (.call place (.attr _ (q'.expr offset) n) kinds _) = _
  unfold Expr.resolve
  rw [hkinds]
  simp only [hresolve', hresolve]
  rfl

end Items

/-! ### Operators -/

/-- An operator between two operands. -/
theorem exists_writes_operator {op : BinaryOp} {q r : Phrase} {left right : Term} (hop : op ≠ .item)
    (hleft : q.Writes schema left) (hright : r.Writes schema right)
    (hor : ¬ (op = .and ∧ left.head = .binary .or)) :
    ∃ p : Phrase, p.Writes schema (Term.mkBinary op left right) := by
  -- on the left an operand of the operator's own level is read, on the right a tighter one
  have htight : op.level + 1 ≤ primary := by cases op <;> decide
  obtain ⟨q', hqtext, hqreads, hqdenotes⟩ := hleft.exists_operand (Nat.le_of_succ_le htight)
    (left.precedence < op.precedence)
    (fun hb => Head.level_le_of_left (of_decide_eq_false hb) hor)
  obtain ⟨r', hrtext, hrreads, hrdenotes⟩ := hright.exists_operand htight
    (right.precedence ≤ op.precedence) (fun hb => Head.level_lt_of_right (of_decide_eq_false hb))
  have hlevel : (Term.mkBinary op left right).head.level = op.level := by
    cases op <;> first | rfl | contradiction
  have hbare : (binary op q' r').Bare := bare_binary hqreads.outer hrreads.outer
  have htext : (binary op q' r').text = (Term.mkBinary op left right).sourceChars := by
    rw [text_binary, hqtext, hrtext, Term.sourceChars_mkBinary hop]
  refine ⟨_, htext, hlevel ▸ reads_binary hop hqreads hrreads, hbare, ?_⟩
  rw [Term.mkBinary_eq hop] at htext ⊢
  refine denotes_make hbare htext ?_
  intro offset text hplaced hslice
  -- the right operand stands behind the left one, the operator and the two blanks around it
  rw [text_binary] at hslice
  obtain ⟨left', hresolve, halike⟩ := hqdenotes offset text
    (hplaced.part List.mem_cons_self (hqreads.present _)) (slice?_middle [] q'.text _ hslice)
  obtain ⟨right', hresolve', halike'⟩ := hrdenotes
    (offset + q'.size + 1 + byteLength op.text.toList + 1) text
    (hplaced.part (List.mem_cons_of_mem _ List.mem_cons_self) (hrreads.present _)) (by
      have hmiddle := slice?_middle (q'.text ++ ' ' :: (op.text.toList ++ [' '])) r'.text []
        (hslice.trans (by simp))
      simp only [byteLength_append, byteLength_cons, byteLength_nil, ← Nat.add_assoc] at hmiddle
      exact hmiddle)
  refine ⟨[q'.expr offset, r'.expr (offset + q'.size + 1 + byteLength op.text.toList + 1)],
    [left', right'], ?_, .cons halike (.cons halike' .nil)⟩
  show Expr.resolve schema text (.binary _ op (q'.expr offset) (r'.expr _)) = _
  rw [Expr.resolve, hresolve, hresolve']
  rfl

/-- A subscript. -/
theorem exists_writes_item {q r : Phrase} {obj index : Term} (hobj : q.Writes schema obj)
    (hindex : r.Writes schema index) :
    ∃ p : Phrase, p.Writes schema (Term.mkBinary .item obj index) := by
  obtain ⟨q', hqtext, hqreads, hqdenotes⟩ := hobj.exists_operand (Nat.le_refl primary)
    (obj.precedence < BinaryOp.item.precedence)
    (fun hb => Head.primary_le_of_postfix (show 16 ≤ 16 by decide) (of_decide_eq_false hb))
  have hbare : (q'.item r).Bare := bare_item hqreads.outer
  have htext : (q'.item r).text = (Term.mkBinary .item obj index).sourceChars := by
    rw [text_item, hqtext, hindex.text, Term.mkBinary, Term.sourceChars_make, List.flatMap_append,
      Term.flatMap_slotIn (t := obj) rfl]
    simp [Fragment.chars]
  refine ⟨_, htext, reads_item hqreads hindex.reads, hbare, denotes_make hbare htext ?_⟩
  intro offset text hplaced hslice
  -- the index is in brackets anyway, so it needs no parentheses
  rw [text_item] at hslice
  obtain ⟨obj', hresolve, halike⟩ := hqdenotes offset text
    (hplaced.part List.mem_cons_self (hqreads.present _)) (slice?_middle [] q'.text _ hslice)
  obtain ⟨index', hresolve', halike'⟩ := hindex.denotes (offset + q'.size + 1) text
    (hplaced.part (List.mem_cons_of_mem _ List.mem_cons_self) (hindex.reads.present _))
    (slice?_third q'.text ['['] r.text [']'] hslice)
  refine ⟨[q'.expr offset, r.expr (offset + q'.size + 1)], [obj', index'], ?_,
    .cons halike (.cons halike' .nil)⟩
  show Expr.resolve schema text (.item _ (q'.expr offset) (r.expr _)) = _
  rw [Expr.resolve, hresolve, hresolve']
  rfl

/-- An operator in front of its operand. -/
theorem exists_writes_unary {op : UnaryOp} {q : Phrase} {obj : Term} (h : q.Writes schema obj) :
    ∃ p : Phrase, p.Writes schema (Term.mkUnary op obj) := by
  have htight : op.level ≤ primary := by cases op <;> decide
  obtain ⟨q', hqtext, hqreads, hqdenotes⟩ := h.exists_operand htight
    (obj.precedence ≤ op.precedence) (fun hb => Head.level_le_of_unary (of_decide_eq_false hb))
  have hbare : (unary op q').Bare := bare_unary hqreads.outer
  have htext : (unary op q').text = (Term.mkUnary op obj).sourceChars := by
    rw [text_unary, hqtext, Term.sourceChars_mkUnary]
  refine ⟨_, htext, reads_unary hqreads, hbare, denotes_make hbare htext ?_⟩
  intro offset text hplaced hslice
  rw [text_unary] at hslice
  obtain ⟨obj', hresolve, halike⟩ := hqdenotes (offset + byteLength op.text.toList) text
    (hplaced.part List.mem_cons_self (hqreads.present _))
    (slice?_middle op.text.toList q'.text [] (hslice.trans (by simp)))
  refine ⟨[q'.expr (offset + byteLength op.text.toList)], [obj'], ?_, .cons halike .nil⟩
  show Expr.resolve schema text (.unary _ op (q'.expr _)) = _
  rw [Expr.resolve, hresolve]
  rfl

/-- A conditional. -/
theorem exists_writes_cond {q r u : Phrase} {yes test no : Term} (hyes : q.Writes schema yes)
    (htest : r.Writes schema test) (hno : u.Writes schema no) :
    ∃ p : Phrase, p.Writes schema (Term.mkCond yes test no) := by
  have htight : orLevel ≤ primary := by decide
  obtain ⟨q', hqtext, hqreads, hqdenotes⟩ := hyes.exists_operand htight
    (yes.precedence ≤ Head.cond.precedence)
    (fun hb => Head.orLevel_le_of_cond (of_decide_eq_false hb))
  obtain ⟨r', hrtext, hrreads, hrdenotes⟩ := htest.exists_operand htight
    (test.precedence ≤ Head.cond.precedence)
    (fun hb => Head.orLevel_le_of_cond (of_decide_eq_false hb))
  obtain ⟨u', hutext, hureads, hudenotes⟩ := hno.exists_operand htight
    (no.precedence ≤ Head.cond.precedence)
    (fun hb => Head.orLevel_le_of_cond (of_decide_eq_false hb))
  -- the constructor puts parentheses around a conditional in the last branch too
  have hbare : (cond q' r' u').Bare := bare_cond hqreads.outer hureads.outer
  have htext : (cond q' r' u').text = (Term.mkCond yes test no).sourceChars := by
    rw [text_cond, hqtext, hrtext, hutext, Term.mkCond, Term.sourceChars_make]
    simp only [List.flatMap_append, List.flatMap_cons,
      Term.flatMap_slotIn (show [yes, test, no][0]? = some yes from rfl),
      Term.flatMap_slotIn (show [yes, test, no][1]? = some test from rfl),
      Term.flatMap_slotIn (show [yes, test, no][2]? = some no from rfl)]
    simp [Fragment.chars]
  refine ⟨_, htext, reads_cond hqreads hrreads (hureads.mono (Nat.zero_le _)), hbare,
    denotes_make hbare htext ?_⟩
  intro offset text hplaced hslice
  rw [text_cond] at hslice
  obtain ⟨yes', hresolve, halike⟩ := hqdenotes offset text
    (hplaced.part List.mem_cons_self (hqreads.present _)) (slice?_middle [] q'.text _ hslice)
  obtain ⟨test', hresolve', halike'⟩ := hrdenotes (offset + q'.size + 4) text
    (hplaced.part (List.mem_cons_of_mem _ List.mem_cons_self) (hrreads.present _))
    (slice?_third q'.text " if ".toList r'.text _ hslice)
  obtain ⟨no', hresolve'', halike''⟩ := hudenotes (offset + q'.size + 4 + r'.size + 6) text
    (hplaced.part (List.mem_cons_of_mem _ (List.mem_cons_of_mem _ List.mem_cons_self))
      (hureads.present _)) (by
      have hmiddle := slice?_middle (q'.text ++ (" if ".toList ++ (r'.text ++ " else ".toList)))
        u'.text [] (hslice.trans (by simp))
      simp only [byteLength_append, ← Nat.add_assoc] at hmiddle
      exact hmiddle)
  refine ⟨[q'.expr offset, r'.expr (offset + q'.size + 4),
    u'.expr (offset + q'.size + 4 + r'.size + 6)], [yes', test', no'], ?_,
    .cons halike (.cons halike' (.cons halike'' .nil))⟩
  show Expr.resolve schema text (.cond _ (q'.expr offset) (r'.expr _) (u'.expr _)) = _
  rw [Expr.resolve, hresolve, hresolve', hresolve'']
  rfl

/-! ### Slices -/

section Slice

/-- The phrase of a bound, if there is one, spells it. -/
def WritesBound (schema : Schema) : Option Phrase → Option Term → Prop
  | none, none => True
  | some p, some t => p.Writes schema t
  | _, _ => False

variable {low : Option Phrase} {bound : Option Term}

theorem WritesBound.exists_reads (h : WritesBound schema low bound) :
    ∀ p ∈ low, ∃ level, p.Reads level := by
  rintro p rfl
  cases bound with
  | none => exact h.elim
  | some t => exact ⟨_, Writes.reads h⟩

theorem WritesBound.text_eq (h : WritesBound schema low bound) :
    Piece.text (boundPieces low) = (bound.getD .absent).sourceChars := by
  cases low with
  | none =>
    cases bound with
    | none => rfl
    | some t => exact h.elim
  | some p =>
    cases bound with
    | none => exact h.elim
    | some t => exact Writes.text h

/-- A bound resolves, also when it is left out. -/
theorem WritesBound.exists_resolve (h : WritesBound schema low bound) {offset : Nat}
    {text : List Char}
    (hplaced : (boundExpr low offset).isPresent = true → (boundExpr low offset).Placed text)
    (hslice : slice? text offset (offset + byteLength (Piece.text (boundPieces low))) =
      some (Piece.text (boundPieces low))) :
    ∃ t', (boundExpr low offset).resolve schema text = .ok t' ∧
      (bound.getD .absent).Alike t' := by
  cases low with
  | none =>
    cases bound with
    | none => exact ⟨.absent, by rw [boundExpr, Expr.resolve], .node rfl .nil⟩
    | some t => exact h.elim
  | some p =>
    cases bound with
    | none => exact h.elim
    | some t =>
      exact Writes.denotes h offset text (hplaced ((Writes.reads h).present offset)) hslice

/-- A slice. -/
theorem exists_writes_slice {q : Phrase} {obj : Term} {high : Option Phrase}
    {bound' : Option Term} (hobj : q.Writes schema obj) (hlow : WritesBound schema low bound)
    (hhigh : WritesBound schema high bound') :
    ∃ p : Phrase, p.Writes schema (Term.mkSlice obj bound bound') := by
  obtain ⟨q', hqtext, hqreads, hqdenotes⟩ := hobj.exists_operand (Nat.le_refl primary)
    (obj.precedence < Head.slice.precedence)
    (fun hb => Head.primary_le_of_postfix (show 16 ≤ 16 by decide) (of_decide_eq_false hb))
  have hbare : (q'.slice low high).Bare := bare_slice hqreads.outer
  have htext : (q'.slice low high).text = (Term.mkSlice obj bound bound').sourceChars := by
    rw [text_slice, hqtext, hlow.text_eq, hhigh.text_eq, Term.mkSlice, Term.sourceChars_make,
      List.flatMap_append, Term.flatMap_slotIn (t := obj) rfl]
    simp [Fragment.chars]
  refine ⟨_, htext, reads_slice hqreads hlow.exists_reads hhigh.exists_reads, hbare,
    denotes_make hbare htext ?_⟩
  intro offset text hplaced hslice
  rw [text_slice] at hslice
  have hplaced' : ∀ e ∈ ((q'.slice low high).expr offset).parts,
      e.isPresent = true → e.Placed text := fun e he => hplaced.part he
  obtain ⟨obj', hresolve, halike⟩ := hqdenotes offset text
    (hplaced' _ List.mem_cons_self (hqreads.present _)) (slice?_middle [] q'.text _ hslice)
  -- a bound that is left out takes up no bytes, so the offsets are the same with and without it
  obtain ⟨low', hresolve', halike'⟩ := hlow.exists_resolve
    (hplaced' (boundExpr low (offset + q'.size + 1))
      (List.mem_cons_of_mem _ List.mem_cons_self))
    (slice?_third q'.text ['['] (Piece.text (boundPieces low)) _ hslice)
  obtain ⟨high', hresolve'', halike''⟩ := hhigh.exists_resolve
    (hplaced' (boundExpr high (offset + q'.size + 1 + byteLength (Piece.text (boundPieces low)) + 1))
      (List.mem_cons_of_mem _ (List.mem_cons_of_mem _ List.mem_cons_self))) (by
      have hmiddle := slice?_middle (q'.text ++ '[' :: (Piece.text (boundPieces low) ++ [':']))
        (Piece.text (boundPieces high)) [']'] (hslice.trans (by simp))
      simp only [byteLength_append, byteLength_cons, byteLength_nil, ← Nat.add_assoc] at hmiddle
      exact hmiddle)
  refine ⟨[q'.expr offset, boundExpr low (offset + q'.size + 1),
    boundExpr high (offset + q'.size + 1 + byteLength (Piece.text (boundPieces low)) + 1)],
    [obj', low', high'], ?_, .cons halike (.cons halike' (.cons halike'' .nil))⟩
  show Expr.resolve schema text (.slice _ (q'.expr offset) (boundExpr low _) (boundExpr high _)) = _
  rw [Expr.resolve, hresolve, hresolve', hresolve'']
  rfl

end Slice

end Phrase

/-! ### Terms that are built -/

/-- A term that the constructors build, over names that the language has and fields that resolve. -/
inductive Built (schema : Schema) : Term → Prop where
  | none : Built schema (Term.mkConst .none)
  | bool (value : Bool) : Built schema (Term.mkConst (.bool value))
  | int (value : Int64) (nonneg : 0 ≤ value) : Built schema (Term.mkConst (.int value))
  | str (value : String) : Built schema (Term.mkConst (.str value))
  | color (value : Color) : Built schema (Term.mkConst (.color value))
  | date (value : Calendar.Date) : Built schema (Term.mkConst (.date value))
  | dateTime (value : Calendar.DateTime) : Built schema (Term.mkDateTime value)
  | unknownRoot (identifier : String) (name : Token.isName identifier = true)
      (unknown : schema.vars.get? identifier = Option.none) :
      Built schema (Term.mkUnknownRoot identifier)
  | root (field : Field) (name : Token.isName field.identifier = true)
      (known : schema.vars.get? field.identifier = some field) : Built schema (Term.mkRoot field)
  | fieldRef {parent : Term} (identifier : String) (part : Built schema parent)
      (name : Token.isName identifier = true)
      (known : (Term.member? schema.groups parent identifier).isSome = true) :
      Built schema (Term.mkFieldRef schema.groups parent identifier)
  | list {items : List Term} (parts : ∀ t ∈ items, Built schema t) : Built schema (Term.mkList items)
  | set {items : List Term} (parts : ∀ t ∈ items, Built schema t) : Built schema (Term.mkSet items)
  | binary {left right : Term} (op : BinaryOp) (part : Built schema left)
      (part' : Built schema right) (strength : ¬ (op = .and ∧ left.head = .binary .or)) :
      Built schema (Term.mkBinary op left right)
  | unary {obj : Term} (op : UnaryOp) (part : Built schema obj) : Built schema (Term.mkUnary op obj)
  | cond {yes test no : Term} (part : Built schema yes) (part' : Built schema test)
      (part'' : Built schema no) : Built schema (Term.mkCond yes test no)
  | slice {obj : Term} {low high : Option Term} (part : Built schema obj)
      (parts : ∀ t ∈ low, Built schema t) (parts' : ∀ t ∈ high, Built schema t) :
      Built schema (Term.mkSlice obj low high)
  | attr {obj : Term} (identifier : String) (part : Built schema obj)
      (name : Token.isName identifier = true)
      (unknown : Term.member? schema.groups obj identifier = Option.none) :
      Built schema (Term.mkAttr obj identifier)
  | func {args : List Term} (identifier : String) (name : Token.isName identifier = true)
      (parts : ∀ t ∈ args, Built schema t) : Built schema (Term.mkFunc identifier args)
  | meth {obj : Term} {args : List Term} (identifier : String) (part : Built schema obj)
      (name : Token.isName identifier = true) (parts : ∀ t ∈ args, Built schema t) :
      Built schema (Term.mkMeth obj identifier args)

namespace Phrase

variable {schema : Schema}

theorem exists_forall₂_writes {ts : List Term} (h : ∀ t ∈ ts, ∃ p : Phrase, p.Writes schema t) :
    ∃ ps, List.Forall₂ (Writes schema) ps ts := by
  induction ts with
  | nil => exact ⟨[], .nil⟩
  | cons t ts ih =>
    obtain ⟨p, hp⟩ := h t List.mem_cons_self
    obtain ⟨ps, hps⟩ := ih fun u hu => h u (List.mem_cons_of_mem _ hu)
    exact ⟨p :: ps, .cons hp hps⟩

theorem exists_writesBound {bound : Option Term}
    (h : ∀ t ∈ bound, ∃ p : Phrase, p.Writes schema t) : ∃ low, WritesBound schema low bound := by
  cases bound with
  | none => exact ⟨none, trivial⟩
  | some t =>
    obtain ⟨p, hp⟩ := h t rfl
    exact ⟨some p, hp⟩

/-- **Every term that is built is spelled by a phrase.** -/
theorem exists_writes {t : Term} (h : Built schema t) : ∃ p : Phrase, p.Writes schema t := by
  -- one lemma for each constructor; the parts bring the phrases of the operands
  induction h with
  | none => exact exists_writes_const trivial
  | bool value => exact exists_writes_const trivial
  | int value nonneg => exact exists_writes_const nonneg
  | str value => exact exists_writes_const trivial
  | color value => exact exists_writes_const trivial
  | date value => exact exists_writes_const trivial
  | dateTime value => exact exists_writes_const (Calendar.DateTime.wholeSecond_wholeSecond value)
  | unknownRoot identifier name unknown => exact exists_writes_name name unknown
  | root field name known => exact exists_writes_name name known
  | fieldRef identifier _ name known ih =>
    obtain ⟨q, hq⟩ := ih
    exact exists_writes_fieldRef hq name known
  | list _ ih =>
    obtain ⟨ps, hps⟩ := exists_forall₂_writes ih
    exact exists_writes_list hps
  | set _ ih =>
    obtain ⟨ps, hps⟩ := exists_forall₂_writes ih
    exact exists_writes_set hps
  | binary op _ _ strength ihl ihr =>
    obtain ⟨q, hq⟩ := ihl
    obtain ⟨r, hr⟩ := ihr
    by_cases hop : op = .item
    · subst hop
      exact exists_writes_item hq hr
    · exact exists_writes_operator hop hq hr strength
  | unary op _ ih =>
    obtain ⟨q, hq⟩ := ih
    exact exists_writes_unary hq
  | cond _ _ _ ihy iht ihn =>
    obtain ⟨q, hq⟩ := ihy
    obtain ⟨r, hr⟩ := iht
    obtain ⟨u, hu⟩ := ihn
    exact exists_writes_cond hq hr hu
  | slice _ _ _ ih ihl ihh =>
    obtain ⟨q, hq⟩ := ih
    obtain ⟨low, hlow⟩ := exists_writesBound ihl
    obtain ⟨high, hhigh⟩ := exists_writesBound ihh
    exact exists_writes_slice hq hlow hhigh
  | attr identifier _ name unknown ih =>
    obtain ⟨q, hq⟩ := ih
    exact exists_writes_attr hq name unknown
  | func identifier name _ ih =>
    obtain ⟨ps, hps⟩ := exists_forall₂_writes ih
    exact exists_writes_func name hps
  | meth identifier _ name _ ih ihs =>
    obtain ⟨q, hq⟩ := ih
    obtain ⟨ps, hps⟩ := exists_forall₂_writes ihs
    exact exists_writes_meth hq name hps

end Phrase

/-- **The constructors are inverted by reading.** The source of a term that is built compiles, and to
the same term: at every node the same head, resolved field, type and fault, and the same source. -/
theorem compile_source_of_built {schema : Schema} {t : Term} (h : Built schema t) :
    ∃ t', compile schema t.source = .ok t' ∧ t.Alike t' := by
  obtain ⟨p, hp⟩ := Phrase.exists_writes h
  have hsource : t.source = String.ofList p.text := by
    rw [hp.text, ← Term.toList_source, String.ofList_toList]
  have hparse : Expr.parse t.source = .ok (p.expr 0) := by rw [hsource, hp.reads.parse]
  -- the phrase is the whole text, so its tree stands at the beginning
  obtain ⟨hplaced, -, -⟩ := placed_of_parse hparse
  rw [hsource, String.toList_ofList] at hplaced
  obtain ⟨t', hresolve, halike⟩ := hp.denotes 0 p.text hplaced (by
    rw [Nat.zero_add]
    exact slice?_self p.text)
  refine ⟨t', ?_, halike⟩
  rw [compile, hparse, hsource, String.toList_ofList]
  dsimp only
  rw [hresolve]
  rfl

/-- A reference, an empty set, two signs and a slice without a lower bound, with parentheses where
the binding strength asks for them. -/
theorem compile_source_of_built_product :
    ∃ schema t t', Built schema t ∧ t.source = "(p.boss + \x7b/\x7d) * -(-x[:2])" ∧
      compile schema "(p.boss + \x7b/\x7d) * -(-x[:2])" = .ok t' ∧ t.Alike t' := by
  let boss : Field := ⟨"boss", .int, none, none, some ⟨"person", 0⟩⟩
  let p : Field := ⟨"p", .int, none, none, some ⟨"person", 0⟩⟩
  let schema : Schema :=
    ⟨⟨1, .ofList [("person", 0, ⟨none, .ofList [("boss", boss)]⟩)]⟩, .ofList [("p", p)]⟩
  have hboss : Built schema (.mkFieldRef schema.groups (.mkRoot p) "boss") :=
    .fieldRef "boss" (.root p (by decide) rfl) (by decide) (by decide)
  have hempty : Built schema (.mkSet []) := .set (fun t ht => nomatch ht)
  have hslice : Built schema
      (.mkSlice (.mkUnknownRoot "x") none (some (.mkConst (.int 2)))) :=
    .slice (.unknownRoot "x" (by decide) rfl) (fun t ht => nomatch ht)
      (fun t ht => by cases ht; exact .int 2 (by decide))
  have hbuilt := Built.binary .mul (.binary .add hboss hempty (by decide))
    (.unary .neg (.unary .neg hslice)) (by decide)
  obtain ⟨t', hcompile, halike⟩ := compile_source_of_built hbuilt
  have hsource : (Term.mkBinary .mul
      (.mkBinary .add (.mkFieldRef schema.groups (.mkRoot p) "boss") (.mkSet []))
      (.mkUnary .neg (.mkUnary .neg
        (.mkSlice (.mkUnknownRoot "x") none (some (.mkConst (.int 2))))))).source =
      "(p.boss + \x7b/\x7d) * -(-x[:2])" := by decide +kernel
  exact ⟨schema, _, t', hbuilt, hsource, hsource ▸ hcompile, halike⟩

end QueryExpr
