import QueryExpr.Proofs.Expr.Paraphrase
import QueryExpr.Proofs.Term.RoundTrip

/-!
# Formulas read back

Formulas of names, `not`, `and` and `or` are built with parentheses by binding strength, which is the
same for `and` and `or`. For the grammar `and` is the tighter one. So the parentheses that a disjunction
needs as the left operand of `and` are left out, and what is read back is another formula: the second
half of the disjunction takes the rest (`Formula.conjoin`).

`Formula.reread` does this to every part of a formula. That it is what the parser does is shown along
the formula: the source of a part is a phrase of the grammar, and that of a disjunction is two phrases
with `or` between them, of which the second can go on (`Formula.Reading`). A formula comes back as it
was exactly if no conjunction in it has a disjunction on the left (`Formula.compiles_to_reread`).
-/

namespace QueryExpr

/-- A formula over names of the language. -/
inductive Formula where
  | name (identifier : String) (isName : Token.isName identifier = true)
  | not (f : Formula)
  | and (left right : Formula)
  | or (left right : Formula)

namespace Formula

/-! ### Formulas and what they are read as -/

/-- The formula, built as a term. -/
def term : Formula → Term
  | .name identifier _ => .mkUnknownRoot identifier
  | .not f => .mkUnary .not f.term
  | .and left right => .mkBinary .and left.term right.term
  | .or left right => .mkBinary .or left.term right.term

/-- The formula as a tree of the grammar. -/
def tree : Formula → Expr
  | .name identifier _ => .name .nowhere identifier
  | .not f => .unary .nowhere .not f.tree
  | .and left right => .binary .nowhere .and left.tree right.tree
  | .or left right => .binary .nowhere .or left.tree right.tree

/-- The formula is a disjunction. -/
def isOr : Formula → Bool
  | .or _ _ => true
  | _ => false

/-- What is read where `and` comes between the two: behind a disjunction it goes with the second
half. -/
def conjoin : Formula → Formula → Formula
  | .or x y, right => .or x (.and y right)
  | left, right => .and left right

/-- What the source of the formula is read as. -/
def reread : Formula → Formula
  | .name identifier isName => .name identifier isName
  | .not f => .not f.reread
  | .and left right => conjoin left.reread right.reread
  | .or left right => .or left.reread right.reread

/-- No conjunction has a disjunction as its left operand. -/
def survives : Formula → Bool
  | .name _ _ => true
  | .not f => f.survives
  | .and left right => !left.isOr && left.survives && right.survives
  | .or left right => left.survives && right.survives

theorem conjoin_of_isOr {left : Formula} (h : left.isOr = false) (right : Formula) :
    conjoin left right = .and left right := by
  cases left with
  | or x y => cases h
  | _ => rfl

/-- **The formulas that are read as themselves.** -/
theorem reread_eq_self_iff (f : Formula) : f.reread = f ↔ f.survives = true := by
  induction f with
  | name identifier isName => exact iff_of_true rfl rfl
  | not f ih => rw [reread, survives, Formula.not.injEq, ih]
  | or left right ihl ihr =>
    rw [reread, survives, Formula.or.injEq, ihl, ihr, Bool.and_eq_true]
  | and left right ihl ihr =>
    rw [reread, survives, Bool.and_eq_true, Bool.and_eq_true, ← ihl, ← ihr]
    constructor
    · intro h
      -- a disjunction on the left would have come out on top
      have hor : left.reread.isOr = false := by
        cases hleft : left.reread with
        | or x y => rw [hleft] at h; cases h
        | _ => rfl
      rw [conjoin_of_isOr hor, Formula.and.injEq] at h
      obtain ⟨hleft, hright⟩ := h
      rw [hleft] at hor
      exact ⟨⟨by rw [hor]; rfl, hleft⟩, hright⟩
    · rintro ⟨⟨hor, hleft⟩, hright⟩
      rw [hleft, hright]
      exact conjoin_of_isOr (by simpa using hor) right

/-! ### Formulas as terms -/

/-- What binds tighter than `and` and `or` keeps its head. -/
theorem head_reread {f : Formula} (h : ¬ f.term.precedence ≤ BinaryOp.and.precedence) :
    f.reread.term.head = f.term.head := by
  cases f with
  | name identifier isName => rfl
  | not f => rfl
  | and left right => exact absurd (Nat.le_refl _) h
  | or left right => exact absurd (Nat.le_refl _) h

/-- No formula needs parentheses on the left of `and` or `or`, as binding strength has it. -/
theorem not_precedence_lt (f : Formula) : ¬ f.term.precedence < BinaryOp.and.precedence := by
  cases f <;> exact of_decide_eq_true rfl

/-- An operator between operands, without source, tells the operands. -/
theorem bare_mkBinary_inj {op : BinaryOp} {left right left' right' : Term}
    (h : (Term.mkBinary op left right).bare = (Term.mkBinary op left' right').bare) :
    left.bare = left'.bare ∧ right.bare = right'.bare := by
  have hslots : [left.bare, right.bare] = [left'.bare, right'.bare] := congrArg Term.slots h
  obtain ⟨hleft, hrest⟩ := List.cons_eq_cons.mp hslots
  exact ⟨hleft, List.singleton_inj.mp hrest⟩

/-- The term without source tells the formula. -/
theorem eq_of_bare_term {f g : Formula} (h : f.term.bare = g.term.bare) : f = g := by
  -- the head tells the connective, and the slots tell the operands
  induction f generalizing g with
  | name identifier isName =>
    have hhead := congrArg Term.head h
    cases g with
    | name identifier' isName' =>
      cases hhead
      rfl
    | _ => cases hhead
  | not f ih =>
    have hhead := congrArg Term.head h
    cases g with
    | not g =>
      have hslots : [f.term.bare] = [g.term.bare] := congrArg Term.slots h
      rw [ih (List.singleton_inj.mp hslots)]
    | _ => cases hhead
  | and left right ihl ihr =>
    have hhead := congrArg Term.head h
    cases g with
    | and left' right' =>
      obtain ⟨hleft, hright⟩ := bare_mkBinary_inj h
      rw [ihl hleft, ihr hright]
    | _ => cases hhead
  | or left right ihl ihr =>
    have hhead := congrArg Term.head h
    cases g with
    | or left' right' =>
      obtain ⟨hleft, hright⟩ := bare_mkBinary_inj h
      rw [ihl hleft, ihr hright]
    | _ => cases hhead

/-- The tree of a formula resolves to the formula, over any text. -/
theorem exists_resolve_tree (f : Formula) (text : List Char) :
    ∃ t, f.tree.resolve {} text = .ok t ∧ t.bare = f.term.bare := by
  induction f with
  | name identifier isName =>
    rw [tree, Expr.resolve]
    exact ⟨_, rfl, Term.bare_make_congr _ _ _ rfl⟩
  | not f ih =>
    obtain ⟨t, hresolve, ht⟩ := ih
    rw [tree, Expr.resolve, hresolve]
    exact ⟨_, rfl, Term.bare_make_congr _ _ _ (by simp [ht])⟩
  | and left right ihl ihr | or left right ihl ihr =>
    obtain ⟨l, hleft, hl⟩ := ihl
    obtain ⟨r, hright, hr⟩ := ihr
    rw [tree, Expr.resolve, hleft, hright]
    exact ⟨_, rfl, Term.bare_make_congr _ _ _ (by simp [hl, hr])⟩

end Formula

/-! ### Phrases for formulas -/

open Phrase

/-- The phrase is read as an operand of the level, and its tree is the formula. -/
structure Phrase.States (p : Phrase) (level : Nat) (f : Formula) : Prop where
  reads : p.Reads level
  tree : ∀ offset, (p.expr offset).unplaced = f.tree

namespace Phrase.States

variable {p q : Phrase} {f g : Formula} {level level' : Nat}

theorem mono (h : p.States level f) (hle : level' ≤ level) : p.States level' f :=
  ⟨h.reads.mono hle, h.tree⟩

theorem paren (h : p.States level f) : p.paren.States primary f where
  reads := reads_paren h.reads
  tree := fun offset => by
    rw [Phrase.paren, Expr.unplaced_parenthesized]
    exact h.tree _

theorem not (h : p.States UnaryOp.not.level f) : (unary .not p).States UnaryOp.not.level (.not f) where
  reads := reads_unary h.reads
  tree := fun offset => by
    show Expr.unary .nowhere .not (p.expr _).unplaced = _
    rw [h.tree, Formula.tree]

/-- Two phrases with an operator between them, which the formula has on top. -/
theorem binary {op : BinaryOp} {whole : Formula} (hop : op ≠ .item)
    (htree : whole.tree = .binary .nowhere op f.tree g.tree) (h : p.States op.level f)
    (h' : q.States (op.level + 1) g) : (Phrase.binary op p q).States op.level whole where
  reads := reads_binary hop h.reads h'.reads
  tree := fun offset => by
    show Expr.binary .nowhere op (p.expr _).unplaced (q.expr _).unplaced = _
    rw [h.tree, h'.tree, htree]

end Phrase.States

namespace Formula

/-- **How a text is read as a formula** if it may go on with `and`: as one phrase, which becomes the left
operand, or as two with `or` between them, of which the second becomes the left operand. -/
inductive Reading (chars : List Char) : Formula → Prop where
  | whole {f : Formula} {p : Phrase} (notOr : f.isOr = false) (text : p.text = chars)
      (states : p.States f.term.head.level f) : Reading chars f
  | split {x y : Formula} {p q : Phrase} (text : (binary .or p q).text = chars)
      (first : p.States BinaryOp.or.level x) (second : q.States (BinaryOp.or.level + 1) y) :
      Reading chars (.or x y)

section Reading

variable {chars : List Char} {f g : Formula}

theorem Reading.exists_phrase (h : Reading chars f) :
    ∃ p : Phrase, p.text = chars ∧ p.States f.term.head.level f := by
  cases h with
  | whole notOr text states => exact ⟨_, text, states⟩
  | split text first second => exact ⟨_, text, first.binary (by decide) rfl second⟩

/-- The source of a formula as an operand, in parentheses if asked for. -/
theorem Reading.exists_operand (h : Reading f.term.sourceChars g) {level : Nat}
    (hlevel : level ≤ primary) {parenthesize : Bool}
    (hbare : parenthesize = false → level ≤ g.term.head.level) :
    ∃ p : Phrase, p.text = f.term.operandChars parenthesize ∧ p.States level g := by
  obtain ⟨p, htext, hstates⟩ := h.exists_phrase
  cases parenthesize with
  | false => exact ⟨p, htext, hstates.mono (hbare rfl)⟩
  | true =>
    refine ⟨p.paren, ?_, hstates.paren.mono hlevel⟩
    rw [text_paren, htext]
    rfl

/-- The right operand of `and` and `or`. -/
theorem Reading.exists_right (h : Reading f.term.sourceChars f.reread) :
    ∃ p : Phrase, p.text = f.term.operandChars (f.term.precedence ≤ BinaryOp.and.precedence) ∧
      p.States (BinaryOp.and.level + 1) f.reread := by
  refine h.exists_operand (by decide) fun hbare => ?_
  have htight := of_decide_eq_false hbare
  rw [head_reread htight]
  exact Head.level_lt_of_right htight

/-- The operand of `not`. -/
theorem Reading.exists_negated (h : Reading f.term.sourceChars f.reread) :
    ∃ p : Phrase, p.text = f.term.operandChars (f.term.precedence ≤ UnaryOp.not.precedence) ∧
      p.States UnaryOp.not.level f.reread := by
  refine h.exists_operand (by decide) fun hbare => ?_
  have htight := of_decide_eq_false hbare
  have hstrength : BinaryOp.and.precedence ≤ UnaryOp.not.precedence := by decide
  rw [head_reread fun hle => htight (Nat.le_trans hle hstrength)]
  exact Head.level_le_of_unary htight

/-- The source of a conjunction or a disjunction: its left operand has no parentheses. -/
theorem sourceChars_connective {op : BinaryOp} (hop : op = .and ∨ op = .or) (left right : Formula) :
    (Term.mkBinary op left.term right.term).sourceChars = left.term.sourceChars ++
      ' ' :: (op.text.toList ++
        ' ' :: right.term.operandChars (right.term.precedence ≤ BinaryOp.and.precedence)) := by
  have hitem : op ≠ .item := by
    rcases hop with rfl | rfl <;> decide
  have hstrength : op.precedence = BinaryOp.and.precedence := by
    rcases hop with rfl | rfl <;> rfl
  rw [Term.sourceChars_mkBinary hitem, hstrength, decide_eq_false left.not_precedence_lt]
  rfl

/-- **The source of a formula is read as the formula that it is reread as.** -/
theorem reading (f : Formula) : Reading f.term.sourceChars f.reread := by
  induction f with
  | name identifier isName =>
    refine .whole rfl ?_ ⟨reads_name isName, fun offset => rfl⟩
    rw [text_atom, term, Term.mkUnknownRoot, Term.sourceChars_make]
    simp [Fragment.chars]
  | not f ih =>
    obtain ⟨p, htext, hstates⟩ := ih.exists_negated
    refine .whole rfl ?_ hstates.not
    rw [text_unary, htext, term, Term.sourceChars_mkUnary]
  | or left right ihl ihr =>
    obtain ⟨p, hptext, hp⟩ := ihl.exists_phrase
    obtain ⟨q, hqtext, hq⟩ := ihr.exists_right
    have hlevel : BinaryOp.or.level ≤ left.reread.term.head.level := by
      cases left.reread <;> exact of_decide_eq_true rfl
    refine .split ?_ (hp.mono hlevel) (hq.mono (by decide))
    rw [text_binary, hptext, hqtext, term, sourceChars_connective (.inr rfl)]
  | and left right ihl ihr =>
    obtain ⟨q, hqtext, hq⟩ := ihr.exists_right
    have hsource := sourceChars_connective (.inl rfl) left right
    rw [reread, term, hsource, ← hqtext]
    generalize left.reread = l at ihl
    cases ihl with
    | @whole l p notOr text states =>
      -- the left operand is tight enough and stays as it is
      have hlevel : BinaryOp.and.level ≤ l.term.head.level := by
        cases l with
        | or x y => cases notOr
        | _ => exact of_decide_eq_true rfl
      rw [conjoin_of_isOr notOr, ← text]
      exact .whole rfl (text_binary p q .and) ((states.mono hlevel).binary (by decide) rfl hq)
    | @split x y p r text first second =>
      -- what follows the disjunction goes with its second half
      have hsecond : (binary .and r q).States (BinaryOp.or.level + 1) (.and y right.reread) :=
        second.binary (by decide) rfl hq
      refine .split ?_ first hsecond
      rw [← text]
      simp only [text_binary, List.append_assoc, List.cons_append]

end Reading

/-- **Formulas read back.** The source of a formula compiles, and to the formula that it is reread as.
This is the formula itself exactly if no conjunction in it has a disjunction on its left. -/
theorem compiles_to_reread (f : Formula) :
    ∃ t, compile {} f.term.source = .ok t ∧ t.bare = f.reread.term.bare ∧
      (t.bare = f.term.bare ↔ f.survives = true) := by
  obtain ⟨p, htext, hstates⟩ := f.reading.exists_phrase
  have hparse : Expr.parse f.term.source = .ok (p.expr 0) := by
    rw [← hstates.reads.parse, htext, ← Term.toList_source, String.ofList_toList]
  obtain ⟨t, hresolve, ht⟩ := f.reread.exists_resolve_tree []
  obtain ⟨t', hcompile, ht'⟩ := exists_compile_of_resolve hparse (by rw [hstates.tree, hresolve])
  have hbare : t'.bare = f.reread.term.bare := ht'.trans ht
  refine ⟨t', hcompile, hbare, ?_⟩
  rw [hbare, ← reread_eq_self_iff]
  exact ⟨eq_of_bare_term, fun h => by rw [h]⟩

/-- The disjunction of two names on the left of `and`: its parentheses are not written, and the formula
comes back as a disjunction. -/
theorem disjunction_loses_parentheses :
    ∃ (f : Formula) (t : Term), f.term.source = "a or b and c" ∧ compile {} f.term.source = .ok t ∧
      f.term.head = .binary .and ∧ t.head = .binary .or ∧ t.bare ≠ f.term.bare := by
  let f : Formula := .and (.or (.name "a" (by decide)) (.name "b" (by decide))) (.name "c" (by decide))
  have hsource : f.term.source = "a or b and c" := by decide +kernel
  have hview : (compile {} "a or b and c").toOption.map Term.head = some (.binary .or) := by
    decide +kernel
  obtain ⟨t, hcompile, hhead⟩ := exists_of_toOption_map_eq_some hview
  refine ⟨f, t, hsource, hsource ▸ hcompile, rfl, hhead, ?_⟩
  intro hbare
  have hheads : t.head = f.term.head := by rw [← Term.head_bare, hbare, Term.head_bare]
  rw [hhead] at hheads
  cases hheads

end Formula
end QueryExpr
