import QueryExpr.Proofs.Expr.Paraphrase
import QueryExpr.Proofs.Rule.Expansion
import QueryExpr.Proofs.Sql.Emission
import QueryExpr.Proofs.Term.RoundTrip

/-!
# Integers with signs

The language has no negative literals. A negative constant is written with a minus sign, which is read
back as an operator in front of the magnitude, and the magnitude is a literal of its own. So the source
of a constant with signs in front of it compiles to a term with one sign more, over the magnitude, and
this is a valid integer again (`compile_signed`).

The magnitude of the least integer is no integer, though: its source is read back as a minus sign in
front of a literal that is out of range.
-/

namespace QueryExpr

open Text

/-- A sign in front of an integer. -/
inductive Sign where
  | neg
  | bitNot
  deriving DecidableEq, Repr

/-- The sign as an operator. -/
def Sign.op : Sign → UnaryOp
  | .neg => .neg
  | .bitNot => .bitNot

namespace Term

/-- The term with signs in front of it, the first one outermost. -/
def under (signs : List Sign) (t : Term) : Term := signs.foldr (fun sign t => .mkUnary sign.op t) t

/-- The integer with signs in front of it. -/
def signed (signs : List Sign) (v : Int64) : Term := under signs (.mkConst (.int v))

/-! ### Types -/

/-- A sign in front of an integer gives an integer. -/
theorem verdict_sign (sign : Sign) (content : List Fragment) {t : Term}
    (h : t.verdict = .valid .int) : (make (.unary sign.op) content [t]).verdict = .valid .int := by
  have htypes : signature? [t] = some [.int] := by
    rw [signature?, List.mapM_cons, h]
    rfl
  have hprovides : (Standard.table.any (Registry.provides (.unary sign.op) none [.int])) = true := by
    cases sign <;> decide +kernel
  have hint : (Standard.table.all (Registry.makesOnly (fun rule => rule.result = .int)
      (.unary sign.op) none [.int])) = true := by
    cases sign <;> decide +kernel
  obtain ⟨rule, hrule⟩ := Option.isSome_iff_exists.mp (Registry.isSome_lookup_of_provides hprovides)
  have hresult : rule.result = .int := of_decide_eq_true (Registry.property_of_lookup hint hrule)
  rw [← Registry.standard] at hrule
  have hlookup : Registry.standard.lookup (Head.unary sign.op).nodeType
      (Head.unary sign.op).ruleName? [.int] = some rule := hrule
  rw [make, verdict, verdictOn_of_isRuled .standard rfl htypes, ruleVerdict, hlookup]
  exact congrArg Verdict.valid hresult

theorem verdict_signed (signs : List Sign) (v : Int64) :
    (signed signs v).verdict = .valid .int := by
  induction signs with
  | nil => rfl
  | cons sign signs ih => exact verdict_sign sign _ ih

/-- Signs in front of what is at fault are at fault for this reason. -/
theorem verdict_under_of_fault {t : Term} (h : t.fault.isSome = true) {signs : List Sign}
    (hne : signs ≠ []) : (under signs t).verdict = .invalid .subnode := by
  -- one sign over a term at fault blames it, and is at fault itself
  have hsign : ∀ (sign : Sign) (u : Term), u.fault.isSome = true →
      (mkUnary sign.op u).verdict = .invalid .subnode := by
    intro sign u hu
    have hnone : u.verdict.type? = none := by
      obtain ⟨fault, hfault⟩ := Option.isSome_iff_exists.mp hu
      rw [Verdict.type?, show u.verdict.fault = some fault from hfault]
      rfl
    have htypes : signature? [u] = none := by
      rw [signature?, List.mapM_cons, hnone]
      rfl
    have hinner : (Head.unary sign.op).nodeType.isLeaf = false := rfl
    exact verdictOn_of_signature?_eq_none hinner htypes
  induction signs with
  | nil => exact absurd rfl hne
  | cons sign signs ih =>
    refine hsign sign (under signs t) ?_
    cases signs with
    | nil => exact h
    | cons sign' signs =>
      rw [fault, ih (List.cons_ne_nil _ _)]
      rfl

theorem bare_under_congr (signs : List Sign) {t u : Term} (h : t.bare = u.bare) :
    (under signs t).bare = (under signs u).bare := by
  induction signs with
  | nil => exact h
  | cons sign signs ih => exact bare_make_congr _ _ _ (congrArg (fun u => [u]) ih)

end Term

/-! ### How an integer is written -/

/-- The sign that an integer is written with. -/
def Sign.written (v : Int64) : List Sign := if v < 0 then [.neg] else []

/-- The literal behind the sign. -/
def Literal.magnitude (v : Int64) : Literal :=
  .ofInt (String.ofList (Nat.toDigits 10 v.toInt.natAbs))

/-- **The magnitude of an integer is an integer**, unless it is the least one. -/
theorem Literal.magnitude_eq (v : Int64) :
    magnitude v = if v = .minValue then .malformed .int else .int (.ofNat v.toInt.natAbs) := by
  split
  · next h =>
    subst h
    decide +kernel
  · next h =>
    have hrange : v.toInt.natAbs < 0x8000000000000000 := by
      have hlow := v.le_toInt
      have hhigh := v.toInt_lt
      have hne : v.toInt ≠ -2 ^ 63 := fun hv => h (Int64.toInt_inj.mp hv)
      omega
    exact ofInt_toDigits hrange

/-! ### How it is read back -/

/-- The tree of a literal with signs in front of it. -/
def Expr.under (signs : List Sign) (lit : Literal) : Expr :=
  signs.foldr (fun sign e => .unary .nowhere sign.op e) (.const .nowhere lit)

/-- The tree resolves to the term of the literal, with the signs in front of it. -/
theorem exists_resolve_under (schema : Schema) (signs : List Sign) (lit : Literal) :
    ∃ t, (Expr.under signs lit).resolve schema [] = .ok t ∧
      t.bare = (Term.under signs (Expr.resolveConst [] Place.nowhere.span lit)).bare := by
  induction signs with
  | nil => exact ⟨_, rfl, rfl⟩
  | cons sign signs ih =>
    obtain ⟨t, hresolve, ht⟩ := ih
    refine ⟨Expr.build [] Place.nowhere.span (.unary sign.op) [Expr.under signs lit] [t], ?_,
      Term.bare_make_congr _ _ _ (congrArg (fun u => [u]) ht)⟩
    show Expr.resolve schema [] (.unary .nowhere sign.op (Expr.under signs lit)) = _
    rw [Expr.resolve, hresolve]
    rfl

/-- The phrase is an operand of a sign, and wherever it stands its tree is this one. -/
structure Phrase.Signs (p : Phrase) (e : Expr) : Prop where
  reads : p.Reads UnaryOp.neg.level
  tree : ∀ offset, (p.expr offset).unplaced = e

section Phrases

variable {p : Phrase} {e : Expr}

/-- One sign more. -/
theorem Phrase.Signs.unary (h : p.Signs e) (sign : Sign) :
    (Phrase.unary sign.op p).Signs (.unary .nowhere sign.op e) where
  reads := by cases sign <;> exact reads_unary h.reads
  tree := fun offset => by
    show Expr.unary .nowhere sign.op (p.expr _).unplaced = _
    rw [h.tree]

/-- The source of a term as an operand of a sign, in parentheses if asked for. -/
theorem Phrase.Signs.exists_operand (h : p.Signs e) {t : Term} (htext : p.text = t.sourceChars)
    (parenthesize : Bool) : ∃ q : Phrase, q.text = t.operandChars parenthesize ∧ q.Signs e := by
  cases parenthesize with
  | false => exact ⟨p, htext, h⟩
  | true =>
    refine ⟨p.paren, ?_, (reads_paren h.reads).mono (by decide), fun offset => ?_⟩
    · rw [text_paren, htext]
      rfl
    · rw [Phrase.paren, Expr.unplaced_parenthesized]
      exact h.tree _

end Phrases

/-- The digits of a magnitude are an operand of a sign. -/
theorem exists_signs_magnitude (v : Int64) :
    ∃ p : Phrase, p.text = Nat.toDigits 10 v.toInt.natAbs ∧ p.Signs (.const .nowhere (.magnitude v)) := by
  have hdigits : ∀ c ∈ Nat.toDigits 10 v.toInt.natAbs, isAsciiDigit c = true := fun c hc =>
    Nat.isDigit_of_mem_toDigits (by decide) (by decide) hc
  have hreads : (Phrase.atom (.int (String.ofList (Nat.toDigits 10 v.toInt.natAbs)))
      (Nat.toDigits 10 v.toInt.natAbs) fun place => .const place (.magnitude v)).Reads Phrase.primary :=
    Phrase.reads_literal (fun _ => Token.stands_int hdigits Nat.toDigits_ne_nil) rfl
  exact ⟨_, Phrase.text_atom _ _ _, hreads.mono (by decide), fun offset => rfl⟩

/-- **The source of an integer with signs** is read as its magnitude with the same signs, and with the sign
of the integer behind them. -/
theorem exists_signs_signed (signs : List Sign) (v : Int64) :
    ∃ p : Phrase, p.text = (Term.signed signs v).sourceChars ∧
      p.Signs (.under (signs ++ Sign.written v) (.magnitude v)) := by
  induction signs with
  | nil =>
    obtain ⟨p, htext, hsigns⟩ := exists_signs_magnitude v
    have hsource : (Term.signed [] v).sourceChars = (toString v).toList := by
      show (Term.mkConst (.int v)).sourceChars = _
      rw [Term.mkConst, Term.sourceChars_make]
      simp [Fragment.chars, Constant.literal]
    rw [hsource, toList_toString, List.nil_append, Sign.written]
    split
    · exact ⟨.unary .neg p, by rw [Phrase.text_unary, htext]; rfl, hsigns.unary .neg⟩
    · exact ⟨p, htext, hsigns⟩
  | cons sign signs ih =>
    -- a sign is put in front; whether the rest has parentheses makes no difference to the tree
    obtain ⟨p, htext, hsigns⟩ := ih
    obtain ⟨q, hqtext, hqsigns⟩ := hsigns.exists_operand htext
      ((Term.signed signs v).precedence ≤ sign.op.precedence)
    refine ⟨.unary sign.op q, ?_, hqsigns.unary sign⟩
    rw [Phrase.text_unary, hqtext]
    exact (Term.sourceChars_mkUnary sign.op (Term.signed signs v)).symm

/-- **Integers with signs read back.** Under every schema the source of an integer with signs in front of it
compiles. Unless the integer is the least one, the result is a valid integer again: the magnitude, with the
same signs and the sign of the integer in front of it. The least integer is read back as a sign in front
of a literal that is out of range, so that the result is not valid. -/
theorem compile_signed (schema : Schema) (signs : List Sign) (v : Int64) :
    (Term.signed signs v).verdict = .valid .int ∧
    ∃ t, compile schema (Term.signed signs v).source = .ok t ∧
      if v = .minValue then t.verdict = .invalid .subnode
      else t.verdict = .valid .int ∧
        t.bare = (Term.signed (signs ++ Sign.written v) (.ofNat v.toInt.natAbs)).bare := by
  refine ⟨Term.verdict_signed signs v, ?_⟩
  obtain ⟨p, htext, hsigns⟩ := exists_signs_signed signs v
  have hparse : Expr.parse (Term.signed signs v).source = .ok (p.expr 0) := by
    rw [← hsigns.reads.parse, htext, ← Term.toList_source, String.ofList_toList]
  -- the text is read as the signs over the magnitude, and resolved to that
  obtain ⟨u, hresolve, hu⟩ := exists_resolve_under schema (signs ++ Sign.written v) (.magnitude v)
  obtain ⟨t, hcompile, ht⟩ := exists_compile_of_resolve hparse (by rw [hsigns.tree, hresolve])
  refine ⟨t, hcompile, ?_⟩
  rw [hu, Literal.magnitude_eq] at ht
  rw [← Term.verdict_bare, ht]
  by_cases hv : v = .minValue
  · -- the magnitude of the least integer is too large, and the sign of the integer stands in front of it
    rw [if_pos hv, if_pos hv, Term.verdict_bare]
    refine Term.verdict_under_of_fault rfl ?_
    rw [hv]
    exact List.append_ne_nil_of_right_ne_nil _ (by decide)
  · have hbare : (Term.under (signs ++ Sign.written v)
        (Expr.resolveConst [] Place.nowhere.span (.int (.ofNat v.toInt.natAbs)))).bare =
        (Term.signed (signs ++ Sign.written v) (.ofNat v.toInt.natAbs)).bare :=
      Term.bare_under_congr _ (Term.bare_make_congr _ _ _ rfl)
    rw [if_neg hv, if_neg hv, hbare, Term.verdict_bare]
    exact ⟨Term.verdict_signed _ _, rfl⟩

/-- The least integer: the literal behind its sign is out of range. -/
theorem least_integer_is_not_read_back :
    ∃ t, (Term.mkConst (.int .minValue)).verdict = .valid .int ∧
      compile {} (Term.mkConst (.int .minValue)).source = .ok t ∧ t.verdict = .invalid .subnode ∧
      t.descendants.map (fun n => (n.source, n.fault)) =
        [("9223372036854775808", some (.malformed .int))] := by
  have hsome : (compile {} (Term.mkConst (.int .minValue)).source).toOption.map (fun t =>
      (t.verdict, t.descendants.map fun n => (n.source, n.fault))) =
        some (.invalid .subnode, [("9223372036854775808", some (.malformed .int))]) := by
    decide +kernel
  obtain ⟨t, ht, hview⟩ := exists_of_toOption_map_eq_some hsome
  obtain ⟨hverdict, hdescendants⟩ := Prod.mk.inj hview
  exact ⟨t, rfl, ht, hverdict, hdescendants⟩

end QueryExpr
