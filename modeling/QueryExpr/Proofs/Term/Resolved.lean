import QueryExpr.Proofs.Expr.Fidelity
import QueryExpr.Proofs.Expr.Literals
import QueryExpr.Proofs.Number.Sign

/-!
# What compiled terms are made of

A term that comes out of a text is not just any term. Its names are names of the language, its fields
are those that the schema has under these names, its constants have no sign, and the verdict on each
node is the one that the rules give, but for malformed literals. `Resolved` says so node by node; it
is what later arguments about compiled terms go by. Those about references go from one reference to the
one that it is reached from (`Resolved.path_induction`).
-/

namespace QueryExpr

/-- Numbers have no sign. -/
def Constant.IsUnsigned : Constant → Prop
  | .int value => 0 ≤ value
  | .number value => value.value.isNegative = false
  | _ => True

/-- The term of a text, over the variables and groups of the schema. -/
inductive Resolved (schema : Schema) : Term → Prop where
  | root (identifier : String) (content : List Fragment)
      (name : Token.isName identifier = true) :
      Resolved schema (.make (.field identifier (schema.vars.get? identifier)) content [])
  | member {parent : Term} {field : Field} (identifier : String) (content : List Fragment)
      (name : Token.isName identifier = true)
      (known : Term.member? schema.groups parent identifier = some field)
      (part : Resolved schema parent) :
      Resolved schema (.make (.field identifier (some field)) content [parent])
  | const (value : Constant) (content : List Fragment) (unsigned : value.IsUnsigned) :
      Resolved schema (.make (.const value) content [])
  | malformed (kind : LiteralKind) (content : List Fragment) :
      Resolved schema ((Term.make (.const .none) content []).withFault (.malformed kind))
  | node (head : Head) (content : List Fragment) {slots : List Term}
      (inner : head.nodeType.isLeaf = false) (parts : ∀ t ∈ slots, Resolved schema t) :
      Resolved schema (.make head content slots)

/-! ### References -/

theorem exists_fullIdentifier? {t : Term} {field : Field} (h : t.field? = some field) :
    ∃ path, t.fullIdentifier? = some path := by
  obtain ⟨head, verdict, content, slots⟩ := t
  cases head with
  | field identifier _ =>
    cases slots with
    | nil => exact ⟨_, rfl⟩
    | cons parent rest => exact ⟨_, rfl⟩
  | _ => cases h

theorem fullIdentifier?_of_isField_eq_false {t : Term} (h : t.head.isField = false) :
    t.fullIdentifier? = none := by
  obtain ⟨head, verdict, content, slots⟩ := t
  cases head with
  | field identifier field => cases h
  | _ => rfl

/-- **Induction along a path**: a term is a variable, a field of the group that another reference leads
to, or no reference at all. -/
theorem Resolved.path_induction {schema : Schema} {motive : ∀ t, Resolved schema t → Prop}
    (root : ∀ (identifier : String) (content : List Fragment) (name : Token.isName identifier = true),
      motive _ (.root identifier content name))
    (member : ∀ {parent : Term} {origin field : Field} {front : String} (identifier : String)
      (content : List Fragment) (name : Token.isName identifier = true)
      (known : Term.member? schema.groups parent identifier = some field)
      (part : Resolved schema parent), parent.field? = some origin →
      schema.groups.member? origin identifier = some field → parent.fullIdentifier? = some front →
      motive parent part → motive _ (.member identifier content name known part))
    (other : ∀ (t : Term) (ht : Resolved schema t), t.head.isField = false → motive t ht)
    {t : Term} (ht : Resolved schema t) : motive t ht := by
  induction ht with
  | root identifier content name => exact root identifier content name
  | member identifier content name known part ih =>
    obtain ⟨origin, horigin, hmember⟩ := Option.bind_eq_some_iff.mp known
    obtain ⟨front, hfront⟩ := exists_fullIdentifier? horigin
    exact member identifier content name known part horigin hmember hfront ih
  | const value content unsigned => exact other _ _ rfl
  | malformed kind content => exact other _ _ rfl
  | node head content inner parts =>
    refine other _ _ ?_
    -- a field is a leaf
    cases head with
    | field identifier field => cases inner
    | _ => rfl

/-! ### Literals -/

/-- A number with a fraction or an exponent is a front part of the text that begins with a digit. -/
theorem Token.exists_digit_of_number? {cs : List Char} {text : String} {n : Nat}
    (h : number? cs = some (.float text, n)) :
    ∃ c, text.toList.head? = some c ∧ isAsciiDigit c = true := by
  rcases number?_cases h with ⟨-, -, htoken⟩ | ⟨whole, fraction, -, hrun, hwhole, -, hn, htoken⟩
  · cases htoken
  · split at htoken
    · cases htoken
    · obtain rfl := Token.float.inj htoken
      -- the run of digits that was found is not empty, so the first character is one
      cases cs with
      | nil => exact absurd hrun.symm hwhole
      | cons c cs =>
        have hc : isAsciiDigit c = true := by
          by_contra hc
          exact hwhole (by rw [← hrun, digitRun, List.takeWhile_cons_of_neg hc]; rfl)
        refine ⟨c, ?_, hc⟩
        rw [String.toList_ofList, List.head?_take, if_neg (by omega), List.head?_cons]

/-- A token that is such a number. -/
theorem Token.Spells.float {text : String} {word : List Char}
    (h : (Token.float text).Spells word) :
    ∃ c, text.toList.head? = some c ∧ isAsciiDigit c = true := by
  obtain ⟨-, rest, h⟩ := h
  exact exists_digit_of_number? (number?_of_atFront? (.inr rfl) h)

/-- What a literal denotes has no sign. -/
def Literal.IsUnsigned : Literal → Prop
  | .int value => 0 ≤ value
  | .float value => value.value.isNegative = false
  | _ => True

theorem Literal.isUnsigned_ofInt (text : String) : (Literal.ofInt text).IsUnsigned := by
  unfold Literal.ofInt
  split
  split
  · split
    · next hlt =>
      rw [IsUnsigned, Int64.le_iff_toInt_le, Int64.toInt_ofNat_of_lt hlt]
      exact Int.natCast_nonneg _
    · trivial
  · trivial

theorem Literal.isUnsigned_ofFloat {text : String} {word : List Char}
    (h : (Token.float text).Spells word) : (Literal.ofFloat text).IsUnsigned := by
  unfold Literal.ofFloat
  split
  · next hread =>
    refine Binary64.isNegative_read? hread ?_
    obtain ⟨c, hc, hdigit⟩ := h.float
    unfold Binary64.readSign
    split
    · next heq => rw [heq] at hc; cases hc; cases hdigit
    · next heq => rw [heq] at hc; cases hc; cases hdigit
    · rfl
  · trivial

/-- No token denotes a number with a sign. -/
theorem Literal.isUnsigned_of_spells {token : Token} {word : List Char} {value : Literal}
    (hspells : token.Spells word) (hvalue : token.literal? = some value) : value.IsUnsigned := by
  unfold Token.literal? at hvalue
  split at hvalue <;> first | obtain rfl := Option.some.inj hvalue | cases hvalue
  · trivial
  · trivial
  · trivial
  · exact isUnsigned_ofInt _
  · exact isUnsigned_ofFloat hspells
  · trivial
  · unfold Literal.ofDate
    split <;> split <;> trivial
  · unfold Literal.ofColor
    split <;> trivial

/-- **The term of a literal** is a constant without sign or marked as malformed. -/
theorem resolved_resolveConst {schema : Schema} (text : List Char) (span : Span) {value : Literal}
    (h : value.IsUnsigned) : Resolved schema (Expr.resolveConst text span value) := by
  cases value with
  | none | bool _ | str _ | date _ | dateTime _ | color _ => exact .const _ _ trivial
  | malformed kind => exact .malformed kind _
  | int n => exact .const (.int n) _ h
  | float x => exact .const (.number x) _ h

/-! ### Expressions -/

section Resolve

variable {schema : Schema} {text : List Char}

theorem exists_mem_of_forall₂ {α β : Type} {R : α → β → Prop} {xs : List α} {ys : List β}
    (h : List.Forall₂ R xs ys) {y : β} (hy : y ∈ ys) : ∃ x ∈ xs, R x y := by
  induction h with
  | nil => cases hy
  | cons hxy _ ih =>
    rcases List.mem_cons.mp hy with rfl | hy
    · exact ⟨_, List.mem_cons_self, hxy⟩
    · obtain ⟨x, hx, hR⟩ := ih hy
      exact ⟨x, List.mem_cons_of_mem _ hx, hR⟩

/-- A node whose operands are resolved. -/
theorem resolved_node {e : Expr} {t : Term} (he : e.Placed text)
    (h : e.resolve schema text = .ok t)
    (hops : ∀ o ∈ e.operands, ∀ u, o.resolve schema text = .ok u → Resolved schema u) :
    Resolved schema t := by
  have hspelled := he.spelled
  rcases Expr.resolve_cases he.isPresent h with
    ⟨place, value, rfl, rfl⟩ | ⟨head, slots, hall, hhead, rfl⟩
  · obtain ⟨token, word, -, hspells, hvalue⟩ := hspelled
    exact resolved_resolveConst text place.span (Literal.isUnsigned_of_spells hspells hvalue)
  · have hslots : ∀ u ∈ slots, Resolved schema u := by
      intro u hu
      obtain ⟨o, ho, hresolve⟩ := exists_mem_of_forall₂ (Expr.resolveAll_eq_ok_iff.mp hall) hu
      exact hops o ho u hresolve
    -- only names and members are fields, and their names come from tokens
    cases hhead with
    | name place identifier => exact .root identifier _ hspelled
    | member place obj identifier known =>
      exact .member identifier _ hspelled known (hslots _ List.mem_cons_self)
    | inner inner takes => exact .node head _ inner hslots

/-- A bound that is left out is the missing value. -/
theorem resolved_absent {e : Expr} {t : Term} (he : ¬ e.isPresent = true)
    (h : e.resolve schema text = .ok t) : Resolved schema t := by
  cases e with
  | absent =>
    rw [Expr.resolve] at h
    cases h
    exact .const .none [] trivial
  | _ => exact absurd rfl he

/-- **What an expression resolves to is resolved node by node.** -/
theorem resolved_of_resolve {e : Expr} (he : e.Placed text) :
    ∀ t, e.resolve schema text = .ok t → Resolved schema t := by
  refine Expr.Placed.induction_on_operands
    (motive := fun e => ∀ t, e.resolve schema text = .ok t → Resolved schema t) he ?_ ?_
  · exact fun e habsent t ht => resolved_absent habsent ht
  · exact fun e hplaced hops t ht => resolved_node hplaced ht hops

end Resolve

/-- **Compiled terms are resolved.** -/
theorem resolved_of_compile {schema : Schema} {source : String} {t : Term}
    (h : compile schema source = .ok t) : Resolved schema t := by
  obtain ⟨e, hparse, hresolve⟩ := exists_of_compile h
  obtain ⟨hplaced, -, -⟩ := placed_of_parse hparse
  exact resolved_of_resolve hplaced t hresolve

end QueryExpr
