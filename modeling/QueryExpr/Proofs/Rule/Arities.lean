import QueryExpr.Proofs.OrderedMap
import QueryExpr.Proofs.Rule.Expansion
import QueryExpr.Proofs.Sql.Emission

/-!
# Why a call is refused

A call for which there is no rule has an unknown name, a wrong number of arguments, or arguments of the
wrong types. Which of them it is gets decided without looking at the rules, by the numbers of arguments
that a registry keeps beside them. This module shows that the numbers are always those of the rules
(`Indexed`), also after specifications that could not be registered to their end: a number comes in
with the rule that has it, and nothing else touches the numbers. So the faults of calls say what they
seem to say about the rules (`Classified`).
-/

namespace QueryExpr

/-- A rule for a function with this number of arguments. -/
def Rule.IsFunction (rule : Rule) (name : String) (count : Nat) : Prop :=
  rule.nodeType = .func ∧ rule.name = some name ∧ rule.signature.length = count

/-- A rule for a method of this type with this number of arguments, the receiver not counted. -/
def Rule.IsMethod (rule : Rule) (receiver : DataType) (name : String) (count : Nat) : Prop :=
  rule.nodeType = .meth ∧ rule.name = some name ∧ rule.signature.head? = some receiver ∧
    rule.signature.length = count + 1

/-- The rule is the one for a call of this name with operands of exactly these types. -/
def Rule.Fits (rule : Rule) (nodeType : NodeType) (name : String) (operands : List Term) : Prop :=
  rule.nodeType = nodeType ∧ rule.name = some name ∧
    rule.signature.map some = operands.map Term.dataType

instance (rule : Rule) (name : String) (count : Nat) : Decidable (rule.IsFunction name count) :=
  inferInstanceAs (Decidable (_ ∧ _))

instance (rule : Rule) (receiver : DataType) (name : String) (count : Nat) :
    Decidable (rule.IsMethod receiver name count) :=
  inferInstanceAs (Decidable (_ ∧ _))

instance (rule : Rule) (nodeType : NodeType) (name : String) (operands : List Term) :
    Decidable (rule.Fits nodeType name operands) :=
  inferInstanceAs (Decidable (_ ∧ _))

namespace Registry

/-! ### Numbers of arguments -/

theorem mem_insertArity {n n' : Nat} {ns : List Nat} : n' ∈ insertArity n ns ↔ n' = n ∨ n' ∈ ns := by
  induction ns with
  | nil => simp [insertArity]
  | cons m ms ih =>
    rw [insertArity]
    split_ifs with hlt heq
    · exact List.mem_cons
    · subst heq
      simp
    · rw [List.mem_cons, ih, List.mem_cons, or_left_comm]

/-- The numbers that are kept under a key are the ones that it has, and a key that has none is not kept. -/
structure Lists {κ : Type} [DecidableEq κ] (m : OrderedMap κ (List Nat)) (has : κ → Nat → Prop) :
    Prop where
  mem : ∀ k n, n ∈ (m.get? k).getD [] ↔ has k n
  nonempty : ∀ k, m.get? k ≠ some []

section Lists

variable {κ : Type} [DecidableEq κ] {m : OrderedMap κ (List Nat)} {has has' : κ → Nat → Prop}

theorem Lists.congr (h : Lists m has) (hhas : ∀ k n, has k n ↔ has' k n) : Lists m has' :=
  ⟨fun k n => (h.mem k n).trans (hhas k n), h.nonempty⟩

theorem Lists.addArity (h : Lists m has) (k : κ) (n : Nat) :
    Lists (addArity m k n) fun k' n' => (k' = k ∧ n' = n) ∨ has k' n' where
  mem := by
    intro k' n'
    rw [Registry.addArity, OrderedMap.get?_insert]
    split
    · next hk =>
      subst hk
      rw [Option.getD_some, mem_insertArity, h.mem, and_iff_right rfl]
    · next hk => rw [h.mem, or_iff_right fun heq => hk heq.1]
  nonempty := by
    intro k'
    rw [Registry.addArity, OrderedMap.get?_insert]
    split
    · -- the number that was put in is there
      intro hnil
      have hmem : n ∈ insertArity n ((m.get? k).getD []) := mem_insertArity.mpr (.inl rfl)
      rw [Option.some.inj hnil] at hmem
      cases hmem
    · exact h.nonempty k'

theorem Lists.exists_mem_iff (h : Lists m has) (k : κ) (n : Nat) :
    (∃ ns, m.get? k = some ns ∧ n ∈ ns) ↔ has k n := by
  rw [← h.mem]
  cases m.get? k <;> simp

theorem Lists.get?_eq_none_iff (h : Lists m has) (k : κ) : m.get? k = none ↔ ∀ n, ¬ has k n := by
  constructor
  · intro hnone n hn
    rw [← h.mem, hnone] at hn
    cases hn
  · intro hall
    cases hget : m.get? k with
    | none => rfl
    | some ns =>
      cases ns with
      | nil => exact absurd hget (h.nonempty k)
      | cons n ns =>
        refine absurd ((h.mem k n).mp ?_) (hall n)
        rw [hget]
        exact List.mem_cons_self

/-- A rule that has a number under a key brings it in. -/
theorem Lists.cons {p : Rule → κ → Nat → Prop} {rules : List Rule} {rule : Rule}
    (h : Lists m fun k n => ∃ r ∈ rules, p r k n) {k : κ} {n : Nat}
    (hrule : ∀ k' n', p rule k' n' ↔ k' = k ∧ n' = n) :
    Lists (Registry.addArity m k n) fun k' n' => ∃ r ∈ rule :: rules, p r k' n' := by
  refine (h.addArity k n).congr fun k' n' => ?_
  rw [List.exists_mem_cons_iff, hrule]

/-- A rule that has no number at all changes nothing. -/
theorem Lists.skip {p : Rule → κ → Nat → Prop} {rules : List Rule} {rule : Rule}
    (h : Lists m fun k n => ∃ r ∈ rules, p r k n) (hrule : ∀ k n, ¬ p rule k n) :
    Lists m fun k n => ∃ r ∈ rule :: rules, p r k n := by
  refine h.congr fun k n => ?_
  rw [List.exists_mem_cons_iff, or_iff_right (hrule k n)]

end Lists

/-- The numbers of arguments that a registry keeps are those of its rules. -/
structure Indexed (reg : Registry) : Prop where
  functions : Lists reg.functionArities fun name n => ∃ rule ∈ reg.latest, rule.IsFunction name n
  methods : Lists reg.methodArities fun key n => ∃ rule ∈ reg.latest, rule.IsMethod key.1 key.2 n

theorem indexed_empty : Indexed {} where
  functions := ⟨by simp, nofun⟩
  methods := ⟨by simp, nofun⟩

/-- **A number of arguments comes in with the rule that has it.** -/
theorem Indexed.insertRule {reg : Registry} (h : reg.Indexed) (rule : Rule) :
    (reg.insertRule rule).Indexed := by
  unfold Registry.insertRule
  dsimp only
  split
  · next name signature htype hname =>
    -- a function counts all types of its signature, and is no method
    refine ⟨h.functions.cons fun name' n => ?_, h.methods.skip fun key n hmethod => ?_⟩
    · simp only [Rule.IsFunction, htype, hname, true_and, Option.some.injEq, eq_comm]
    · exact absurd (htype.symm.trans hmethod.1) (by decide)
  · next name receiver args htype hname hsignature =>
    -- a method counts the types behind its receiver
    refine ⟨h.functions.skip fun name' n hfunction => ?_, h.methods.cons fun key n => ?_⟩
    · exact absurd (htype.symm.trans hfunction.1) (by decide)
    · obtain ⟨receiver', name'⟩ := key
      simp only [Rule.IsMethod, htype, hname, hsignature, true_and, Option.some.injEq,
        List.head?_cons, List.length_cons, Nat.add_right_cancel_iff, Prod.mk.injEq]
      grind
  · next hfunction hmethod =>
    -- other nodes have no arities
    refine ⟨h.functions.skip fun name n hrule => ?_, h.methods.skip fun key n hrule => ?_⟩
    · exact hfunction name hrule.1 hrule.2.1
    · obtain ⟨args, hargs⟩ := List.head?_eq_some_iff.mp hrule.2.2.1
      exact hmethod key.2 key.1 args hrule.1 hrule.2.1 hargs

/-- **The numbers of arguments are those of the rules**, whatever was registered and wherever a
registration came to its end. -/
theorem indexed_ofTable (table : List (NodeType × String × String)) : (ofTable table).Indexed :=
  keeps_addRows (fun _ rule h => h.insertRule rule) (fun _ h => ⟨h.functions, h.methods⟩)
    indexed_empty table

/-! ### Verdicts on calls -/

/-- The verdict on a call says whether a rule fits it, and if none does, why: no number of arguments
is known, or others than this one, or it is the types. -/
structure Classified (verdict : Verdict) (fits : Prop) (known : Nat → Prop) (count : Nat) : Prop where
  valid : verdict.fault = none ↔ fits
  name : verdict.fault = some .name ↔ ∀ n, ¬ known n
  arity : verdict.fault = some .arity ↔ (∃ n, known n) ∧ ¬ known count
  types : verdict.fault = some .subnodeTypes ↔ known count ∧ ¬ fits

/-- The fault of a call without a rule, read off the numbers that are kept. -/
theorem Lists.callFault_cases {κ : Type} [DecidableEq κ] {m : OrderedMap κ (List Nat)}
    {has : κ → Nat → Prop} (h : Lists m has) (k : κ) (count : Nat) :
    (Term.callFault (m.get? k) count = .name ∧ ∀ n, ¬ has k n) ∨
      (Term.callFault (m.get? k) count = .arity ∧ (∃ n, has k n) ∧ ¬ has k count) ∨
      (Term.callFault (m.get? k) count = .subnodeTypes ∧ has k count) := by
  cases hget : m.get? k with
  | none => exact .inl ⟨rfl, (h.get?_eq_none_iff k).mp hget⟩
  | some ns =>
    have hmem : ∀ n, n ∈ ns ↔ has k n := fun n => by rw [← h.mem, hget, Option.getD_some]
    by_cases hcount : count ∈ ns
    · exact .inr (.inr ⟨by simp [Term.callFault, hcount], (hmem count).mp hcount⟩)
    · -- a name without numbers is not kept at all
      have hknown : ∃ n, has k n := by
        by_contra hall
        rw [not_exists, ← h.get?_eq_none_iff, hget] at hall
        cases hall
      exact .inr (.inl ⟨by simp [Term.callFault, hcount], hknown, (hmem count).not.mp hcount⟩)

/-- A verdict that comes from looking for a rule and then at the numbers is classified by them. -/
theorem Lists.classified {κ : Type} [DecidableEq κ] {m : OrderedMap κ (List Nat)}
    {has : κ → Nat → Prop} (h : Lists m has) {k : κ} {count : Nat} {found : Option Rule}
    (hfound : found.isSome = true → has k count) {verdict : Verdict}
    (hsome : ∀ rule, found = some rule → verdict = .valid rule.result)
    (hnone : found = none → verdict = .invalid (Term.callFault (m.get? k) count)) :
    Classified verdict (found.isSome = true) (has k) count := by
  cases found with
  | some rule =>
    obtain rfl := hsome rule rfl
    have hcount := hfound rfl
    have hknown : ∃ n, has k n := ⟨count, hcount⟩
    refine ⟨?_, ?_, ?_, ?_⟩ <;> simp [Verdict.valid, hcount, hknown]
  | none =>
    obtain rfl := hnone rfl
    rcases h.callFault_cases k count with ⟨hfault, hall⟩ | ⟨hfault, hknown, hcount⟩ | ⟨hfault, hcount⟩
    · refine ⟨?_, ?_, ?_, ?_⟩ <;> simp [Verdict.invalid, hfault, hall]
    · refine ⟨?_, ?_, ?_, ?_⟩ <;> simp [Verdict.invalid, hfault, hcount, hknown]
    · have hknown : ∃ n, has k n := ⟨count, hcount⟩
      refine ⟨?_, ?_, ?_, ?_⟩ <;> simp [Verdict.invalid, hfault, hcount, hknown]

/-- Valid operands have a signature, the types that they have. -/
theorem exists_signature? {operands : List Term}
    (h : ∀ t ∈ operands, ∃ type, t.verdict = .valid type) :
    ∃ types, Term.signature? operands = some types ∧
      operands.map Term.dataType = types.map some := by
  induction operands with
  | nil => exact ⟨[], rfl, rfl⟩
  | cons t ts ih =>
    obtain ⟨type, htype⟩ := h t List.mem_cons_self
    obtain ⟨types, hsignature, htypes⟩ := ih fun u hu => h u (List.mem_cons_of_mem t hu)
    refine ⟨type :: types, ?_, ?_⟩
    · rw [Term.signature?] at hsignature ⊢
      rw [List.mapM_cons, htype, hsignature]
      rfl
    · rw [List.map_cons, htypes, Term.dataType, htype]
      rfl

section Calls

variable {reg : Registry} {name : String} {obj : Term} {args : List Term}

theorem mem_list {rule : Rule} : rule ∈ reg.list ↔ rule ∈ reg.latest := List.mem_reverse

/-- There is a rule for the types of the operands if and only if one fits the operands. -/
theorem isSome_lookup_iff_fits {nodeType : NodeType} {operands : List Term} {types : List DataType}
    (htypes : operands.map Term.dataType = types.map some) :
    (reg.lookup nodeType (some name) types).isSome = true ↔
      ∃ rule ∈ reg.list, rule.Fits nodeType name operands := by
  have hinj : Function.Injective (List.map (some : DataType → Option DataType)) :=
    List.map_injective_iff.mpr fun _ _ => Option.some.inj
  simp only [isSome_lookup_iff, Rule.isFor_iff, Rule.Fits, htypes, hinj.eq_iff, mem_list]

/-- The verdict on a call of a function is classified by the rules for functions of that name. -/
def JudgesFunction (reg : Registry) (name : String) (args : List Term) (verdict : Verdict) : Prop :=
  Classified verdict (∃ rule ∈ reg.list, rule.Fits .func name args)
    (fun n => ∃ rule ∈ reg.list, rule.IsFunction name n) args.length

/-- The verdict on a call of a method is classified by the rules for methods of that name and of the
type of the receiver. -/
def JudgesMethod (reg : Registry) (name : String) (obj : Term) (args : List Term) (verdict : Verdict) :
    Prop :=
  ∃ receiver, obj.dataType = some receiver ∧
    Classified verdict (∃ rule ∈ reg.list, rule.Fits .meth name (obj :: args))
      (fun n => ∃ rule ∈ reg.list, rule.IsMethod receiver name n) args.length

theorem Indexed.judgesFunction (h : reg.Indexed)
    (hvalid : ∀ t ∈ args, ∃ type, t.verdict = .valid type) :
    reg.JudgesFunction name args (Term.verdictOn reg (.func name) args) := by
  obtain ⟨types, hsignature, htypes⟩ := exists_signature? hvalid
  have hlength : types.length = args.length := (Term.fault_of_signature? hsignature).1
  rw [JudgesFunction, ← isSome_lookup_iff_fits htypes, ← hlength,
    Term.verdictOn_of_isRuled reg rfl hsignature]
  simp only [mem_list]
  refine h.functions.classified (k := name) (fun hfound => ?_) (fun rule hrule => ?_) fun hnone => ?_
  · obtain ⟨rule, hmem, hfor⟩ := isSome_lookup_iff.mp hfound
    obtain ⟨htype, hname, hsame⟩ := Rule.isFor_iff.mp hfor
    exact ⟨rule, hmem, htype, hname, congrArg List.length hsame⟩
  · rw [Term.ruleVerdict, Head.nodeType, Head.ruleName?, hrule]
  · rw [Term.ruleVerdict, Head.nodeType, Head.ruleName?, hnone]
    rfl

theorem Indexed.judgesMethod (h : reg.Indexed)
    (hvalid : ∀ t ∈ obj :: args, ∃ type, t.verdict = .valid type) :
    reg.JudgesMethod name obj args (Term.verdictOn reg (.meth name) (obj :: args)) := by
  obtain ⟨types, hsignature, htypes⟩ := exists_signature? hvalid
  cases types with
  | nil => cases htypes
  | cons receiver types =>
    obtain ⟨hreceiver, -⟩ := List.cons.inj htypes
    have hlength : types.length = args.length :=
      Nat.succ.inj (Term.fault_of_signature? hsignature).1
    refine ⟨receiver, hreceiver, ?_⟩
    rw [← isSome_lookup_iff_fits htypes, ← hlength, Term.verdictOn_of_isRuled reg rfl hsignature]
    simp only [mem_list]
    refine h.methods.classified (k := (receiver, name)) (fun hfound => ?_) (fun rule hrule => ?_)
      fun hnone => ?_
    · obtain ⟨rule, hmem, hfor⟩ := isSome_lookup_iff.mp hfound
      obtain ⟨htype, hname, hsame⟩ := Rule.isFor_iff.mp hfor
      refine ⟨rule, hmem, htype, hname, ?_, ?_⟩
      · rw [hsame, List.head?_cons]
      · rw [hsame, List.length_cons]
    · rw [Term.ruleVerdict, Head.nodeType, Head.ruleName?, hrule]
    · rw [Term.ruleVerdict, Head.nodeType, Head.ruleName?, hnone]
      rfl

end Calls

/-- The nodes that a rule decides on are judged by their operands. -/
theorem verdict_of_isRuled {t : Term} (h : Term.Judged t) (hhead : t.head.isRuled = true) :
    t.verdict = Term.verdictOn .standard t.head t.children := by
  cases h with
  | malformed kind content => cases hhead
  | make head content leaf parts =>
    change head.isRuled = true at hhead
    rw [Term.children_make (Head.isLeaf_of_isRuled hhead)]
    rfl

/-- **The faults of calls are exact.** In every registry that specifications make, also those that end in
an error, the numbers of arguments that are kept are those of the rules. So a call with valid operands is
valid if and only if a rule has exactly the types of the operands; if none has, the name is at fault if no
rule has it (for methods, with that type of receiver), the number of arguments if there are such rules but
none with that number, and the types otherwise. This is how all calls are judged that terms hold. -/
theorem call_faults_exact :
    (∀ table name n,
      (∃ ns, (ofTable table).functionArities.get? name = some ns ∧ n ∈ ns) ↔
        ∃ rule ∈ (ofTable table).list, rule.IsFunction name n) ∧
    (∀ table receiver name n,
      (∃ ns, (ofTable table).methodArities.get? (receiver, name) = some ns ∧ n ∈ ns) ↔
        ∃ rule ∈ (ofTable table).list, rule.IsMethod receiver name n) ∧
    (∀ table name args, (∀ t ∈ args, ∃ type, t.verdict = .valid type) →
      (ofTable table).JudgesFunction name args
        (Term.verdictOn (ofTable table) (.func name) args)) ∧
    (∀ table name obj args, (∀ t ∈ obj :: args, ∃ type, t.verdict = .valid type) →
      (ofTable table).JudgesMethod name obj args
        (Term.verdictOn (ofTable table) (.meth name) (obj :: args))) ∧
    ∀ t, Term.Constructed t → (∀ c ∈ t.children, c.fault = none) →
      (∀ name, t.head = .func name → standard.JudgesFunction name t.children t.verdict) ∧
      ∀ name obj args, t.head = .meth name → t.children = obj :: args →
        standard.JudgesMethod name obj args t.verdict := by
  refine ⟨fun table name n => ?_, fun table receiver name n => ?_,
    fun table name args hvalid => (indexed_ofTable table).judgesFunction hvalid,
    fun table name obj args hvalid => (indexed_ofTable table).judgesMethod hvalid,
    fun t ht hfaults => ?_⟩
  · simp only [mem_list]
    exact (indexed_ofTable table).functions.exists_mem_iff name n
  · simp only [mem_list]
    exact (indexed_ofTable table).methods.exists_mem_iff (receiver, name) n
  · have hindexed : standard.Indexed := indexed_ofTable Standard.table
    -- an operand without fault has a type, as terms are judged node by node
    have hvalid : ∀ c ∈ t.children, ∃ type, c.verdict = .valid type := by
      intro c hc
      have hjudged := ht.judged.of_mem_slots (Term.mem_slots_of_mem_children hc)
      rcases hjudged.verdict_eq_valid_or_invalid with hvalid | ⟨fault, hverdict⟩
      · exact hvalid
      · have hfault := hfaults c hc
        rw [Term.fault, hverdict] at hfault
        cases hfault
    refine ⟨fun name hhead => ?_, fun name obj args hhead hchildren => ?_⟩
    · rw [verdict_of_isRuled ht.judged (hhead ▸ rfl), hhead]
      exact hindexed.judgesFunction hvalid
    · rw [verdict_of_isRuled ht.judged (hhead ▸ rfl), hhead, hchildren]
      exact hindexed.judgesMethod (hchildren ▸ hvalid)

/-- The last specification breaks off at its third combination. The rules that it has brought by then
count: with one argument `f` is known, so a truth value has the wrong type and no argument is the wrong
number, while numbers have no method at all. -/
theorem call_faults_exact_broken_off :
    ∃ table, let reg := ofTable table
      let one := Term.mkConst (.int 1)
      let yes := Term.mkConst (.bool true)
      (reg.add .func "INT <- f(STR_INT_T9)" "f({s1})").2 = .error (.refOutOfRange 9) ∧
      reg.functionArities.get? "f" = some [1] ∧
      (∃ rule ∈ reg.list, rule.IsFunction "f" 1) ∧
      (Term.verdictOn reg (.func "f") [one]).fault = none ∧
      (Term.verdictOn reg (.func "f") [yes]).fault = some .subnodeTypes ∧
      (Term.verdictOn reg (.func "f") []).fault = some .arity ∧
      (Term.verdictOn reg (.meth "lower") [one]).fault = some .name ∧
      standard.JudgesFunction "date" [one, one] (Term.mkFunc "date" [one, one]).verdict := by
  let table : List (NodeType × String × String) :=
    [(.meth, "STR <- STR.lower()", "lower({s1})"), (.func, "INT <- f(STR_INT_T9)", "f({s1})")]
  obtain ⟨hfunctions, -, hfunction, hmethod, hterms⟩ := call_faults_exact
  have hconst : ∀ value, ∃ type, (Term.mkConst value).verdict = .valid type := fun value => ⟨_, rfl⟩
  have hone := hfunction table "f" [.mkConst (.int 1)] (by simpa using hconst _)
  have hyes := hfunction table "f" [.mkConst (.bool true)] (by simpa using hconst _)
  have hnone := hfunction table "f" [] nofun
  obtain ⟨receiver, hreceiver, hlower⟩ :=
    hmethod table "lower" (.mkConst (.int 1)) [] (by simpa using hconst _)
  obtain rfl : DataType.int = receiver := Option.some.inj hreceiver
  have harities : (ofTable table).functionArities.get? "f" = some [1] := by decide +kernel
  have hknown := (hfunctions table "f" 1).mp ⟨[1], harities, List.mem_singleton.mpr rfl⟩
  refine ⟨table, by decide +kernel, harities, hknown, hone.valid.mpr (by decide +kernel),
    hyes.types.mpr ⟨hknown, by decide +kernel⟩, hnone.arity.mpr ⟨⟨1, hknown⟩, by decide +kernel⟩,
    hlower.name.mpr fun n hn => ?_, ?_⟩
  · have hmethods : ∀ rule ∈ (ofTable table).list,
        ¬ (rule.nodeType = .meth ∧ rule.signature.head? = some .int) := by decide +kernel
    obtain ⟨rule, hmem, htype, -, hhead, -⟩ := hn
    exact hmethods rule hmem ⟨htype, hhead⟩
  · refine (hterms (.mkFunc "date" [.mkConst (.int 1), .mkConst (.int 1)]) ?_ ?_).1 "date" rfl
    · exact .func "date" (by simpa using .const (.int 1))
    · intro c hc
      change c ∈ [Term.mkConst (.int 1), Term.mkConst (.int 1)] at hc
      obtain rfl : c = Term.mkConst (.int 1) := by simpa using hc
      rfl

end Registry
end QueryExpr
