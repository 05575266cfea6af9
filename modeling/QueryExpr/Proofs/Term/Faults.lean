import QueryExpr.Proofs.Term.Resolved
import QueryExpr.Proofs.Term.Walks

/-!
# Faults and their causes

A node is at fault by itself, or because one of its operands is. The two are told apart by the fault
that the node records, so a complaint about a term can look for the node that is to blame: the first
one in a walk that is at fault by itself.

That this search is right rests on one fact about every node (`Judged.verdict_cases`): either its
operands are all valid, and it is valid or at fault by itself, or some operand is at fault, and then
the node says just this. It holds of all terms that there are (`Constructed`), since constructors and
compilation judge a node by its operands, malformed literals apart. From it follow that nothing below
a node is at fault unless the node says so (`Judged.fault_of_mem_descendants`), and that a term at
fault has a node that is at fault by itself (`Judged.exists_ownFault`).
-/

namespace QueryExpr

/-! ### Verdicts -/

/-- The node is valid, or it is at fault by itself: not for the sake of an operand, and not for lack of
a rule after it has passed for valid. -/
def Verdict.IsOwn (v : Verdict) : Prop :=
  (∃ type, v = .valid type) ∨ ∃ fault, v = .invalid fault ∧ fault ≠ .subnode ∧ fault ≠ .nodeType

namespace Term

theorem isOwn_listVerdict (types : List DataType) : (listVerdict types).IsOwn := by
  unfold listVerdict
  split <;> first | exact .inl ⟨_, rfl⟩ | exact .inr ⟨_, rfl, nofun, nofun⟩

theorem isOwn_setVerdict (types : List DataType) : (setVerdict types).IsOwn := by
  unfold setVerdict
  split <;> first | exact .inl ⟨_, rfl⟩ | exact .inr ⟨_, rfl, nofun, nofun⟩

/-- What is wrong with a call is in the call itself. -/
theorem callFault_ne (arities : Option (List Nat)) (count : Nat) :
    callFault arities count ≠ .subnode ∧ callFault arities count ≠ .nodeType := by
  unfold callFault
  split
  · exact ⟨nofun, nofun⟩
  · split <;> exact ⟨nofun, nofun⟩

/-- Where no rule fits, the node itself is to blame. -/
theorem noRuleFault_ne (reg : Registry) (head : Head) (signature : List DataType) :
    noRuleFault reg head signature ≠ .subnode ∧ noRuleFault reg head signature ≠ .nodeType := by
  unfold noRuleFault
  split
  · exact ⟨nofun, nofun⟩
  · exact callFault_ne _ _
  · split
    · exact ⟨nofun, nofun⟩
    · exact callFault_ne _ _
  · exact ⟨nofun, nofun⟩

/-- Where a rule decides, a fault is that of the node. -/
theorem isOwn_ruleVerdict (reg : Registry) (head : Head) (signature : List DataType) :
    (ruleVerdict reg head signature).IsOwn := by
  unfold ruleVerdict
  split
  · exact .inl ⟨_, rfl⟩
  · exact .inr ⟨_, rfl, noRuleFault_ne reg head signature⟩

section VerdictOn

variable {reg : Registry} {head : Head} {slots : List Term}

/-- Fields and constants are judged without looking at other nodes. -/
theorem isOwn_verdictOn_of_isLeaf (h : head.nodeType.isLeaf = true) :
    (verdictOn reg head slots).IsOwn := by
  cases head with
  | field identifier field =>
    cases field with
    | none => exact .inr ⟨.field, rfl, nofun, nofun⟩
    | some field => exact .inl ⟨field.dataType, rfl⟩
  | const value => exact .inl ⟨value.dataType, rfl⟩
  | _ => cases h

theorem isOwn_verdictOn_of_signature? {types : List DataType} (h : signature? slots = some types) :
    (verdictOn reg head slots).IsOwn := by
  cases hleaf : head.nodeType.isLeaf with
  | true => exact isOwn_verdictOn_of_isLeaf hleaf
  | false =>
    unfold verdictOn
    rw [h]
    cases head with
    | field _ _ | const _ => cases hleaf
    | list => exact isOwn_listVerdict _
    | set => exact isOwn_setVerdict _
    | _ => exact isOwn_ruleVerdict reg _ types

/-- A node with a slot that has no type is not judged on its own. -/
theorem verdictOn_of_signature?_eq_none (hinner : head.nodeType.isLeaf = false)
    (h : signature? slots = none) : verdictOn reg head slots = .invalid .subnode := by
  unfold verdictOn
  rw [h]
  cases head with
  | field _ _ | const _ => cases hinner
  | _ => rfl

/-- A verdict is a type or a fault, and never both. -/
theorem verdictOn_eq_valid_or_invalid (reg : Registry) (head : Head) (slots : List Term) :
    (∃ type, verdictOn reg head slots = .valid type) ∨
      ∃ fault, verdictOn reg head slots = .invalid fault := by
  have hown : (verdictOn reg head slots).IsOwn →
      (∃ type, verdictOn reg head slots = .valid type) ∨
        ∃ fault, verdictOn reg head slots = .invalid fault := by
    rintro (hvalid | ⟨fault, hfault, -⟩)
    · exact .inl hvalid
    · exact .inr ⟨fault, hfault⟩
  cases hleaf : head.nodeType.isLeaf with
  | true => exact hown (isOwn_verdictOn_of_isLeaf hleaf)
  | false =>
    cases hsignature : signature? slots with
    | none => exact .inr ⟨_, verdictOn_of_signature?_eq_none hleaf hsignature⟩
    | some types => exact hown (isOwn_verdictOn_of_signature? hsignature)

end VerdictOn

theorem type?_eq_some_iff {v : Verdict} {type : DataType} :
    v.type? = some type ↔ v.fault = none ∧ v.dataType = some type := by
  rw [Verdict.type?]
  cases v.fault <;> simp

/-- The signature of operands begins with the type of the first one. -/
theorem exists_of_signature?_cons {t : Term} {ts : List Term} {types : List DataType}
    (h : signature? (t :: ts) = some types) :
    ∃ type rest, types = type :: rest ∧ t.fault = none ∧ t.dataType = some type ∧
      signature? ts = some rest := by
  rw [signature?, List.mapM_cons] at h
  obtain ⟨type, htype, h⟩ := Option.bind_eq_some_iff.mp h
  obtain ⟨rest, hrest, h⟩ := Option.bind_eq_some_iff.mp h
  cases h
  obtain ⟨hfault, htype⟩ := type?_eq_some_iff.mp htype
  exact ⟨type, rest, rfl, hfault, htype, hrest⟩

/-- Operands that have types are valid. -/
theorem fault_of_signature? {slots : List Term} {types : List DataType}
    (h : signature? slots = some types) :
    types.length = slots.length ∧ ∀ t ∈ slots, t.fault = none := by
  induction slots generalizing types with
  | nil =>
    cases h
    exact ⟨rfl, List.forall_mem_nil _⟩
  | cons t ts ih =>
    obtain ⟨type, rest, rfl, hfault, -, hts⟩ := exists_of_signature?_cons h
    obtain ⟨hlength, hrest⟩ := ih hts
    exact ⟨congrArg (· + 1) hlength, List.forall_mem_cons.mpr ⟨hfault, hrest⟩⟩

/-- Only leaves keep slots that are no operands. -/
theorem children_make {head : Head} (hinner : head.nodeType.isLeaf = false) (content : List Fragment)
    (slots : List Term) : (Term.make head content slots).children = slots := by
  cases head with
  | field _ _ | const _ => cases hinner
  | _ => rfl

/-- A node with operands is valid only if they are. Then it is a collection, or there is a rule for it
that gives its type. -/
theorem exists_of_verdictOn {reg : Registry} {head : Head} {slots : List Term}
    (hinner : head.nodeType.isLeaf = false) (h : (verdictOn reg head slots).fault = none) :
    ∃ types, signature? slots = some types ∧
      (head = .list ∨ head = .set ∨
        ∃ rule, reg.lookup head.nodeType head.ruleName? types = some rule ∧
          verdictOn reg head slots = .valid rule.result) := by
  cases hsignature : signature? slots with
  | none =>
    rw [verdictOn_of_signature?_eq_none hinner hsignature] at h
    cases h
  | some types =>
    -- where a rule decides, there has to be one
    have hrule : (ruleVerdict reg head types).fault = none →
        ∃ rule, reg.lookup head.nodeType head.ruleName? types = some rule ∧
          ruleVerdict reg head types = .valid rule.result := by
      intro hvalid
      unfold ruleVerdict at hvalid ⊢
      cases hlookup : reg.lookup head.nodeType head.ruleName? types with
      | none => rw [hlookup] at hvalid; cases hvalid
      | some rule => exact ⟨rule, rfl, rfl⟩
    refine ⟨types, rfl, ?_⟩
    unfold verdictOn at h ⊢
    rw [hsignature] at h ⊢
    cases head with
    | field _ _ | const _ => cases hinner
    | list => exact .inl rfl
    | set => exact .inr (.inl rfl)
    | _ => exact .inr (.inr (hrule h))

/-- If not all operands have types, one of them has none. -/
theorem exists_of_signature?_eq_none {slots : List Term} (h : signature? slots = none) :
    ∃ t ∈ slots, t.verdict.type? = none := by
  induction slots with
  | nil => cases h
  | cons t ts ih =>
    cases htype : t.verdict.type? with
    | none => exact ⟨t, List.mem_cons_self, htype⟩
    | some type =>
      cases hts : signature? ts with
      | none =>
        obtain ⟨u, hu, hnone⟩ := ih hts
        exact ⟨u, List.mem_cons_of_mem t hu, hnone⟩
      | some types =>
        rw [signature?] at hts
        rw [signature?, List.mapM_cons, htype, hts] at h
        cases h

/-! ### Terms -/

/-- The terms that there are: those of texts, those that the constructors make out of terms, and the
parts of such terms. -/
inductive Constructed : Term → Prop where
  | compiled {schema : Schema} {source : String} {t : Term} (h : compile schema source = .ok t) :
      Constructed t
  | const (value : Constant) : Constructed (mkConst value)
  | dateTime (value : Calendar.DateTime) : Constructed (mkDateTime value)
  | root (field : Field) : Constructed (mkRoot field)
  | unknownRoot (identifier : String) : Constructed (mkUnknownRoot identifier)
  | fieldRef {parent : Term} (groups : Groups) (identifier : String) (part : Constructed parent) :
      Constructed (mkFieldRef groups parent identifier)
  | list {items : List Term} (parts : ∀ t ∈ items, Constructed t) : Constructed (mkList items)
  | set {items : List Term} (parts : ∀ t ∈ items, Constructed t) : Constructed (mkSet items)
  | binary {left right : Term} (op : BinaryOp) (part : Constructed left)
      (part' : Constructed right) : Constructed (mkBinary op left right)
  | unary {obj : Term} (op : UnaryOp) (part : Constructed obj) : Constructed (mkUnary op obj)
  | cond {yes test no : Term} (part : Constructed yes) (part' : Constructed test)
      (part'' : Constructed no) : Constructed (mkCond yes test no)
  | slice {obj : Term} {low high : Option Term} (part : Constructed obj)
      (parts : ∀ t ∈ low, Constructed t) (parts' : ∀ t ∈ high, Constructed t) :
      Constructed (mkSlice obj low high)
  | attr {obj : Term} (name : String) (part : Constructed obj) : Constructed (mkAttr obj name)
  | func {args : List Term} (name : String) (parts : ∀ t ∈ args, Constructed t) :
      Constructed (mkFunc name args)
  | meth {obj : Term} {args : List Term} (name : String) (part : Constructed obj)
      (parts : ∀ t ∈ args, Constructed t) : Constructed (mkMeth obj name args)
  | slot {t u : Term} (whole : Constructed t) (h : u ∈ t.slots) : Constructed u

/-- **Induction on how a term is made**: what holds of the terms of texts, of a node whenever it holds of
its slots, and of the slots of whatever it holds of, holds of all terms. -/
theorem Constructed.node_induction {motive : Term → Prop}
    (compiled : ∀ {schema : Schema} {source : String} {t : Term}, compile schema source = .ok t → motive t)
    (node : ∀ (head : Head) (content : List Fragment) {slots : List Term},
      head.Takes slots.length → (∀ t ∈ slots, motive t) → motive (.make head content slots))
    (slot : ∀ {t u : Term}, motive t → u ∈ t.slots → motive u) {t : Term} (h : Constructed t) :
    motive t := by
  have hnil : ∀ u ∈ ([] : List Term), motive u := List.forall_mem_nil _
  induction h with
  | compiled h => exact compiled h
  | const value | dateTime value => exact node _ _ rfl hnil
  | root field | unknownRoot identifier => exact node _ _ (Nat.zero_le 1) hnil
  | fieldRef groups identifier _ ih =>
    exact node _ _ (Nat.le_refl 1) (List.forall_mem_singleton.mpr ih)
  | list _ ih | set _ ih | func name _ ih => exact node _ _ trivial ih
  | binary op _ _ ihl ihr =>
    exact node _ _ rfl (List.forall_mem_cons.mpr ⟨ihl, List.forall_mem_singleton.mpr ihr⟩)
  | unary op _ ih | attr name _ ih => exact node _ _ rfl (List.forall_mem_singleton.mpr ih)
  | cond _ _ _ ihy iht ihn =>
    exact node _ _ rfl (List.forall_mem_cons.mpr
      ⟨ihy, List.forall_mem_cons.mpr ⟨iht, List.forall_mem_singleton.mpr ihn⟩⟩)
  | @slice obj low high _ _ _ ih ihl ihh =>
    -- a bound that is left out is a constant in its place
    have hbound : ∀ bound : Option Term, (∀ u ∈ bound, motive u) → motive (bound.getD absent) := by
      intro bound hbound
      cases bound with
      | none => exact node _ _ rfl hnil
      | some u => exact hbound u rfl
    exact node _ _ rfl (List.forall_mem_cons.mpr
      ⟨ih, List.forall_mem_cons.mpr ⟨hbound low ihl, List.forall_mem_singleton.mpr (hbound high ihh)⟩⟩)
  | meth name _ _ ih ihs => exact node _ _ (Nat.succ_pos _) (List.forall_mem_cons.mpr ⟨ih, ihs⟩)
  | slot _ hu ih => exact slot ih hu

/-- Every node is judged by its operands, but for malformed literals. Constants have no operands. -/
inductive Judged : Term → Prop where
  | make (head : Head) (content : List Fragment) {slots : List Term}
      (leaf : ∀ value, head = .const value → slots = []) (parts : ∀ t ∈ slots, Judged t) :
      Judged (.make head content slots)
  | malformed (kind : LiteralKind) (content : List Fragment) :
      Judged ((make (.const .none) content []).withFault (.malformed kind))

section Judged

variable {t : Term}

theorem judged_leaf (head : Head) (content : List Fragment) : Judged (.make head content []) :=
  .make head content (fun _ _ => rfl) fun _ h => nomatch h

/-- Every term that an expression resolves to is judged. -/
theorem judged_of_resolved {schema : Schema} (h : Resolved schema t) : Judged t := by
  induction h with
  | root identifier content name => exact judged_leaf _ content
  | member identifier content name known part ih =>
    refine .make _ content (by rintro _ ⟨⟩) fun u hu => ?_
    rw [List.mem_singleton.mp hu]
    exact ih
  | const value content unsigned => exact judged_leaf _ content
  | malformed kind content => exact .malformed kind content
  | node head content inner parts ih =>
    refine .make head content ?_ ih
    rintro value rfl
    cases inner

theorem Judged.of_mem_slots (h : Judged t) {u : Term} (hu : u ∈ t.slots) : Judged u := by
  cases h with
  | make head content leaf parts => exact parts u hu
  | malformed kind content => cases hu

/-- **Terms are judged node by node.** -/
theorem Constructed.judged (h : Constructed t) : Judged t := by
  refine h.node_induction (fun h => judged_of_resolved (resolved_of_compile h)) ?_
    fun ht hu => ht.of_mem_slots hu
  intro head content slots takes parts
  refine .make head content ?_ parts
  rintro value rfl
  exact List.eq_nil_of_length_eq_zero takes

end Judged

/-! ### Faults of the node itself -/

section OwnFault

variable {t : Term}

/-- A fault of the node itself is any but that of its operands. -/
theorem ownFault?_eq_some_iff {fault : Fault} :
    t.ownFault? = some fault ↔ t.fault = some fault ∧ fault ≠ .subnode := by
  unfold ownFault?
  split
  · next hsub =>
    rw [hsub]
    constructor
    · nofun
    · rintro ⟨⟨⟩, hne⟩
      exact absurd rfl hne
  · next hother =>
    constructor
    · intro hfault
      refine ⟨hfault, ?_⟩
      rintro rfl
      exact hother hfault
    · exact And.left

theorem ownFault?_eq_none_iff : t.ownFault? = none ↔ t.fault = none ∨ t.fault = some .subnode := by
  unfold ownFault?
  split
  · next hsub => exact ⟨fun _ => .inr hsub, fun _ => rfl⟩
  · next hother => exact ⟨.inl, fun h => h.resolve_right hother⟩

end OwnFault

namespace Judged

variable {t n : Term}

/-- Every node of a judged term is judged. -/
theorem of_mem_nodes (h : Judged t) (hn : n ∈ t.nodes) : Judged n := by
  induction h with
  | make head content leaf parts ih =>
    rcases List.mem_cons.mp hn with rfl | hn
    · exact .make head content leaf parts
    · obtain ⟨c, hc, hn⟩ := mem_descendants.mp hn
      exact ih c (mem_slots_of_mem_children hc) hn
  | malformed kind content =>
    obtain rfl := List.mem_singleton.mp hn
    exact .malformed kind content

theorem verdict_eq_valid_or_invalid (h : Judged t) :
    (∃ type, t.verdict = .valid type) ∨ ∃ fault, t.verdict = .invalid fault := by
  cases h with
  | make head content leaf parts => exact verdictOn_eq_valid_or_invalid _ _ _
  | malformed kind content => exact .inr ⟨_, rfl⟩

/-- **What a node says about itself and its operands.** Either all operands are valid and the verdict
on the node is its own, or some operand is at fault and this is what the node records. -/
theorem verdict_cases (h : Judged t) :
    (t.verdict.IsOwn ∧ ∀ c ∈ t.children, c.fault = none) ∨
      (t.verdict = .invalid .subnode ∧ ∃ c ∈ t.children, c.fault.isSome = true) := by
  cases h with
  | malformed kind content => exact .inl ⟨.inr ⟨_, rfl, nofun, nofun⟩, fun c hc => nomatch hc⟩
  | @make head content slots leaf parts =>
    cases hleaf : head.nodeType.isLeaf with
    | true =>
      refine .inl ⟨isOwn_verdictOn_of_isLeaf hleaf, fun c hc => ?_⟩
      -- a field does not count what it is reached from among its operands
      cases head with
      | field _ _ => cases hc
      | const value => rw [leaf value rfl] at hc; cases hc
      | _ => cases hleaf
    | false =>
      rw [children_make hleaf]
      cases hsignature : signature? slots with
      | some types =>
        exact .inl ⟨isOwn_verdictOn_of_signature? hsignature, (fault_of_signature? hsignature).2⟩
      | none =>
        refine .inr ⟨verdictOn_of_signature?_eq_none hleaf hsignature, ?_⟩
        obtain ⟨c, hc, hnone⟩ := exists_of_signature?_eq_none hsignature
        refine ⟨c, hc, ?_⟩
        -- the operand has no type, and a verdict without a type is a fault
        rcases (parts c hc).verdict_eq_valid_or_invalid with ⟨type, hverdict⟩ | ⟨fault, hverdict⟩
        · rw [hverdict] at hnone
          cases hnone
        · rw [Term.fault, hverdict]
          rfl

/-- A judged node has a type or a fault. -/
theorem dataType_eq_none_iff (h : Judged t) : t.dataType = none ↔ t.fault.isSome = true := by
  rw [dataType, fault]
  rcases h.verdict_eq_valid_or_invalid with ⟨type, hverdict⟩ | ⟨fault, hverdict⟩
  · rw [hverdict]
    exact ⟨nofun, nofun⟩
  · rw [hverdict]
    exact ⟨fun _ => rfl, fun _ => rfl⟩

/-- A judged node blames its operands exactly if one of them is at fault. -/
theorem fault_eq_subnode_iff (h : Judged t) :
    t.fault = some .subnode ↔ ∃ c ∈ t.children, c.fault.isSome = true := by
  rcases h.verdict_cases with ⟨hown, hchildren⟩ | ⟨hverdict, hexists⟩
  · constructor
    · intro hfault
      rcases hown with ⟨type, hverdict⟩ | ⟨fault, hverdict, hne, -⟩
      · rw [fault, hverdict] at hfault
        cases hfault
      · rw [Term.fault, hverdict] at hfault
        exact absurd (Option.some.inj hfault) hne
    · rintro ⟨c, hc, hsome⟩
      rw [hchildren c hc] at hsome
      cases hsome
  · rw [fault, hverdict]
    exact ⟨fun _ => hexists, fun _ => rfl⟩

/-- The operands of a node that does not blame them are valid. -/
theorem fault_of_mem_children (h : Judged t) (hfault : t.fault ≠ some .subnode) {c : Term}
    (hc : c ∈ t.children) : c.fault = none := by
  by_contra hne
  exact hfault (h.fault_eq_subnode_iff.mpr ⟨c, hc, Option.isSome_iff_ne_none.mpr hne⟩)

/-- **Nothing below a node is at fault** unless the node says so. -/
theorem fault_of_mem_descendants (h : Judged t) (hfault : t.fault ≠ some .subnode)
    (hn : n ∈ t.descendants) : n.fault = none := by
  -- down the tree: an operand without fault does not blame its own operands
  induction h with
  | malformed kind content => cases hn
  | make head content leaf parts ih =>
    obtain ⟨c, hc, hn⟩ := mem_descendants.mp hn
    have hvalid : c.fault = none := (Judged.make head content leaf parts).fault_of_mem_children hfault hc
    rcases List.mem_cons.mp hn with rfl | hn
    · exact hvalid
    · refine ih c (mem_slots_of_mem_children hc) ?_ hn
      rw [hvalid]
      nofun

/-- **A term at fault has a node that is at fault by itself.** -/
theorem exists_ownFault (h : Judged t) (hfault : t.fault.isSome = true) :
    ∃ n ∈ t.nodes, ∃ fault, n.ownFault? = some fault := by
  induction h with
  | malformed kind content => exact ⟨_, List.mem_cons_self, .malformed kind, rfl⟩
  | @make head content slots leaf parts ih =>
    obtain ⟨fault, hsome⟩ := Option.isSome_iff_exists.mp hfault
    by_cases hsub : fault = .subnode
    · -- the operand that is to blame has such a node
      rw [hsub] at hsome
      obtain ⟨c, hc, hcsome⟩ := (Judged.make head content leaf parts).fault_eq_subnode_iff.mp hsome
      obtain ⟨n, hn, hown⟩ := ih c (mem_slots_of_mem_children hc) hcsome
      exact ⟨n, List.mem_cons_of_mem _ (mem_descendants.mpr ⟨c, hc, hn⟩), hown⟩
    · exact ⟨_, List.mem_cons_self, fault, ownFault?_eq_some_iff.mpr ⟨hsome, hsub⟩⟩

end Judged

/-! ### Complaints -/

/-- A term passes if it has no fault, whatever it is for. -/
theorem check_eq_ok_iff {t : Term} {context : Option String} :
    t.check context = .ok () ↔ t.fault = none := by
  unfold check
  split
  · next hnone => exact ⟨fun _ => hnone, fun _ => rfl⟩
  · next hsome =>
    rw [hsome]
    constructor
    · intro h
      split at h <;> cases h
    · nofun

/-- A complaint about a term that blames its operands is about the first node below it that is at fault
by itself. -/
theorem exists_check_of_subnode {t : Term} (h : Judged t) (hfault : t.fault = some .subnode)
    (context : Option String) :
    ∃ front cause back fault, t.descendants = front ++ cause :: back ∧
      (∀ n ∈ front, n.ownFault? = none) ∧ cause.ownFault? = some fault ∧
      t.check context = .error (.aboutPart fault t cause context) := by
  -- the node that is to blame is not the term itself, so the search among the others finds one
  obtain ⟨n, hn, fault, hown⟩ := h.exists_ownFault (by rw [hfault]; rfl)
  have hbelow : n ∈ t.descendants := by
    rcases List.mem_cons.mp hn with rfl | hn
    · exact absurd hfault (by
        rw [(ownFault?_eq_some_iff.mp hown).1]
        exact fun heq => (ownFault?_eq_some_iff.mp hown).2 (Option.some.inj heq))
    · exact hn
  let search : Term → Option (Fault × Term) := fun n => n.ownFault?.map fun f => (f, n)
  have hfound : (t.descendants.findSome? search).isSome = true := by
    refine List.findSome?_isSome_iff.mpr ⟨n, hbelow, ?_⟩
    show (n.ownFault?.map _).isSome = true
    rw [hown]
    rfl
  obtain ⟨⟨f, cause⟩, hcause⟩ := Option.isSome_iff_exists.mp hfound
  obtain ⟨front, c, back, hsplit, hc, hfront⟩ := List.findSome?_eq_some_iff.mp hcause
  obtain ⟨f', hf', heq⟩ := Option.map_eq_some_iff.mp hc
  obtain ⟨rfl, rfl⟩ := Prod.mk.inj heq
  refine ⟨front, c, back, f', hsplit, fun m hm => Option.map_eq_none_iff.mp (hfront m hm), hf', ?_⟩
  unfold check
  rw [hfault]
  dsimp only
  rw [show t.descendants.findSome? _ = some (f', c) from hcause]

/-- **A complaint is about the first node in a walk that is at fault by itself.** -/
theorem exists_of_check_eq_error {t : Term} (h : Judged t) {context : Option String}
    {complaint : Complaint} (hcheck : t.check context = .error complaint) :
    ∃ front cause back fault, t.nodes = front ++ cause :: back ∧
      (∀ n ∈ front, n.ownFault? = none) ∧ cause.ownFault? = some fault ∧
      complaint = ⟨fault, t.source, cause.source, context, front.isEmpty,
        Complaint.detailOf fault cause⟩ := by
  cases hfault : t.fault with
  | none =>
    rw [check_eq_ok_iff.mpr hfault] at hcheck
    cases hcheck
  | some fault =>
    by_cases hsub : fault = .subnode
    · -- the root blames an operand, so the walk goes on below it
      rw [hsub] at hfault
      obtain ⟨front, cause, back, f, hsplit, hfront, hcause, herror⟩ :=
        exists_check_of_subnode h hfault context
      rw [herror] at hcheck
      cases hcheck
      refine ⟨t :: front, cause, back, f, by rw [nodes, hsplit]; rfl, ?_, hcause, rfl⟩
      exact List.forall_mem_cons.mpr ⟨ownFault?_eq_none_iff.mpr (.inr hfault), hfront⟩
    · -- below a node that is at fault by itself there is nothing to be found
      have hown := ownFault?_eq_some_iff.mpr ⟨hfault, hsub⟩
      have hbelow : t.descendants.findSome? (fun n => n.ownFault?.map fun f => (f, n)) = none := by
        refine List.findSome?_eq_none_iff.mpr fun n hn => ?_
        have hvalid := h.fault_of_mem_descendants
          (by rw [hfault]; exact fun heq => hsub (Option.some.inj heq)) hn
        rw [ownFault?_eq_none_iff.mpr (.inl hvalid)]
        rfl
      unfold check at hcheck
      rw [hfault, hbelow] at hcheck
      cases hcheck
      exact ⟨[], t, t.descendants, fault, rfl, List.forall_mem_nil _, hown, rfl⟩

/-- **Complaints point at the original cause.** At every node of a term there is a type or a fault, and
the fault is the one of an operand exactly if some operand is at fault. A term passes the check exactly
if no node of it is at fault. A complaint is about the first node in a walk, the whole term coming
first, that is at fault by itself: it gives the fault and the source of this node, and the operands of
the node are valid. -/
theorem check_blames_cause {t : Term} (h : Constructed t) (context : Option String) :
    (∀ n ∈ t.nodes, (n.dataType = none ↔ n.fault.isSome = true) ∧
      (n.fault = some .subnode ↔ ∃ c ∈ n.children, c.fault.isSome = true)) ∧
    (t.check context = .ok () ↔ ∀ n ∈ t.nodes, n.fault = none) ∧
    ∀ complaint, t.check context = .error complaint →
      complaint.fault ≠ .subnode ∧
      ∃ front cause back, t.nodes = front ++ cause :: back ∧
        (∀ n ∈ front, n.fault = none ∨ n.fault = some .subnode) ∧
        cause.fault = some complaint.fault ∧
        (∀ c ∈ cause.children, c.fault = none) ∧
        complaint = ⟨complaint.fault, t.source, cause.source, context, front.isEmpty,
          Complaint.detailOf complaint.fault cause⟩ := by
  have hjudged := h.judged
  refine ⟨fun n hn => ?_, ?_, fun complaint hcheck => ?_⟩
  · have hnode := hjudged.of_mem_nodes hn
    exact ⟨hnode.dataType_eq_none_iff, hnode.fault_eq_subnode_iff⟩
  · -- the root knows about all nodes, since each one blames its operands
    rw [check_eq_ok_iff]
    constructor
    · intro hfault n hn
      rcases List.mem_cons.mp hn with rfl | hn
      · exact hfault
      · exact hjudged.fault_of_mem_descendants (by rw [hfault]; nofun) hn
    · exact fun hall => hall t List.mem_cons_self
  · obtain ⟨front, cause, back, fault, hsplit, hfront, hcause, rfl⟩ :=
      exists_of_check_eq_error hjudged hcheck
    obtain ⟨hfault, hne⟩ := ownFault?_eq_some_iff.mp hcause
    have hmem : cause ∈ t.nodes := by
      rw [hsplit]
      exact List.mem_append_right front List.mem_cons_self
    refine ⟨hne, front, cause, back, hsplit, ?_, hfault, ?_, rfl⟩
    · exact fun n hn => ownFault?_eq_none_iff.mp (hfront n hn)
    · intro c hc
      refine (hjudged.of_mem_nodes hmem).fault_of_mem_children ?_ hc
      rw [hfault]
      exact fun heq => hne (Option.some.inj heq)

/-- Two operands are at fault, one of them three levels down. The complaint is about the name in the
list, which comes first; the nodes before it are valid or blame their operands. -/
theorem check_blames_cause_nested :
    ∃ t complaint front cause back, compile {} "len([1, y]) + -'s'" = .ok t ∧
      t.check none = .error complaint ∧ complaint.fault = .field ∧ complaint.cause = "y" ∧
      complaint.causeIsRoot = false ∧ t.nodes = front ++ cause :: back ∧
      (∀ n ∈ front, n.fault = none ∨ n.fault = some .subnode) ∧ cause.fault = some .field ∧
      ∀ c ∈ cause.children, c.fault = none := by
  have hsome : (compile {} "len([1, y]) + -'s'").toOption.map
      (fun t => match t.check none with
        | .ok () => none
        | .error c => some (c.fault, c.cause, c.causeIsRoot)) =
        some (some (.field, "y", false)) := by decide +kernel
  obtain ⟨t, hcompile, ht⟩ := exists_of_toOption_map_eq_some hsome
  cases hcheck : t.check none with
  | ok _ => rw [hcheck] at ht; cases ht
  | error complaint =>
    rw [hcheck] at ht
    obtain ⟨hfault, hrest⟩ := Prod.mk.inj (Option.some.inj ht)
    obtain ⟨hcause, hroot⟩ := Prod.mk.inj hrest
    obtain ⟨-, -, hblame⟩ := check_blames_cause (.compiled hcompile) none
    obtain ⟨-, front, cause, back, hsplit, hfront, hown, hchildren, -⟩ := hblame complaint hcheck
    exact ⟨t, complaint, front, cause, back, hcompile, hcheck, hfault, hcause, hroot, hsplit, hfront,
      hfault ▸ hown, hchildren⟩

end Term
end QueryExpr
