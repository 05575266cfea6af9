import QueryExpr.Proofs.Rule.Arities

/-!
# What complaints say

The detail of a complaint is put together from a fault and a node without regard to whether the two go
together: where the node lacks what the fault talks about, some other text takes its place. This module
shows that none of these texts is ever used. `Explains` lists the faults with the nodes that can have
them and the detail that is given then, and a node that is at fault by itself is always one of these
(`Formed.explains`).

Two facts about terms are behind it. The number of slots goes with the head, so that an operator or a
method has operands to list the types of; a function may have none, but then a rule that has the right
number of arguments also has the right types (`noRuleFault_cases`). And a literal is marked as malformed
for the token that it was read from, which is its source (`Formed.malformed`).
-/

namespace QueryExpr
namespace Term

/-! ### Slots and tokens of terms -/

/-- Every node has as many slots as its head takes, and a malformed literal is spelled by a token that
denotes no value. -/
inductive Formed : Term → Prop where
  | make (head : Head) (content : List Fragment) {slots : List Term}
      (takes : head.Takes slots.length) (parts : ∀ t ∈ slots, Formed t) :
      Formed (.make head content slots)
  | malformed {kind : LiteralKind} {content : List Fragment} {token : Token}
      (denotes : token.literal? = some (.malformed kind))
      (spells : token.Spells (make (.const .none) content []).sourceChars) :
      Formed ((make (.const .none) content []).withFault (.malformed kind))

/-- A fault is no part of the source. -/
theorem sourceChars_withFault (fault : Fault) (t : Term) :
    (t.withFault fault).sourceChars = t.sourceChars := by
  obtain ⟨head, verdict, content, slots⟩ := t
  rw [withFault, withVerdict, sourceChars_node, sourceChars_node]

/-- A node without slots. -/
theorem formed_leaf {head : Head} {content : List Fragment} (takes : head.Takes 0) :
    Formed (.make head content []) :=
  .make head content takes (List.forall_mem_nil _)

section Resolve

variable {schema : Schema} {text : List Char}

/-- A node whose operands are formed. -/
theorem formed_node {e : Expr} {t : Term} (he : e.Placed text) (h : e.resolve schema text = .ok t)
    (hops : ∀ o ∈ e.operands, ∀ u, o.resolve schema text = .ok u → Formed u) : Formed t := by
  have hspelled := he.spelled
  have hcovers := Expr.covers_of_resolve he t h
  rw [Expr.Covers, if_pos he.isPresent] at hcovers
  rcases Expr.resolve_cases he.isPresent h with
    ⟨place, value, rfl, rfl⟩ | ⟨head, slots, hall, hhead, rfl⟩
  · obtain ⟨token, word, hword, hspells, hvalue⟩ := hspelled
    cases value with
    | malformed kind =>
      -- the token is the text of the literal, and this is the source of its term
      obtain rfl := Option.some.inj (hword.symm.trans hcovers)
      rw [Expr.resolveConst, sourceChars_withFault] at hspells
      exact .malformed hvalue hspells
    | _ => exact formed_leaf rfl
  · have hslots : ∀ u ∈ slots, Formed u := by
      intro u hu
      obtain ⟨o, ho, hresolve⟩ := exists_mem_of_forall₂ (Expr.resolveAll_eq_ok_iff.mp hall) hu
      exact hops o ho u hresolve
    cases hhead with
    | name place identifier => exact formed_leaf (Nat.zero_le 1)
    | member place obj identifier known => exact .make _ _ (Nat.le_refl 1) hslots
    | inner inner takes => exact .make head _ takes hslots

/-- What an expression resolves to is formed, since every node is made from its own operands. -/
theorem formed_of_resolve {e : Expr} (he : e.Placed text) :
    ∀ t, e.resolve schema text = .ok t → Formed t := by
  refine Expr.Placed.induction_on_operands
    (motive := fun e => ∀ t, e.resolve schema text = .ok t → Formed t) he ?_ ?_
  · intro e habsent t ht
    cases e with
    | absent =>
      rw [Expr.resolve] at ht
      cases ht
      exact formed_leaf rfl
    | _ => exact absurd rfl habsent
  · exact fun e hplaced hops t ht => formed_node hplaced ht hops

end Resolve

section Formed

variable {t n : Term}

theorem Formed.of_mem_slots (h : Formed t) {u : Term} (hu : u ∈ t.slots) : Formed u := by
  cases h with
  | make head content takes parts => exact parts u hu
  | malformed denotes spells => cases hu

/-- Every node of a formed term is formed. -/
theorem Formed.of_mem_nodes (h : Formed t) (hn : n ∈ t.nodes) : Formed n := by
  induction h with
  | make head content takes parts ih =>
    rcases List.mem_cons.mp hn with rfl | hn
    · exact .make head content takes parts
    · obtain ⟨c, hc, hn⟩ := mem_descendants.mp hn
      exact ih c (mem_slots_of_mem_children hc) hn
  | malformed denotes spells =>
    obtain rfl := List.mem_singleton.mp hn
    exact .malformed denotes spells

/-- **All terms are formed.** -/
theorem Constructed.formed (h : Constructed t) : Formed t := by
  refine h.node_induction (fun h => ?_) .make fun ht hu => ht.of_mem_slots hu
  obtain ⟨e, hparse, hresolve⟩ := exists_of_compile h
  obtain ⟨hplaced, -, -⟩ := placed_of_parse hparse
  exact formed_of_resolve hplaced _ hresolve

end Formed

/-! ### Faults of collections and rules -/

/-- The fault of a list is in the types of its items. -/
theorem fault_listVerdict {types : List DataType} {fault : Fault}
    (h : (listVerdict types).fault = some fault) : fault = .listTypes := by
  unfold listVerdict at h
  split at h <;> cases h
  rfl

/-- The fault of a set is in the types of its items, too. -/
theorem fault_setVerdict {types : List DataType} {fault : Fault}
    (h : (setVerdict types).fault = some fault) : fault = .mixedSet ∨ fault = .setTypes := by
  unfold setVerdict at h
  split at h <;> cases h
  · exact .inr rfl
  · exact .inl rfl

/-- Where a rule decides, the fault is that there is none. -/
theorem fault_ruleVerdict {reg : Registry} {head : Head} {types : List DataType} {fault : Fault}
    (h : (ruleVerdict reg head types).fault = some fault) :
    reg.lookup head.nodeType head.ruleName? types = none ∧ fault = noRuleFault reg head types := by
  unfold ruleVerdict at h
  split at h
  · cases h
  · next hlookup => exact ⟨hlookup, (Option.some.inj h).symm⟩

/-- A function that is known to take no arguments has a rule for a call without arguments. -/
theorem isSome_lookup_of_isFunction_zero {reg : Registry} {name : String}
    (h : ∃ rule ∈ reg.latest, rule.IsFunction name 0) :
    (reg.lookup .func (some name) []).isSome = true := by
  obtain ⟨rule, hmem, htype, hname, hlength⟩ := h
  refine Registry.isSome_lookup_iff.mpr ⟨rule, hmem, Rule.isFor_iff.mpr ⟨htype, hname, ?_⟩⟩
  exact List.length_eq_zero_iff.mp hlength

/-- **Why there is no rule.** Only calls and attributes have unknown names, and only calls have wrong
numbers of arguments. Where the types are at fault, there are some. -/
theorem noRuleFault_cases {reg : Registry} (hreg : reg.Indexed) {head : Head} {types : List DataType}
    (hhead : head.isRuled = true) (takes : head.Takes types.length)
    (hlookup : reg.lookup head.nodeType head.ruleName? types = none) :
    (noRuleFault reg head types = .name ∧
        ∃ name, head = .func name ∨ head = .meth name ∨ head = .attr name) ∨
      (noRuleFault reg head types = .arity ∧ ∃ name, head = .func name ∨ head = .meth name) ∨
      (noRuleFault reg head types = .subnodeTypes ∧ types ≠ []) := by
  cases head with
  | field _ _ | const _ | list | set => cases hhead
  | attr name => exact .inl ⟨rfl, name, .inr (.inr rfl)⟩
  | binary op | unary op | cond | slice =>
    refine .inr (.inr ⟨rfl, ?_⟩)
    rintro rfl
    cases takes
  | func name =>
    rcases hreg.functions.callFault_cases name types.length with
      ⟨hfault, -⟩ | ⟨hfault, -⟩ | ⟨hfault, hknown⟩
    · exact .inl ⟨hfault, name, .inl rfl⟩
    · exact .inr (.inl ⟨hfault, name, .inl rfl⟩)
    · refine .inr (.inr ⟨hfault, ?_⟩)
      rintro rfl
      -- without arguments there are no types that could be wrong
      have hfound := isSome_lookup_of_isFunction_zero hknown
      rw [show reg.lookup .func (some name) [] = none from hlookup] at hfound
      cases hfound
  | meth name =>
    cases types with
    | nil => exact absurd takes (Nat.lt_irrefl 0)
    | cons receiver args =>
      rcases hreg.methods.callFault_cases (receiver, name) args.length with
        ⟨hfault, -⟩ | ⟨hfault, -⟩ | ⟨hfault, -⟩
      · exact .inl ⟨hfault, name, .inr (.inl rfl)⟩
      · exact .inr (.inl ⟨hfault, name, .inr rfl⟩)
      · exact .inr (.inr ⟨hfault, List.cons_ne_nil _ _⟩)

/-- The signature has the types of the operands. -/
theorem map_dataType_of_signature? {operands : List Term} {types : List DataType}
    (h : signature? operands = some types) : operands.map dataType = types.map some := by
  induction operands generalizing types with
  | nil =>
    cases h
    rfl
  | cons t ts ih =>
    obtain ⟨type, rest, rfl, -, htype, hts⟩ := exists_of_signature?_cons h
    rw [List.map_cons, List.map_cons, htype, ih hts]

end Term

/-! ### Details -/

namespace Complaint

/-- The node can have the fault by itself, and this is what a complaint says about it then. -/
inductive Explains : Fault → Term → String → Prop where
  | field {t : Term} {identifier : String} (head : t.head = .field identifier none) :
      Explains .field t ("Expression references the unknown field `" ++ identifier ++ "`.")
  | function {t : Term} {name : String} (head : t.head = .func name) :
      Explains .name t ("The function name `" ++ name ++ "` is unknown.")
  | method {t : Term} {name : String} (head : t.head = .meth name) :
      Explains .name t ("The method name `" ++ name ++ "` is unknown.")
  | attribute {t : Term} {name : String} (head : t.head = .attr name) :
      Explains .name t ("The attribute name `" ++ name ++ "` is unknown.")
  | arity {t : Term} {name : String} (head : t.head = .func name ∨ t.head = .meth name) :
      Explains .arity t "AST node has wrong arity (Internal vSQL error)."
  /-- The literal shows its source, and this is a token that denotes no value. -/
  | malformed {t : Term} {kind : LiteralKind} {token : Token} (head : t.head = .const .none)
      (leaf : t.children = []) (denotes : token.literal? = some (.malformed kind))
      (spells : token.Spells t.source.toList) (shows : t.value? = some t.source) :
      Explains (.malformed kind) t ("Constant `" ++ t.source ++ "` is malformed.")
  /-- There are operands, they all have types, and these are listed. -/
  | types {t : Term} {types : List DataType} (head : t.head.isRuled = true) (nonempty : types ≠ [])
      (operands : t.children.map Term.dataType = types.map some) :
      Explains .subnodeTypes t ("Type combination " ++
        ", ".intercalate (types.map fun type => "`" ++ type.name ++ "`") ++ " is not supported.")
  | list {t : Term} (head : t.head = .list) :
      Explains .listTypes t
        "List type can't be determined, since it contains unsupported or mixed types."
  | mixedSet {t : Term} (head : t.head = .set) :
      Explains .mixedSet t "Set type can't be determined, since it contains mixed types."
  | set {t : Term} (head : t.head = .set) :
      Explains .setTypes t
        "Set type can't be determined, since it contains unsupported or mixed types."

section Explains

variable {t : Term} {fault : Fault} {detail : String}

theorem Explains.ne_nodeType (h : Explains fault t detail) : fault ≠ .nodeType := by
  rintro rfl
  cases h

/-- What explains a fault says something. -/
theorem Explains.detail_ne_empty (h : Explains fault t detail) : detail ≠ "" := by
  cases h <;> simp

end Explains

/-- Operands that all have types are all listed. -/
theorem operandTypes?_eq_some {t : Term} {types : List DataType}
    (h : t.children.map Term.dataType = types.map some) :
    operandTypes? t = some (types.map fun type => "`" ++ type.name ++ "`") := by
  rw [operandTypes?]
  generalize t.children = operands at h
  induction operands generalizing types with
  | nil =>
    obtain rfl := List.map_eq_nil_iff.mp h.symm
    rfl
  | cons operand operands ih =>
    cases types with
    | nil => cases h
    | cons type types =>
      obtain ⟨hhead, htail⟩ := List.cons.inj h
      rw [List.mapM_cons, hhead, ih htail]
      rfl

/-- The types of the operands, which are all known. -/
theorem explains_types {t : Term} {types : List DataType} (hhead : t.head.isRuled = true)
    (hnonempty : types ≠ []) (h : t.children.map Term.dataType = types.map some) :
    Explains .subnodeTypes t (detailOf .subnodeTypes t) := by
  have hdetail : detailOf .subnodeTypes t = "Type combination " ++
      ", ".intercalate (types.map fun type => "`" ++ type.name ++ "`") ++ " is not supported." := by
    delta detailOf
    dsimp only
    rw [operandTypes?_eq_some h]
  rw [hdetail]
  exact .types hhead hnonempty h

/-- The name that is not known. -/
theorem explains_name {t : Term} {name : String}
    (h : t.head = .func name ∨ t.head = .meth name ∨ t.head = .attr name) :
    Explains .name t (detailOf .name t) := by
  have hwords : ∀ kind, "The " ++ (kind ++ name ++ "`") ++ " is unknown." =
      "The " ++ kind ++ name ++ "` is unknown." := by
    intro kind
    simp [String.append_assoc]
  delta detailOf
  dsimp only
  rcases h with hhead | hhead | hhead
  · rw [hhead, hwords]
    simpa using Explains.function hhead
  · rw [hhead, hwords]
    simpa using Explains.method hhead
  · rw [hhead, hwords]
    simpa using Explains.attribute hhead

/-- The literal as it stands in the source. -/
theorem explains_malformed {t : Term} {kind : LiteralKind} {token : Token}
    (hhead : t.head = .const .none) (hleaf : t.children = [])
    (hfault : t.fault = some (.malformed kind))
    (denotes : token.literal? = some (.malformed kind)) (spells : token.Spells t.sourceChars) :
    Explains (.malformed kind) t (detailOf (.malformed kind) t) := by
  have hmalformed : t.fault.any Fault.isMalformed = true := by rw [hfault]; rfl
  have hshows : t.value? = some t.source := by rw [Term.value?, if_pos hmalformed]
  delta detailOf
  dsimp only
  rw [hshows, Option.getD_some]
  exact .malformed hhead hleaf denotes (t.toList_source.symm ▸ spells) hshows

end Complaint

namespace Term

open Complaint

/-- A node for which a rule would decide is explained by the types of its operands. -/
theorem explains_of_isRuled {head : Head} {content : List Fragment} {slots : List Term}
    {types : List DataType} {fault : Fault} (hhead : head.isRuled = true)
    (takes : head.Takes slots.length) (htypes : signature? slots = some types)
    (hfault : (verdictOn .standard head slots).fault = some fault) :
    Explains fault (.make head content slots) (detailOf fault (.make head content slots)) := by
  have hlength : types.length = slots.length := (fault_of_signature? htypes).1
  rw [verdictOn_of_isRuled .standard hhead htypes] at hfault
  obtain ⟨hlookup, rfl⟩ := fault_ruleVerdict hfault
  have hindexed : Registry.standard.Indexed := Registry.indexed_ofTable Standard.table
  -- no rule has this name, or none this number of arguments, or none these types
  rcases noRuleFault_cases hindexed hhead (hlength.symm ▸ takes) hlookup with
    ⟨hname, name, hcall⟩ | ⟨harity, name, hcall⟩ | ⟨hcombination, hnonempty⟩
  · rw [hname]
    exact explains_name hcall
  · rw [harity]
    exact .arity hcall
  · rw [hcombination]
    refine explains_types hhead hnonempty ?_
    rw [children_make (Head.isLeaf_of_isRuled hhead)]
    exact map_dataType_of_signature? htypes

/-- **A node that is at fault by itself explains its fault.** -/
theorem Formed.explains {t : Term} {fault : Fault} (h : Formed t) (hfault : t.fault = some fault)
    (hne : fault ≠ .subnode) : Explains fault t (detailOf fault t) := by
  cases h with
  | malformed denotes spells =>
    obtain rfl := Option.some.inj hfault
    refine explains_malformed rfl rfl rfl denotes ?_
    rwa [sourceChars_withFault]
  | @make head content slots takes parts =>
    change (verdictOn .standard head slots).fault = some fault at hfault
    cases hleaf : head.nodeType.isLeaf with
    | true =>
      -- a constant has a type, and so has a field that is known
      cases head with
      | field identifier field =>
        cases field with
        | none =>
          obtain rfl := Option.some.inj hfault
          exact .field rfl
        | some field => cases hfault
      | const value => cases hfault
      | _ => cases hleaf
    | false =>
      cases htypes : signature? slots with
      | none =>
        -- an operand without a type, so this is not the node's own fault
        rw [verdictOn_of_signature?_eq_none hleaf htypes] at hfault
        exact absurd (Option.some.inj hfault).symm hne
      | some types =>
        cases head with
        | field _ _ | const _ => cases hleaf
        | list =>
          unfold verdictOn at hfault
          rw [htypes] at hfault
          obtain rfl := fault_listVerdict hfault
          exact .list rfl
        | set =>
          unfold verdictOn at hfault
          rw [htypes] at hfault
          rcases fault_setVerdict hfault with rfl | rfl
          · exact .mixedSet rfl
          · exact .set rfl
        | _ => exact explains_of_isRuled rfl takes htypes hfault

/-- **Complaints are never vacuous.** The complaint about a term at fault is about a node of it that has
the fault, and the fault fits the node: an unknown field is a reference to a field, an unknown name is
that of a function, a method or an attribute, a wrong number of arguments is that of a function or a
method, a malformed literal is a token that denotes no value and is shown as it is written, operands
whose types do not go together are there and all have types, which are listed, and the faults of lists and
sets are those of lists and sets. No other fault is complained about, and the detail is what the fault
means at such a node. -/
theorem check_explains_cause {t : Term} (h : Constructed t) (hinvalid : t.fault.isSome = true)
    (context : Option String) :
    ∃ complaint cause, t.check context = .error complaint ∧ cause ∈ t.nodes ∧
      cause.fault = some complaint.fault ∧ complaint.cause = cause.source ∧
      Explains complaint.fault cause complaint.detail ∧
      complaint.fault ≠ .subnode ∧ complaint.fault ≠ .nodeType ∧ complaint.detail ≠ "" := by
  cases hcheck : t.check context with
  | ok _ =>
    rw [check_eq_ok_iff.mp hcheck] at hinvalid
    cases hinvalid
  | error complaint =>
    -- the complaint is about a node that is at fault by itself, and such a node explains its fault
    obtain ⟨front, cause, back, fault, hsplit, -, hown, rfl⟩ :=
      exists_of_check_eq_error h.judged hcheck
    obtain ⟨hfault, hne⟩ := ownFault?_eq_some_iff.mp hown
    have hmem : cause ∈ t.nodes := by
      rw [hsplit]
      exact List.mem_append_right front List.mem_cons_self
    have hexplains := (h.formed.of_mem_nodes hmem).explains hfault hne
    exact ⟨_, cause, rfl, hmem, hfault, rfl, hexplains, hne, hexplains.ne_nodeType,
      hexplains.detail_ne_empty⟩

/-- The date is the first node at fault by itself, two levels down. It is shown as it is written, and this
is a token that denotes no value. -/
theorem check_explains_cause_date :
    ∃ t complaint, compile {} "f([2, @(2000-13-01)], \x7b1, 's'\x7d)" = .ok t ∧
      t.check none = .error complaint ∧ complaint.cause = "@(2000-13-01)" ∧
      complaint.detail = "Constant `@(2000-13-01)` is malformed." ∧
      ∃ token : Token, token.literal? = some (.malformed .date) ∧
        token.Spells "@(2000-13-01)".toList := by
  have hsome : (compile {} "f([2, @(2000-13-01)], \x7b1, 's'\x7d)").toOption.map
      (fun t => (t.fault.isSome, match t.check none with
        | .ok () => none
        | .error c => some (c.fault, c.cause))) =
        some (true, some (.malformed .date, "@(2000-13-01)")) := by decide +kernel
  obtain ⟨t, hcompile, ht⟩ := exists_of_toOption_map_eq_some hsome
  obtain ⟨hinvalid, ht⟩ := Prod.mk.inj ht
  obtain ⟨complaint, cause, hcheck, -, -, hsource, hexplains, -⟩ :=
    check_explains_cause (.compiled hcompile) hinvalid none
  rw [hcheck] at ht
  obtain ⟨hfault, hcause⟩ := Prod.mk.inj (Option.some.inj ht)
  rw [hfault] at hexplains
  rw [hcause] at hsource
  generalize hdetail : complaint.detail = detail at hexplains
  cases hexplains with
  | @malformed _ _ token head leaf denotes spells shows =>
    rw [← hsource] at hdetail spells
    exact ⟨t, complaint, hcompile, hcheck, hcause, hdetail, token, denotes, spells⟩

end Term
end QueryExpr
