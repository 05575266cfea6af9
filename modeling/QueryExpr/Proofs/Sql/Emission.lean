import QueryExpr.Proofs.Query.Runs
import QueryExpr.Proofs.Rule.Lookup
import QueryExpr.Proofs.Term.Faults
import QueryExpr.Sql.Emit

/-!
# Valid terms have SQL

Types are found before SQL is made, and both look up the rule of a node on their own. This module
shows that the two agree at every node: where the verdict is valid, emission finds the rule that has
given the type (`Judged.exists_rule?`), and the template of the rule asks for operands that are there
(`exists_fills`). So whatever tables a query has, a valid term can be emitted (`Judged.succeeds_emit`),
and the fault for a missing rule never comes up.
-/

namespace QueryExpr

/-! ### Emissions that succeed -/

namespace Emission

/-- The emission gives SQL, whatever the tables are. -/
def Succeeds (e : Emission) : Prop := ∀ j, ∃ j' sql, e j = (j', .ok sql)

theorem succeeds_text (sql : String) : Succeeds (text sql) := fun j => ⟨j, sql, rfl⟩

theorem Succeeds.append {a b : Emission} (ha : Succeeds a) (hb : Succeeds b) :
    Succeeds (a.append b) := by
  intro j
  obtain ⟨j₁, front, hfront⟩ := ha j
  obtain ⟨j₂, back, hback⟩ := hb j₁
  refine ⟨j₂, front ++ back, ?_⟩
  unfold Emission.append
  rw [hfront]
  dsimp only
  rw [hback]

theorem compositional_succeeds : Compositional Succeeds := ⟨succeeds_text, Succeeds.append⟩

/-- Several emissions, one after the other. -/
def concat : List Emission → Emission
  | [] => text ""
  | e :: es => e.append (concat es)

theorem succeeds_concat {es : List Emission} (h : ∀ e ∈ es, Succeeds e) : Succeeds (concat es) := by
  induction es with
  | nil => exact succeeds_text ""
  | cons e es ih =>
    exact (h e List.mem_cons_self).append (ih fun d hd => h d (List.mem_cons_of_mem e hd))

end Emission

/-- Operators, calls, attributes, slices and conditionals: the nodes whose type and SQL are those of a
rule. -/
def Head.isRuled : Head → Bool
  | .field _ _ | .const _ | .list | .set => false
  | _ => true

theorem Head.isLeaf_of_isRuled {head : Head} (h : head.isRuled = true) :
    head.nodeType.isLeaf = false := by
  cases head with
  | field _ _ | const _ => cases h
  | _ => rfl

namespace Term

open Emission

/-! ### Templates with operands put in -/

theorem emitAll_eq (groups : Groups) (ts : List Term) : emitAll groups ts = ts.map (emit groups) := by
  induction ts with
  | nil => rfl
  | cons t ts ih => rw [emitAll, ih, List.map_cons]

/-- What a part of a template becomes: text is copied, and in the place of an operand stands the SQL of
the operand. There is nothing that a part without operand becomes. -/
inductive Fills (groups : Groups) (operands : List Term) : Part → Emission → Prop where
  | literal (sql : String) : Fills groups operands (.literal sql) (.text sql)
  | child {index : Nat} {operand : Term} (h : operands[index]? = some operand) :
      Fills groups operands (.child (index + 1)) (operand.emit groups)

section Fills

variable {groups : Groups} {operands : List Term} {parts : List Part}

variable (groups) in
/-- **A template that asks for operands that are there is filled in part by part.** -/
theorem exists_fills
    (h : ∀ index, .child index ∈ parts → 0 < index ∧ index ≤ operands.length) :
    ∃ es, List.Forall₂ (Fills groups operands) parts es ∧
      template (emitAll groups operands) parts = concat es := by
  induction parts with
  | nil => exact ⟨[], .nil, rfl⟩
  | cons part parts ih =>
    obtain ⟨es, hes, htemplate⟩ := ih fun index hindex => h index (List.mem_cons_of_mem part hindex)
    rcases part with sql | _ | index
    · refine ⟨text sql :: es, .cons (.literal sql) hes, ?_⟩
      rw [template, htemplate, concat]
    · exact absurd (h 0 List.mem_cons_self).1 (Nat.lt_irrefl 0)
    · -- the operand is there, so nothing is left out in its place
      obtain ⟨-, hle⟩ := h (index + 1) List.mem_cons_self
      obtain ⟨operand, hoperand⟩ : ∃ operand, operands[index]? = some operand :=
        ⟨_, List.getElem?_eq_getElem (Nat.lt_of_succ_le hle)⟩
      refine ⟨operand.emit groups :: es, .cons (.child hoperand) hes, ?_⟩
      rw [template, htemplate, emitAll_eq, List.getElem?_map, hoperand]
      rfl

theorem succeeds_of_fills {es : List Emission} (hes : List.Forall₂ (Fills groups operands) parts es)
    (h : ∀ t ∈ operands, Succeeds (t.emit groups)) : ∀ e ∈ es, Succeeds e := by
  intro e he
  obtain ⟨part, -, hfills⟩ := exists_mem_of_forall₂ hes he
  cases hfills with
  | literal sql => exact succeeds_text sql
  | child hoperand => exact h _ (List.mem_of_getElem? hoperand)

end Fills

/-! ### Nodes -/

section Nodes

variable {t : Term} {groups : Groups}

/-- The SQL of a node with a rule is the template of the rule, with the SQL of the operands. -/
theorem emit_of_rule? {rule : Rule} (hhead : t.head.isRuled = true) (hrule : t.rule? = some rule)
    (groups : Groups) : t.emit groups = template (emitAll groups t.children) rule.template := by
  obtain ⟨head, verdict, content, slots⟩ := t
  unfold emit
  cases head with
  | field _ _ | const _ | list | set => cases hhead
  | _ => dsimp only; rw [hrule]; rfl

/-- The template of the rule is filled in part by part. -/
theorem exists_fills_of_rule? {rule : Rule} (hhead : t.head.isRuled = true)
    (hrule : t.rule? = some rule)
    (hindex : ∀ index, .child index ∈ rule.template → 0 < index ∧ index ≤ t.children.length)
    (groups : Groups) :
    ∃ es, List.Forall₂ (Fills groups t.children) rule.template es ∧ t.emit groups = concat es := by
  obtain ⟨es, hes, htemplate⟩ := exists_fills groups hindex
  exact ⟨es, hes, (emit_of_rule? hhead hrule groups).trans htemplate⟩

/-- **Emission finds the rule that has given the type**, and the rule asks for operands that there
are. -/
theorem Judged.exists_rule? (h : Judged t) (hvalid : t.fault = none)
    (hhead : t.head.isRuled = true) :
    ∃ rule, t.rule? = some rule ∧ t.dataType = some rule.result ∧
      ∀ index, .child index ∈ rule.template → 0 < index ∧ index ≤ t.children.length := by
  cases h with
  | malformed kind content => cases hhead
  | @make head content slots leaf parts =>
    change head.isRuled = true at hhead
    have hinner := Head.isLeaf_of_isRuled hhead
    obtain ⟨types, htypes, hlist | hset | ⟨rule, hlookup, hverdict⟩⟩ :=
      exists_of_verdictOn hinner hvalid
    · -- lists and sets have a type without a rule
      rw [hlist] at hhead
      cases hhead
    · rw [hset] at hhead
      cases hhead
    · refine ⟨rule, ?_, ?_, fun index hindex => ?_⟩
      · rw [rule?, children_make hinner, htypes, Option.bind_some]
        exact hlookup
      · change (verdictOn .standard head slots).dataType = _
        rw [hverdict]
        rfl
      · rw [children_make hinner, ← (fault_of_signature? htypes).1]
        exact Registry.index_of_lookup hlookup hindex

theorem verdictOn_of_isRuled (reg : Registry) {head : Head} (hhead : head.isRuled = true)
    {slots : List Term} {types : List DataType} (htypes : signature? slots = some types) :
    verdictOn reg head slots = ruleVerdict reg head types := by
  unfold verdictOn
  cases head with
  | field _ _ | const _ | list | set => cases hhead
  | _ => dsimp only; rw [htypes]

/-- A node with a rule for the types of its operands is valid. -/
theorem Judged.fault_eq_none_of_provides (h : Judged t) (hhead : t.head.isRuled = true)
    {types : List DataType} (htypes : signature? t.children = some types)
    (hrow : (Standard.table.any (Registry.provides t.nodeType t.head.ruleName? types)) = true) :
    t.fault = none := by
  have hlookup := Registry.isSome_lookup_of_provides hrow
  rw [← Registry.standard] at hlookup
  obtain ⟨rule, hrule⟩ := Option.isSome_iff_exists.mp hlookup
  cases h with
  | malformed kind content => cases hhead
  | @make head content slots leaf parts =>
    change head.isRuled = true at hhead
    change Registry.standard.lookup head.nodeType head.ruleName? types = some rule at hrule
    rw [children_make (Head.isLeaf_of_isRuled hhead)] at htypes
    change (verdictOn .standard head slots).fault = none
    rw [verdictOn_of_isRuled .standard hhead htypes, ruleVerdict, hrule]
    rfl

/-- A collection whose items can be emitted. -/
theorem succeeds_collection {slots : List Term} (h : ∀ t ∈ slots, Succeeds (t.emit groups))
    (ends : Option (String × String)) :
    Succeeds (match ends with
      | some (front, back) =>
        (text front).append ((items (emitAll groups slots)).append (text back))
      | none => text (toString slots.length)) := by
  cases ends with
  | none => exact succeeds_text _
  | some ends =>
    have hitems : ∀ e ∈ emitAll groups slots, Succeeds e := by
      rw [emitAll_eq]
      exact List.forall_mem_map.mpr h
    exact (succeeds_text _).append ((compositional_succeeds.items hitems).append (succeeds_text _))

/-- **A valid term can be emitted.** -/
theorem Judged.succeeds_emit (h : Judged t) (hvalid : t.fault = none) (groups : Groups) :
    Succeeds (t.emit groups) := by
  induction h with
  | malformed kind content => cases hvalid
  | @make head content slots leaf parts ih =>
    have hjudged := Judged.make head content leaf parts
    -- a valid node has valid operands, which the induction is about
    have hchildren : ∀ c ∈ (Term.make head content slots).children, Succeeds (c.emit groups) := by
      intro c hc
      refine ih c (mem_slots_of_mem_children hc) (hjudged.fault_of_mem_children ?_ hc)
      rw [hvalid]
      nofun
    cases hruled : head.isRuled with
    | true =>
      obtain ⟨rule, hrule, -, hindex⟩ := hjudged.exists_rule? hvalid hruled
      obtain ⟨es, hes, hemit⟩ := exists_fills_of_rule? (t := .make head content slots) hruled hrule
        hindex groups
      rw [hemit]
      exact succeeds_concat (succeeds_of_fills hes hchildren)
    | false =>
      cases head with
      | field identifier field => exact fun j => ⟨_, _, rfl⟩
      | const value => exact succeeds_text _
      | list | set =>
        rw [Term.make, emit]
        exact succeeds_collection hchildren _
      | _ => cases hruled

/-- No node records the lack of a rule. -/
theorem Judged.fault_ne_nodeType (h : Judged t) : t.fault ≠ some .nodeType := by
  rw [fault]
  rcases h.verdict_cases with ⟨⟨type, hverdict⟩ | ⟨fault, hverdict, -, hne⟩, -⟩ | ⟨hverdict, -⟩
  · rw [hverdict]
    intro heq
    cases heq
  · rw [hverdict]
    exact fun heq => hne (Option.some.inj heq)
  · rw [hverdict]
    intro heq
    cases heq

/-- A valid term has the SQL that is emitted. -/
theorem toSql_of_valid {j j' : Joins} {sql : String} (hvalid : t.fault = none)
    (hemit : t.emit groups j = (j', .ok sql)) (context : Option String) :
    t.toSql groups context j = (j', .ok sql) := by
  simp only [toSql, check, hvalid, hemit]

/-- Making SQL fails only if the check does, and with its complaint. -/
theorem Judged.toSql_cases (h : Judged t) (groups : Groups) (context : Option String) (j : Joins) :
    (t.fault = none ∧ ∃ sql, (t.toSql groups context j).2 = .ok sql) ∨
      ∃ complaint, t.check context = .error complaint ∧
        (t.toSql groups context j).2 = .error complaint := by
  cases hcheck : t.check context with
  | error complaint => exact .inr ⟨complaint, rfl, by rw [toSql, hcheck]⟩
  | ok _ =>
    have hvalid : t.fault = none := check_eq_ok_iff.mp hcheck
    obtain ⟨j', sql, hemit⟩ := h.succeeds_emit hvalid groups j
    exact .inl ⟨hvalid, sql, by rw [toSql_of_valid hvalid hemit]⟩

end Nodes

/-- **Types and SQL agree.** For any query, a term has SQL exactly if the check accepts it, which is so
exactly if it is not at fault; a rule is never found missing when the SQL is made. At each valid node
whose type is that of a rule, the rule of the node gives its type, the operands that the template asks
for are there, and the SQL is made of all parts of the template. -/
theorem toSql_eq_ok_iff {t : Term} (h : Constructed t) (groups : Groups) (context : Option String)
    (j : Joins) :
    ((∃ sql, (t.toSql groups context j).2 = .ok sql) ↔ t.check context = .ok ()) ∧
    (t.check context = .ok () ↔ t.fault = none) ∧
    (∀ complaint, (t.toSql groups context j).2 = .error complaint → complaint.fault ≠ .nodeType) ∧
    ∀ n ∈ t.nodes, n.fault = none → n.head.isRuled = true →
      ∃ rule, n.rule? = some rule ∧ n.dataType = some rule.result ∧
        (∀ index, .child index ∈ rule.template →
          ∃ operand, 0 < index ∧ n.children[index - 1]? = some operand) ∧
        ∃ es, List.Forall₂ (Fills groups n.children) rule.template es ∧
          n.emit groups = concat es := by
  have hjudged := h.judged
  refine ⟨?_, check_eq_ok_iff, fun complaint herror => ?_, fun n hn hvalid hruled => ?_⟩
  · -- a term is written if it passes, and refused with what the check complains about
    rcases hjudged.toSql_cases groups context j with ⟨hvalid, hsql⟩ | ⟨complaint, hcheck, herror⟩
    · exact ⟨fun _ => check_eq_ok_iff.mpr hvalid, fun _ => hsql⟩
    · rw [hcheck, herror]
      constructor
      · rintro ⟨sql, hsql⟩
        cases hsql
      · nofun
  · -- the complaint is the one of the check, which repeats the fault of some node
    rcases hjudged.toSql_cases groups context j with ⟨-, sql, hsql⟩ | ⟨complaint', hcheck, herror'⟩
    · rw [hsql] at herror
      cases herror
    · rw [herror'] at herror
      cases herror
      obtain ⟨front, cause, back, fault, hsplit, -, hcause, rfl⟩ :=
        exists_of_check_eq_error hjudged hcheck
      have hmem : cause ∈ t.nodes := by
        rw [hsplit]
        exact List.mem_append_right front List.mem_cons_self
      rintro rfl
      exact (hjudged.of_mem_nodes hmem).fault_ne_nodeType (ownFault?_eq_some_iff.mp hcause).1
  · -- the rule that has given the node its type is found again, and its places are all filled
    obtain ⟨rule, hrule, htype, hindex⟩ := (hjudged.of_mem_nodes hn).exists_rule? hvalid hruled
    refine ⟨rule, hrule, htype, fun index hpart => ?_,
      exists_fills_of_rule? hruled hrule hindex groups⟩
    obtain ⟨hpos, hle⟩ := hindex index hpart
    exact ⟨_, hpos, List.getElem?_eq_getElem (by omega)⟩

/-- A sum of a variable and a number, whose rule is among those for many types of operands. -/
theorem toSql_eq_ok_iff_sum :
    ∃ schema t, compile schema "x + 1" = .ok t ∧ t.fault = none ∧
      (∀ groups context j, ∃ sql, (t.toSql groups context j).2 = .ok sql) ∧
      ∃ rule, t.rule? = some rule ∧ t.dataType = some rule.result ∧
        ∀ index, .child index ∈ rule.template →
          ∃ operand, 0 < index ∧ t.children[index - 1]? = some operand := by
  let schema : Schema := ⟨{}, .ofList [("x", ⟨"x", .int, some "42", none, none⟩)]⟩
  have hsome : (compile schema "x + 1").toOption.map (fun t => (t.head, signature? t.children)) =
      some (.binary .add, some [.int, .int]) := by decide +kernel
  obtain ⟨t, ht, hview⟩ := exists_of_toOption_map_eq_some hsome
  obtain ⟨hhead, htypes⟩ := Prod.mk.inj hview
  have hruled : t.head.isRuled = true := by rw [hhead]; rfl
  have hjudged := (Constructed.compiled ht).judged
  have hvalid : t.fault = none := by
    refine hjudged.fault_eq_none_of_provides hruled htypes ?_
    rw [nodeType, hhead]
    decide +kernel
  refine ⟨schema, t, ht, hvalid, fun groups context j => ?_, ?_⟩
  · obtain ⟨hsql, hcheck, -⟩ := toSql_eq_ok_iff (.compiled ht) groups context j
    exact hsql.mpr (hcheck.mpr hvalid)
  · obtain ⟨-, -, -, hnodes⟩ := toSql_eq_ok_iff (.compiled ht) {} none {}
    obtain ⟨rule, hrule, htype, hindex, -⟩ := hnodes t List.mem_cons_self hvalid hruled
    exact ⟨rule, hrule, htype, hindex⟩

end Term
end QueryExpr
