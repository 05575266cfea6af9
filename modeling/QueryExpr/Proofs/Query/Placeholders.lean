import QueryExpr.Proofs.Query.Refusals

/-!
# What placeholders stand for

The SQL of a field and the condition that joins a group have placeholders for the aliases of tables. This
module shows what is put in for them. In the SQL of a field it is the alias of the path that the field is
reached from, and in a condition it is the alias of the path that is joined and that of the path before
it. Each of these aliases stands for its path (`Joins.StandsFor`): there is exactly one table with the
alias, the path leads to this table, and no other path has the alias.

There is one exception. A group without a table cannot be joined, but a field that refers to it may have a
condition all the same, and then the alias that comes next is put in, although the path does not get it.

Conditions come in by registering paths, one at a time and each after the path before it, so it is enough
to see what one new path brings (`Joins.Extends.enter`).
-/

namespace QueryExpr

/-! ### Aliases that stand for paths -/

namespace Joins

/-- The alias stands for the path: the path has it and no other path does, and there is exactly one table
with the alias, which is the one that the path leads to. -/
structure StandsFor (schema : Schema) (j : Joins) (label path : String) : Prop where
  own : j.aliases.get? path = some (some label)
  only : ∀ path', j.aliases.get? path' = some (some label) → path' = path
  table : ∃ (i : Nat) (entry : Table), j.tables.values[i]? = some entry ∧
    schema.tableAt? path = some entry.name ∧
    ∀ (i' : Nat) (entry' : Table), j.tables.values[i']? = some entry' →
      (entry'.label = some label ↔ i' = i)

/-- The alias that a path is reached from stands for the path before it. -/
def ParentStands (schema : Schema) (j : Joins) (path : String) : Prop :=
  ∀ label, j.parentAlias? path = some label →
    ∃ front name, '.' ∉ name.toList ∧ path = front ++ "." ++ name ∧ j.StandsFor schema label front

section Stands

variable {schema : Schema} {j : Joins}

theorem Registered.standsFor (h : j.Registered schema) {label path : String}
    (hget : j.aliases.get? path = some (some label)) : j.StandsFor schema label path := by
  obtain ⟨i, entry, field, rfl, hentry, hfield, htable⟩ := h.exists_of_get? hget
  have hlt : i < j.tables.size := by
    rw [← OrderedMap.length_values]
    exact (List.getElem?_eq_some_iff.mp hentry).1
  obtain ⟨path₀, -, huniq⟩ := h.once i hlt
  refine ⟨hget, fun path' hget' => ?_, i, entry, hentry, ?_, fun i' entry' hentry' => ?_⟩
  · rw [huniq path' hget', huniq path hget]
  · rw [Schema.tableAt?, hfield, Option.bind_some, htable]
  · rw [h.label_of_values hentry', Option.some_inj]
    exact ⟨aliasAt_inj, congrArg aliasAt⟩

theorem Registered.parentStands (h : j.Registered schema) (path : String) :
    j.ParentStands schema path := by
  intro label hlabel
  rcases exists_path_eq path with hname | ⟨front, name, hname, rfl⟩
  · rw [parentAlias?_of_not_mem hname] at hlabel
    cases hlabel
  · rw [parentAlias?_append front hname, Option.join_eq_some_iff] at hlabel
    exact ⟨front, name, hname, rfl, h.standsFor hlabel⟩

/-- A registered path has an alias exactly if it leads to a table. -/
theorem Registered.isSome_tableAt?_iff (h : j.Registered schema) {path : String} {own : Option String}
    (hget : j.aliases.get? path = some own) :
    (schema.tableAt? path).isSome = true ↔ own.isSome = true := by
  obtain ⟨field, hfield, hmatches⟩ := h.path path own hget
  rw [Schema.tableAt?, hfield, Option.bind_some, Option.isSome_iff_ne_none, Option.isSome_iff_ne_none,
    ne_eq, ne_eq, hmatches.eq_none_iff]

/-- A path that comes in new changes nothing about where the paths are reached from. -/
theorem parentAlias?_enter (h : j.Registered schema) {path : String}
    (hfree : j.aliases.get? path = none) (groups : Groups) (field : Field) (comment : String)
    (master : Option String) {path' : String}
    (hpath' : path' = path ∨ (j.aliases.get? path').isSome = true) :
    (j.enter groups path field comment master).1.parentAlias? path' = j.parentAlias? path' := by
  refine parentAlias?_congr fun front back heq => ?_
  have hne : front ≠ path := by
    rintro rfl
    rcases hpath' with rfl | hsome
    · exact append_dot_ne _ back heq
    · -- what a registered path goes through is registered
      have hfront := h.closed front back (heq ▸ hsome)
      rw [hfree] at hfront
      cases hfront
  rw [get?_aliases_enter, if_neg hne]

end Stands

/-! ### Conditions that paths bring -/

/-- The condition joins a path that is new since, with the alias of the path before it and another one
put in: the alias of the path, unless it has none. -/
def Brings (schema : Schema) (before after : Joins) (condition : String) : Prop :=
  ∃ path label field template own, before.aliases.get? path = none ∧
    schema.fieldAt? path = some field ∧ field.join = some template ∧
    condition = instantiate template (after.parentAlias? path) label ∧
    after.aliases.get? path = some own ∧ (own = some label ∨ own = none)

/-- The paths of before are still there, and all new conditions are brought by new paths. -/
structure Extends (schema : Schema) (before j : Joins) : Prop where
  aliases : ∀ path label, before.aliases.get? path = some label → j.aliases.get? path = some label
  conditions : ∀ condition ∈ j.conditions.keys,
    condition ∈ before.conditions.keys ∨ Brings schema before j condition

section Extends

variable {schema : Schema} {before j : Joins}

theorem extends_self (schema : Schema) (j : Joins) : Extends schema j j where
  aliases := fun _ _ hget => hget
  conditions := fun _ hmem => .inl hmem

/-- **What a new path brings.** -/
theorem Extends.enter (h : Extends schema before j) (hj : j.Registered schema) {path : String}
    {field : Field} (hfree : j.aliases.get? path = none) (hfield : schema.fieldAt? path = some field)
    (comment : String) :
    Extends schema before
      (j.enter schema.groups path field comment (j.parentAlias? path)).1 where
  aliases := by
    intro path' label hget
    have hget' := h.aliases path' label hget
    have hne : path' ≠ path := by
      rintro rfl
      rw [hfree] at hget'
      cases hget'
    rw [get?_aliases_enter, if_neg hne, hget']
  conditions := by
    intro condition hmem
    have hown := get?_aliases_enter schema.groups path field comment (j.parentAlias? path) j
    rw [mem_conditions_enter] at hmem
    rcases hmem with hmem | ⟨template, htemplate, rfl⟩
    · -- a condition of an earlier path: its parent has kept its alias
      refine (h.conditions condition hmem).imp_right ?_
      rintro ⟨path', label, field', template, own, hnew, hfield', htemplate, rfl, hget, hlabel⟩
      have hne : path' ≠ path := by
        rintro rfl
        rw [hfree] at hget
        cases hget
      refine ⟨path', label, field', template, own, hnew, hfield', htemplate, ?_, ?_, hlabel⟩
      · rw [parentAlias?_enter hj hfree _ _ _ _ (.inr (by rw [hget]; rfl))]
      · rw [hown, if_neg hne, hget]
    · -- the condition of the path itself
      have hnew : before.aliases.get? path = none := by
        rw [Option.eq_none_iff_forall_ne_some]
        intro label hget
        rw [h.aliases path label hget] at hfree
        cases hfree
      refine .inr ⟨path, j.nextAlias, field, template, _, hnew, hfield, htemplate, ?_,
        (hown path).trans (if_pos rfl), ?_⟩
      · rw [parentAlias?_enter hj hfree _ _ _ _ (.inl rfl)]
      · cases hsnd : (j.enter schema.groups path field comment (j.parentAlias? path)).2 with
        | none => exact .inr rfl
        | some label => exact .inl (congrArg some (eq_nextAlias_of_enter hsnd))

/-- Registering a reference brings in new paths only, each after the one before it. -/
theorem Extends.register {t : Term} (ht : Resolved schema t) (hj : j.Registered schema)
    (h : Extends schema before j) : Extends schema before (t.register schema.groups j).1 := by
  -- only a member has something to register
  induction ht using Resolved.path_induction generalizing j with
  | root identifier content name => exact h
  | @member parent _ field front identifier content _ _ part horigin _ hfront ih =>
    rw [register_member hfront identifier field content horigin]
    by_cases hget : (j.aliases.get? front).isSome = true
    · rw [if_pos hget]
      exact h
    · rw [if_neg hget, snd_register part hfront]
      obtain ⟨hparent, hreaches⟩ := hj.register part fun _ _ hpath => hpath
      have hlength : pathLength parent = front.toList.length := by
        rw [pathLength, hfront, Option.getD_some]
      have hfree : (parent.register schema.groups j).1.aliases.get? front = none := by
        rw [hreaches.frame front (Nat.le_of_eq hlength), Option.not_isSome_iff_eq_none.mp hget]
      exact (ih hj h).enter hparent hfree (fieldAt?_of_resolved part hfront horigin) _
  | other t _ hother =>
    rw [register_of_isField_eq_false hother]
    exact h

/-- **Registering several references**: afterwards all that they go through is there, and all that has
come in are new paths with their conditions. -/
theorem Extends.registerAll {refs : List Term} (hrefs : ∀ ref ∈ refs, Resolved schema ref)
    (hj : j.Registered schema) (h : Extends schema before j) :
    (refs.foldl (fun j ref => (ref.register schema.groups j).1) j).Registered schema ∧
    Extends schema before (refs.foldl (fun j ref => (ref.register schema.groups j).1) j) ∧
    ∀ path, ∀ ref ∈ refs, ref.GoesThrough path →
      ((refs.foldl (fun j ref => (ref.register schema.groups j).1) j).aliases.get? path).isSome =
        true := by
  induction refs generalizing j before with
  | nil => exact ⟨hj, h, fun path ref href => nomatch href⟩
  | cons ref refs ih =>
    have hfirst := hrefs ref List.mem_cons_self
    have hrest : ∀ r ∈ refs, Resolved schema r := fun r hr => hrefs r (List.mem_cons_of_mem ref hr)
    obtain ⟨hregistered, hreaches⟩ := hj.register hfirst fun _ _ hpath => hpath
    obtain ⟨hfinal, hextends, hthrough⟩ := ih hrest hregistered (h.register hfirst hj)
    refine ⟨hfinal, hextends, fun path r hr hgoes => ?_⟩
    rcases List.mem_cons.mp hr with rfl | hr
    · -- what the first reference goes through is not lost with the others
      obtain ⟨rest, hpath⟩ := hgoes
      have hsome := hregistered.closed_of_reaches hfirst hreaches hpath path rest rfl
      obtain ⟨label, hlabel⟩ := Option.isSome_iff_exists.mp hsome
      rw [List.foldl_cons, (ih hrest hregistered (extends_self schema _)).2.1.aliases path label hlabel]
      rfl
    · exact hthrough path r hr hgoes

end Extends

end Joins

/-! ### References -/

namespace Term

/-- The SQL of a reference, with this alias put in. -/
def sqlAt (t : Term) (label : Option String) : String :=
  match t.head with
  | .field identifier field => t.fieldSql identifier field t.slots.head? label
  | _ => ""

theorem emit_of_isField {t : Term} (h : t.head.isField = true) (groups : Groups) (j : Joins) :
    t.emit groups j = ((t.register groups j).1, .ok (t.sqlAt (t.register groups j).2)) := by
  obtain ⟨head, verdict, content, slots⟩ := t
  cases head with
  | field identifier field => rfl
  | _ => cases h

theorem isField_of_fullIdentifier? {t : Term} {path : String} (h : t.fullIdentifier? = some path) :
    t.head.isField = true := by
  obtain ⟨head, verdict, content, slots⟩ := t
  cases head with
  | field identifier field => rfl
  | _ => cases h

/-- **The SQL of a reference whose path is registered** has the alias that the path is reached from. -/
theorem emit_of_goesThrough {schema : Schema} {t : Term} (ht : Resolved schema t) {path : String}
    (hpath : t.fullIdentifier? = some path) (groups : Groups) {j : Joins}
    (h : ∀ front, t.GoesThrough front → (j.aliases.get? front).isSome = true) :
    t.emit groups j = (j, .ok (t.sqlAt (j.parentAlias? path))) := by
  have hself := Joins.register_eq_self ht groups h
  have hlabel := Joins.snd_register ht hpath groups j
  rw [emit_of_isField (isField_of_fullIdentifier? hpath), hlabel, hself]

end Term

/-! ### Steps -/

namespace Query

/-- The step asks for an expression or a variable. -/
def Op.isAsking : Op → Bool
  | .select _ _ _ | .require _ | .order _ _ _ | .register _ => true
  | _ => false

/-- Such a step is orderly, and leaves the variables alone. -/
theorem Op.isOrderly_of_isAsking {op : Op} (h : op.isAsking = true) (groups : Groups) (q : Query) :
    op.IsOrderly groups q ∧ op.vars q.vars = q.vars := by
  cases op with
  | select _ _ _ | require _ | order _ _ _ | register _ => exact ⟨trivial, rfl⟩
  | _ => cases h

/-- Only the conditions may change when SQL is taken in. -/
theorem Op.aliases_takeIn (op : Op) (t : Term) (sql : String) (q : Query) :
    (op.takeIn t sql q).joins.aliases = q.joins.aliases := by
  cases op with
  | select _ _ aggregate => cases aggregate <;> rfl
  | _ => rfl

section Steps

variable {groups : Groups} {q : Query} {t : Term} {op : Op} {source clause : String}

theorem fieldRefs_view (op : Op) (t : Term) : (op.view t).fieldRefs = t.fieldRefs := by
  cases op with
  | require _ => exact fieldRefs_asCondition
  | _ => rfl

/-- Counting needs no table. -/
theorem joins_count (groups : Groups) (q : Query) (source : String) (label : Option String) :
    (q.selectAggregate groups source label .count).1.joins = q.joins := by
  unfold selectAggregate
  split <;> rfl

variable (hq : q.joins.Registered (q.scope groups))

include hq

/-- The tables of an expression that is compiled for the query. -/
theorem registerRefs_extends (ht : compile (q.scope groups) source = .ok t) :
    (registerRefs groups t q.joins).Registered (q.scope groups) ∧
    Joins.Extends (q.scope groups) q.joins (registerRefs groups t q.joins) ∧
    ∀ path, ∀ ref ∈ t.fieldRefs, ref.GoesThrough path →
      ((registerRefs groups t q.joins).aliases.get? path).isSome = true :=
  (Joins.extends_self (q.scope groups) q.joins).registerAll
    (resolved_of_mem_fieldRefs (resolved_of_compile ht)) hq

/-- A variable has no path before it, so what it brings is what a new path brings. -/
theorem register_extends
    (hdotless : ∀ name field, q.vars.get? name = some field → '.' ∉ name.toList) (name : String) :
    Joins.Extends (q.scope groups) q.joins (q.register groups name).1.joins := by
  unfold Query.register
  split
  · exact Joins.extends_self _ _
  · next field hfield =>
    have hname := hdotless name field hfield
    split
    · exact Joins.extends_self _ _
    · next hfree =>
      have henter := (Joins.extends_self (q.scope groups) q.joins).enter hq hfree
        ((fieldAt?_of_not_mem hname).trans hfield) name
      rw [Joins.parentAlias?_of_not_mem hname] at henter
      exact henter

/-- **An expression that is taken in**: its SQL is made when all its tables are there. -/
theorem Op.run_of_taken (hsource : op.source? = some (source, clause))
    (h : op.refusal? groups q = none) :
    ∃ t sql, compileValid (q.scope groups) source (some clause) = .ok t ∧
      (op.view t).toSql groups (some clause) (registerRefs groups t q.joins) =
        (registerRefs groups t q.joins, .ok sql) ∧
      op.run groups q = op.takeIn t sql { q with joins := registerRefs groups t q.joins } := by
  have houtcome : op.Outcome groups q source clause (op.run groups q) (op.refusal? groups q) :=
    Op.outcome hsource
  rw [h] at houtcome
  generalize op.run groups q = q' at houtcome ⊢
  cases houtcome with
  | @taken t q' sql fit compiled suited emitted =>
    have ht := (compile_of_compileValid compiled).1
    have hjoins := joins_toSql (fieldRefs_view op t) (resolved_of_mem_fieldRefs (resolved_of_compile ht))
      (registerRefs_extends hq ht).2.2 (some clause)
    obtain ⟨rfl, hsql⟩ := toSql_of_emit emitted
    refine ⟨t, sql, compiled, Prod.ext hjoins hsql, ?_⟩
    dsimp only
    rw [hjoins]

/-- The condition is the one that the step requires. -/
def Op.Requires (groups : Groups) (q : Query) (op : Op) (condition : String) : Prop :=
  ∃ source t sql, op = .require source ∧
    compileValid (q.scope groups) source (some "where") = .ok t ∧
    (asCondition t).toSql groups (some "where") (registerRefs groups t q.joins) =
      (registerRefs groups t q.joins, .ok sql) ∧
    condition = sql ++ " = 1"

/-- **Where conditions come from**: a step brings the conditions of paths, and the one that it requires. -/
theorem Op.conditions_run (hop : op.isAsking = true)
    (hdotless : ∀ name field, q.vars.get? name = some field → '.' ∉ name.toList) (condition : String)
    (hmem : condition ∈ (op.run groups q).joins.conditions.keys) :
    condition ∈ q.joins.conditions.keys ∨ op.Requires groups q condition ∨
      Joins.Brings (q.scope groups) q.joins (op.run groups q).joins condition := by
  -- what the step has to do with an expression is settled by what comes of it
  cases hsource : op.source? with
  | some taken =>
    obtain ⟨source, clause⟩ := taken
    cases hrefusal : op.refusal? groups q with
    | none =>
      obtain ⟨t, sql, ht, hsql, hrun⟩ := Op.run_of_taken hq hsource hrefusal
      have hextends := (registerRefs_extends hq (compile_of_compileValid ht).1).2.1
      rw [hrun] at hmem ⊢
      cases op with
      | select _ label aggregate =>
        cases aggregate with
        | none => exact (hextends.conditions condition hmem).imp_right .inr
        | some how => exact (hextends.conditions condition hmem).imp_right .inr
      | order _ dir nulls => exact (hextends.conditions condition hmem).imp_right .inr
      | require source' =>
        cases hsource
        rcases (OrderedMap.mem_keys_insertNew _ _ _ _).mp hmem with hmem | rfl
        · exact (hextends.conditions condition hmem).imp_right .inr
        · exact .inr (.inl ⟨source, t, sql, rfl, ht, hsql, rfl⟩)
      | _ => cases hsource
    | some error =>
      have hjudged : ∀ t context, op = .emit t context → t.Judged := by
        rintro t context rfl
        cases hop
      rcases Op.refused_cases hjudged hrefusal with ⟨hrun, -⟩ | ⟨_, _, _, t, -, ht, -, hrun⟩
      · rw [hrun] at hmem
        exact .inl hmem
      · have hextends := (registerRefs_extends hq (compile_of_compileValid ht).1).2.1
        rw [hrun] at hmem ⊢
        exact (hextends.conditions condition hmem).imp_right .inr
  | none =>
    cases op with
    | select source label aggregate =>
      cases aggregate with
      | none => cases hsource
      | some how =>
        cases how with
        | count =>
          change condition ∈ (q.selectAggregate groups source label .count).1.joins.conditions.keys at hmem
          rw [joins_count] at hmem
          exact .inl hmem
        | _ => cases hsource
    | register name =>
      exact ((register_extends hq hdotless name).conditions condition hmem).imp_right .inr
    | require _ | order _ _ _ => cases hsource
    | _ => cases hop

end Steps

/-- **Aliases that are put in for placeholders stand for their paths.** Every condition that a step adds,
apart from the one that it requires, joins a path that has come in with the step. The alias in it for the
path before stands for the path before, and the other one stands for the path itself, exactly if the path
leads to a table. The SQL of an expression that a step takes in is made when all tables of the expression
are there, and the alias in the SQL of each reference stands for the path before the reference. -/
theorem placeholders_stand_for_paths {groups : Groups} {q q' : Query} {op : Op}
    (hgrows : q.Grows groups) (hop : op.isAsking = true) (hrun : op.run groups q = q') :
    (∀ condition ∈ q'.joins.conditions.keys,
      condition ∈ q.joins.conditions.keys ∨ op.Requires groups q condition ∨
      ∃ path label field template, q.joins.aliases.get? path = none ∧
        (q.scope groups).fieldAt? path = some field ∧ field.join = some template ∧
        condition = Text.replaceAll "{d}" label ((q'.joins.parentAlias? path).elim template
          fun master => Text.replaceAll "{m}" master template) ∧
        q'.joins.ParentStands (q.scope groups) path ∧
        (q'.joins.StandsFor (q.scope groups) label path ↔
          ((q.scope groups).tableAt? path).isSome = true)) ∧
    ∀ source clause, op.source? = some (source, clause) → op.refusal? groups q = none →
      ∃ t sql j, compileValid (q.scope groups) source (some clause) = .ok t ∧
        j = registerRefs groups t q.joins ∧ q' = op.takeIn t sql { q with joins := j } ∧
        (op.view t).toSql groups (some clause) j = (j, .ok sql) ∧
        ∀ ref ∈ (op.view t).fieldRefs, ∀ path, ref.fullIdentifier? = some path →
          ref.emit groups j = (j, .ok (ref.sqlAt (q'.joins.parentAlias? path))) ∧
          q'.joins.ParentStands (q.scope groups) path := by
  obtain ⟨hdotless, hq⟩ := hgrows.registered
  -- the state behind the step is as orderly as the one before it
  have hq' : q'.joins.Registered (q.scope groups) := by
    obtain ⟨horderly, hvars⟩ := Op.isOrderly_of_isAsking hop groups q
    have hstep := (Grows.step op horderly hgrows).registered.2
    rw [op.vars_run, hvars, hrun] at hstep
    exact hstep
  refine ⟨fun condition hmem => ?_, fun source clause hsource hrefusal => ?_⟩
  · -- a condition that is new is required, or comes from the path that it was instantiated for
    rw [← hrun] at hmem
    refine (Op.conditions_run hq hop hdotless condition hmem).imp_right (.imp_right ?_)
    rw [hrun]
    rintro ⟨path, label, field, template, own, hnew, hfield, htemplate, hcondition, hget, hown⟩
    rw [Joins.instantiate_eq] at hcondition
    refine ⟨path, label, field, template, hnew, hfield, htemplate, hcondition, hq'.parentStands path,
      fun hstands => ?_, fun htable => ?_⟩
    · -- an alias that stands for a path has its table
      obtain ⟨i, entry, -, htable, -⟩ := hstands.table
      rw [htable]
      rfl
    · -- a path with a table has an alias of its own, the one that was put in
      rcases hown with rfl | rfl
      · exact hq'.standsFor hget
      · cases (hq'.isSome_tableAt?_iff hget).mp htable
  · obtain ⟨t, sql, ht, hsql, htaken⟩ := Op.run_of_taken hq hsource hrefusal
    have hcompile := (compile_of_compileValid ht).1
    refine ⟨t, sql, _, ht, rfl, hrun.symm.trans htaken, hsql, fun ref href path hpath => ?_⟩
    rw [fieldRefs_view] at href
    -- taking the expression in does not change the aliases
    have hparent : q'.joins.parentAlias? path = (registerRefs groups t q.joins).parentAlias? path := by
      rw [← hrun, htaken, Joins.parentAlias?, Op.aliases_takeIn]
      rfl
    rw [hparent]
    refine ⟨?_, hq'.parentStands path⟩
    exact Term.emit_of_goesThrough (resolved_of_mem_fieldRefs (resolved_of_compile hcompile) ref href)
      hpath groups fun front => (registerRefs_extends hq hcompile).2.2 front ref href

/-- A second reference along a path that is known in part: its condition has the alias of the path before,
which was there, and a new one. -/
theorem placeholders_stand_for_paths_boss :
    ∃ groups q q' op, Grows groups q ∧ Op.isAsking op = true ∧ op.run groups q = q' ∧
      op.source? = some ("p.boss.boss.name", "select") ∧ op.refusal? groups q = none ∧
      q'.joins.aliases.entries = [("p", some "t1"), ("p.boss", some "t2"), ("p.boss.boss", some "t3")] ∧
      "t2.boss = t3.id" ∈ q'.joins.conditions.keys ∧
      (∃ path label, q.joins.aliases.get? path = none ∧ q'.joins.ParentStands (q.scope groups) path ∧
        (q'.joins.StandsFor (q.scope groups) label path ↔
          ((q.scope groups).tableAt? path).isSome = true)) ∧
      ∃ t sql, compileValid (q.scope groups) "p.boss.boss.name" (some "select") = .ok t ∧
        q' = op.takeIn t sql { q with joins := registerRefs groups t q.joins } := by
  let boss : Field := ⟨"boss", .str, some "\x7ba\x7d.boss", some "\x7bm\x7d.boss = \x7bd\x7d.id",
    some ⟨"person", 0⟩⟩
  let name : Field := ⟨"name", .str, some "\x7ba\x7d.name", none, none⟩
  let groups : Groups :=
    ⟨1, .ofList [("person", 0, ⟨some "person", .ofList [("boss", boss), ("name", name)]⟩)]⟩
  let vars : Vars := .ofList [("p", boss)]
  have hdotless : ∀ name field, vars.get? name = some field → '.' ∉ name.toList := by
    intro name field hget
    obtain rfl : name = "p" := List.mem_singleton.mp (OrderedMap.mem_keys_of_get? hget)
    decide
  let q : Query := Op.run groups (.ofVars vars) (.select "p.boss.name" none none)
  let op : Op := .select "p.boss.boss.name" none none
  have hgrows : Grows groups q := .step _ trivial (.start vars hdotless)
  have hrefusal : op.refusal? groups q = none := by decide +kernel
  have haliases : (op.run groups q).joins.aliases.entries =
      [("p", some "t1"), ("p.boss", some "t2"), ("p.boss.boss", some "t3")] := by decide +kernel
  have hmem : "t2.boss = t3.id" ∈ (op.run groups q).joins.conditions.keys := by decide +kernel
  have hnew : "t2.boss = t3.id" ∉ q.joins.conditions.keys := by decide +kernel
  obtain ⟨hconditions, htaken⟩ := placeholders_stand_for_paths hgrows (rfl : op.isAsking = true) rfl
  obtain ⟨t, sql, _, ht, rfl, hrun, -⟩ := htaken _ _ rfl hrefusal
  refine ⟨groups, q, _, op, hgrows, rfl, rfl, rfl, hrefusal, haliases, hmem, ?_, t, sql, ht, hrun⟩
  -- the condition is new and was not required, so it was instantiated
  rcases hconditions _ hmem with hold | ⟨_, _, _, hop, -⟩ | hbrought
  · exact absurd hold hnew
  · change Op.select _ _ _ = _ at hop
    cases hop
  · obtain ⟨path, label, _, _, hfree, -, -, -, hparent, hstands⟩ := hbrought
    exact ⟨path, label, hfree, hparent, hstands⟩

/-- A variable that refers to a group without a table, with a condition for joining it: there is no table
with the alias in the condition, and later it is the alias of another variable. -/
theorem placeholder_of_missing_table :
    ∃ (d : SchemaDef) (schema : Schema) (q q' : Query), d.build = .ok schema ∧
      (Op.register "v").run schema.groups (.ofVars schema.vars) = q ∧
      (Op.register "p").run schema.groups q = q' ∧
      q.joins.conditions.keys = ["t1.id = 1"] ∧ q.joins.tables.values = [] ∧
      q'.joins.conditions.keys = ["t1.id = 1"] ∧
      q'.joins.aliases.entries = [("v", none), ("p", some "t1")] := by
  let d : SchemaDef :=
    { groups := .ofList [("request", {}), ("person", { tableSql := some "person" })]
      vars := .ofList [("v", { type := "int", join := some "\x7bd\x7d.id = 1", ref := some "request" }),
        ("p", { type := "int", ref := some "person" })] }
  let schema : Schema :=
    { groups := ⟨2, .ofList [("request", 0, {}), ("person", 1, { tableSql := some "person" })]⟩
      vars := .ofList [("v", ⟨"v", .int, none, some "\x7bd\x7d.id = 1", some ⟨"request", 0⟩⟩),
        ("p", ⟨"p", .int, none, none, some ⟨"person", 1⟩⟩)] }
  exact ⟨d, schema, _, _, by decide +kernel, rfl, rfl, by decide +kernel, by decide +kernel,
    by decide +kernel, by decide +kernel⟩

end Query

end QueryExpr
