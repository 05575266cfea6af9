import QueryExpr.Proofs.Query.Aliases
import QueryExpr.Proofs.Sql.Emission
import QueryExpr.Proofs.Text.Search

/-!
# The tables that a query needs

The references of an expression need the tables that their paths go through, and nothing else. A query
comes to the tables that its expressions need one expression after the other, and paths that are there
already are not entered again. This module shows that in the end exactly the needed paths are
registered, each with its table and with the condition that joins it to the path before
(`Joins.Serves`).

Registering a reference adds what it goes through (`Serves.register`), so an expression adds what it
needs, and emitting its SQL afterwards finds everything in place (`joins_toSql`). What is needed does not
depend on what was there before; hence the order in which things are asked for does not matter to the
tables, only to their aliases.
-/

namespace QueryExpr

/-! ### Paths and what they go through -/

/-- A path is a name, or a name after another path. -/
theorem exists_path_eq (path : String) :
    '.' ∉ path.toList ∨ ∃ front name : String, '.' ∉ name.toList ∧ path = front ++ "." ++ name := by
  by_cases hdot : '.' ∈ path.toList
  · obtain ⟨back, front, hpath, hback⟩ :=
      List.eq_append_cons_of_mem (List.mem_reverse.mpr hdot)
    refine .inr ⟨.ofList front.reverse, .ofList back.reverse, by simpa using hback, ?_⟩
    rw [← String.toList_inj, ← List.reverse_reverse path.toList, hpath]
    simp
  · exact .inl hdot

theorem append_dot_ne (path rest : String) : path ≠ path ++ "." ++ rest := by
  intro h
  have hlength := congrArg (fun s : String => s.toList.length) h
  simp only [String.toList_append, List.length_append] at hlength
  have hone : ".".toList.length = 1 := rfl
  omega

/-- The table of the group that the field at the end of a path refers to. -/
def Schema.tableAt? (schema : Schema) (path : String) : Option String :=
  (schema.fieldAt? path).bind fun field => (schema.groups.target? field).bind Group.tableSql

namespace Term

/-- The path of the reference begins with this path and goes on. -/
def GoesThrough (t : Term) (path : String) : Prop :=
  ∃ rest, t.fullIdentifier? = some (path ++ "." ++ rest)

theorem not_goesThrough_of_not_mem {t : Term} {name : String} (h : t.fullIdentifier? = some name)
    (hname : '.' ∉ name.toList) (path : String) : ¬ t.GoesThrough path := by
  rintro ⟨rest, hpath⟩
  rw [h] at hpath
  rw [Option.some.inj hpath] at hname
  exact hname (by simp)

/-- A reference to a field of a group goes through the path before it, and through what this path goes
through. -/
theorem goesThrough_member {parent : Term} {front : String}
    (hfront : parent.fullIdentifier? = some front)
    {identifier : String} (hname : '.' ∉ identifier.toList) (field : Option Field)
    (content : List Fragment) (path : String) :
    (Term.make (.field identifier field) content [parent]).GoesThrough path ↔
      path = front ∨ parent.GoesThrough path := by
  rw [GoesThrough, GoesThrough, Term.make, fullIdentifier?, hfront, Option.getD_some]
  constructor
  · rintro ⟨rest, hrest⟩
    have hlists : front.toList ++ '.' :: identifier.toList = path.toList ++ '.' :: rest.toList := by
      simpa using congrArg String.toList (Option.some.inj hrest)
    -- the identifier has no dot, so the cut is at the last dot of the path or inside what stands before
    -- it
    rcases Text.eq_or_eq_append_of_append_eq hname hlists with ⟨hpath, -⟩ | ⟨zs, hzs, -⟩
    · exact .inl (String.toList_inj.mp hpath)
    · refine .inr ⟨String.ofList zs, congrArg some ?_⟩
      rw [← String.toList_inj, hzs]
      simp
  · rintro (rfl | ⟨rest, hrest⟩)
    · exact ⟨identifier, rfl⟩
    · refine ⟨rest ++ "." ++ identifier, congrArg some ?_⟩
      rw [Option.some.inj hrest]
      simp only [String.append_assoc]

end Term

/-! ### Conditions that join tables -/

namespace OrderedMap

theorem mem_keys_insertNew {κ ν : Type} [DecidableEq κ] (m : OrderedMap κ ν) (k : κ) (v : ν) (k' : κ) :
    k' ∈ (m.insertNew k v).keys ↔ k' ∈ m.keys ∨ k' = k := by
  rw [insertNew]
  split
  · next hcontains =>
    have hk := (contains_iff_mem_keys m k).mp hcontains
    exact ⟨.inl, fun h => h.elim id fun heq => heq ▸ hk⟩
  · next hcontains =>
    rw [keys_insert, if_neg fun hk => hcontains ((contains_iff_mem_keys m k).mpr hk), List.mem_append,
      List.mem_singleton]

end OrderedMap

namespace Joins

/-- The alias of the path that a path is reached from. -/
def parentAlias? (j : Joins) (path : String) : Option String :=
  (Text.cutLast '.' path.toList).bind fun cut => (j.aliases.get? (String.ofList cut.1)).join

/-- The alias of a path is put in for one placeholder, and that of the path before it for the other, if it
has one. -/
theorem instantiate_eq (template : String) (master : Option String) (label : String) :
    instantiate template master label = Text.replaceAll "{d}" label
      (master.elim template fun before => Text.replaceAll "{m}" before template) := by
  cases master <;> rfl

/-- The condition that joins the table of a path to the one before is there. -/
def Joined (schema : Schema) (j : Joins) : Prop :=
  ∀ path label field template, j.aliases.get? path = some (some label) →
    schema.fieldAt? path = some field → field.join = some template →
    instantiate template (j.parentAlias? path) label ∈ j.conditions.keys

section Conditions

variable {schema : Schema} {j : Joins}

theorem parentAlias?_of_not_mem {path : String} (h : '.' ∉ path.toList) :
    j.parentAlias? path = none := by
  rw [parentAlias?, Text.cutLast_of_not_mem h, Option.bind_none]

theorem parentAlias?_append (front : String) {name : String} (h : '.' ∉ name.toList) :
    j.parentAlias? (front ++ "." ++ name) = (j.aliases.get? front).join := by
  have htext : (front ++ "." ++ name).toList = front.toList ++ '.' :: name.toList := by simp
  rw [parentAlias?, htext, Text.cutLast_append h, Option.bind_some, String.ofList_toList]

/-- Only the paths that a path goes through matter to the alias that it is reached from. -/
theorem parentAlias?_congr {j' : Joins} {path : String}
    (h : ∀ front back, path = front ++ "." ++ back → j'.aliases.get? front = j.aliases.get? front) :
    j'.parentAlias? path = j.parentAlias? path := by
  rcases exists_path_eq path with hname | ⟨front, name, hname, rfl⟩
  · rw [parentAlias?_of_not_mem hname, parentAlias?_of_not_mem hname]
  · rw [parentAlias?_append front hname, parentAlias?_append front hname, h front name rfl]

/-- The conditions after a path is registered: the one that joins it comes in. -/
theorem mem_conditions_enter (groups : Groups) (path : String) (field : Field) (comment : String)
    (master : Option String) (j : Joins) (condition : String) :
    condition ∈ (j.enter groups path field comment master).1.conditions.keys ↔
      condition ∈ j.conditions.keys ∨
        ∃ template, field.join = some template ∧
          condition = instantiate template master j.nextAlias := by
  cases hjoin : field.join with
  -- the table of the target does not matter to the conditions
  | none =>
    have hconditions : (j.enter groups path field comment master).1.conditions = j.conditions := by
      unfold enter
      rw [hjoin]
      cases (groups.target? field).bind Group.tableSql <;> rfl
    rw [hconditions]
    simp
  | some template =>
    have hconditions : (j.enter groups path field comment master).1.conditions =
        (j.addCondition (instantiate template master j.nextAlias) (some comment)).conditions := by
      unfold enter
      rw [hjoin]
      cases (groups.target? field).bind Group.tableSql <;> rfl
    rw [hconditions]
    simp [addCondition, OrderedMap.mem_keys_insertNew]

theorem eq_nextAlias_of_enter {groups : Groups} {path : String} {field : Field} {comment : String}
    {master : Option String} {label : String}
    (h : (j.enter groups path field comment master).2 = some label) : label = j.nextAlias := by
  obtain ⟨conditions, henter⟩ := exists_enter_eq groups path field comment master j
  rw [henter] at h
  split at h
  · cases h
  · exact (Option.some.inj h).symm

/-- **A path that is new brings the condition that joins it.** -/
theorem Joined.enter (h : j.Joined schema) (hj : j.Registered schema) {path : String} {field : Field}
    (hfree : j.aliases.get? path = none) (hfield : schema.fieldAt? path = some field)
    (comment : String) :
    (j.enter schema.groups path field comment (j.parentAlias? path)).1.Joined schema := by
  intro path' label field' template hget hfield' htemplate
  rw [mem_conditions_enter]
  have hkeep : ∀ front, front ≠ path →
      (j.enter schema.groups path field comment (j.parentAlias? path)).1.aliases.get? front =
        j.aliases.get? front := by
    intro front hne
    rw [get?_aliases_enter, if_neg hne]
  by_cases heq : path' = path
  · subst heq
    rw [get?_aliases_enter, if_pos rfl] at hget
    obtain rfl := Option.some.inj (hfield.symm.trans hfield')
    refine .inr ⟨template, htemplate, ?_⟩
    rw [eq_nextAlias_of_enter (Option.some.inj hget)]
    congr 1
    -- the paths that the new one goes through are shorter
    refine parentAlias?_congr fun front back hpath => hkeep front ?_
    rintro rfl
    exact append_dot_ne _ back hpath
  · rw [hkeep path' heq] at hget
    refine .inl ?_
    rw [parentAlias?_congr fun front back hpath => hkeep front ?_]
    · exact h path' label field' template hget hfield' htemplate
    · -- what a registered path goes through is registered, and so not the new path
      rintro rfl
      have hsome := hj.closed front back (by rw [← hpath, hget]; rfl)
      rw [hfree] at hsome
      cases hsome

/-- The alias that registering a reference gives back is the one of the path before. -/
theorem snd_register {t : Term} (ht : Resolved schema t) {path : String}
    (hpath : t.fullIdentifier? = some path) (groups : Groups) (j : Joins) :
    (t.register groups j).2 = (t.register groups j).1.parentAlias? path := by
  cases ht using Resolved.path_induction with
  | root identifier content name =>
    cases hpath
    rw [parentAlias?_of_not_mem (Token.dot_not_mem_of_isName name)]
    rfl
  | @member parent _ field front identifier content name _ _ horigin _ hfront =>
    rw [Term.make, Term.fullIdentifier?, hfront, Option.getD_some] at hpath
    cases hpath
    rw [register_member_eq hfront identifier field content horigin,
      parentAlias?_append front (Token.dot_not_mem_of_isName name)]
    split
    · next label hlabel =>
      -- the path before is registered already, with the alias that is given back
      rw [hlabel]
      rfl
    · -- it is registered now, and its own entry is the last one that was made
      rw [get?_aliases_enter, if_pos rfl]
      rfl
  | other t _ hother =>
    rw [fullIdentifier?_of_isField_eq_false hother] at hpath
    cases hpath

end Conditions

/-! ### Exactly the needed paths -/

/-- The registered paths are the needed ones, with their tables and conditions. -/
structure Serves (schema : Schema) (needed : String → Prop) (j : Joins) : Prop where
  registered : j.Registered schema
  joined : j.Joined schema
  paths : ∀ path, (j.aliases.get? path).isSome = true ↔ needed path

section Serves

variable {schema : Schema} {needed : String → Prop} {j : Joins}

theorem serves_empty : Serves schema (fun _ => False) {} where
  registered := registered_empty
  joined := fun _ _ _ _ hget => nomatch hget
  paths := fun _ => ⟨nofun, False.elim⟩

theorem Serves.congr {needed' : String → Prop} (h : j.Serves schema needed)
    (hneeded : ∀ path, needed path ↔ needed' path) : j.Serves schema needed' :=
  ⟨h.registered, h.joined, fun path => (h.paths path).trans (hneeded path)⟩

theorem Serves.addCondition (h : j.Serves schema needed) (sql : String) (comment : Option String) :
    (j.addCondition sql comment).Serves schema needed where
  registered := ⟨h.registered.table, h.registered.path, h.registered.once, h.registered.closed⟩
  joined := by
    intro path label field template hget hfield htemplate
    exact (OrderedMap.mem_keys_insertNew _ _ _ _).mpr
      (.inl (h.joined path label field template hget hfield htemplate))
  paths := h.paths

/-- One more path, after what it goes through. -/
theorem Serves.enter (h : j.Serves schema needed) {path : String} {field : Field}
    (hfree : j.aliases.get? path = none) (hfield : schema.fieldAt? path = some field)
    (hclosed : ∀ front back, path = front ++ "." ++ back → needed front) (comment : String) :
    (j.enter schema.groups path field comment (j.parentAlias? path)).1.Serves schema
      fun path' => path' = path ∨ needed path' where
  registered := h.registered.enter hfree hfield
    (fun front back heq => (h.paths front).mpr (hclosed front back heq)) comment _
  joined := h.joined.enter h.registered hfree hfield comment
  paths := by
    intro path'
    rw [get?_aliases_enter]
    by_cases heq : path' = path
    · simp [heq]
    · rw [if_neg heq, h.paths path']
      exact ⟨.inr, fun h => h.resolve_left heq⟩

/-- A reference whose path goes through nothing else has nothing to register. -/
theorem Serves.of_not_goesThrough (h : j.Serves schema needed) {t : Term}
    (ht : ∀ path, ¬ t.GoesThrough path) :
    j.Serves schema fun path => needed path ∨ t.GoesThrough path :=
  h.congr fun path => ⟨.inl, fun h => h.resolve_right (ht path)⟩

/-- **Registering a reference adds what its path goes through.** -/
theorem Serves.register {t : Term} (ht : Resolved schema t) (h : j.Serves schema needed) :
    (t.register schema.groups j).1.Serves schema fun path => needed path ∨ t.GoesThrough path := by
  -- only a member goes through other paths
  induction ht using Resolved.path_induction generalizing j with
  | root identifier content name =>
    exact h.of_not_goesThrough (Term.not_goesThrough_of_not_mem rfl (Token.dot_not_mem_of_isName name))
  | @member parent _ field front identifier content name _ part horigin _ hfront ih =>
    have hmember := Term.goesThrough_member hfront (Token.dot_not_mem_of_isName name) (some field)
      content
    rw [register_member hfront identifier field content horigin]
    by_cases hget : (j.aliases.get? front).isSome = true
    · -- what a registered path goes through is registered
      rw [if_pos hget]
      refine h.congr fun path => ⟨.inl, fun hpath => hpath.elim id fun hthrough => ?_⟩
      rw [← h.paths]
      rcases (hmember path).mp hthrough with rfl | ⟨rest, hrest⟩
      · exact hget
      · refine h.registered.closed path rest ?_
        rw [← Option.some.inj (hfront.symm.trans hrest)]
        exact hget
    · rw [if_neg hget, snd_register part hfront]
      have hparent := ih h
      have hfree : (parent.register schema.groups j).1.aliases.get? front = none := by
        rw [← Option.not_isSome_iff_eq_none, hparent.paths, ← h.paths]
        rintro (hsome | ⟨rest, hrest⟩)
        · exact hget hsome
        · exact append_dot_ne front rest (Option.some.inj (hfront.symm.trans hrest))
      have hclosed : ∀ path rest, front = path ++ "." ++ rest → needed path ∨ parent.GoesThrough path :=
        fun path rest heq => .inr ⟨rest, heq ▸ hfront⟩
      refine (hparent.enter hfree (fieldAt?_of_resolved part hfront horigin) hclosed _).congr ?_
      intro path
      rw [hmember]
      exact or_left_comm
  | other t _ hother =>
    rw [register_of_isField_eq_false hother]
    refine h.of_not_goesThrough ?_
    rintro path ⟨rest, hrest⟩
    rw [fullIdentifier?_of_isField_eq_false hother] at hrest
    cases hrest

/-- The i-th table is this one, and has the alias of the path. -/
def ReadsAt (j : Joins) (path : String) (i : Nat) (table : String) : Prop :=
  ∃ entry label, j.tables.values[i]? = some entry ∧ entry.name = table ∧ entry.label = some label ∧
    j.aliases.get? path = some (some label)

/-- Each needed path that leads to a table is read once. -/
theorem Serves.existsUnique_index (h : j.Serves schema needed) {path table : String}
    (hpath : needed path) (htable : schema.tableAt? path = some table) :
    ∃! i, j.ReadsAt path i table := by
  obtain ⟨label, hget⟩ := Option.isSome_iff_exists.mp ((h.paths path).mpr hpath)
  obtain ⟨field, hfield, hmatches⟩ := h.registered.path path label hget
  rw [Schema.tableAt?, hfield, Option.bind_some] at htable
  rw [htable] at hmatches
  obtain ⟨-, hnone⟩ | ⟨i, entry, rfl, hentry, hname⟩ := hmatches
  · cases hnone
  · refine ⟨i, ⟨entry, aliasAt i, hentry, (Option.some.inj hname).symm,
      h.registered.label_of_values hentry, hget⟩, ?_⟩
    rintro i' ⟨entry', label', hentry', -, hlabel', hget'⟩
    rw [h.registered.label_of_values hentry'] at hlabel'
    have heq := hlabel'.trans (Option.some.inj (hget'.symm.trans hget))
    exact aliasAt_inj (Option.some.inj heq)

/-- Each table is read for one path. -/
theorem Serves.existsUnique_path (h : j.Serves schema needed) {i : Nat} (hi : i < j.tables.size) :
    ∃! path, ∃ table, j.ReadsAt path i table := by
  obtain ⟨entry, hentry⟩ : ∃ entry, j.tables.values[i]? = some entry :=
    ⟨_, List.getElem?_eq_getElem (by rwa [OrderedMap.length_values])⟩
  have hlabel := h.registered.label_of_values hentry
  obtain ⟨path, hpath, huniq⟩ := h.registered.once i hi
  refine ⟨path, ⟨entry.name, entry, aliasAt i, hentry, rfl, hlabel, hpath⟩, ?_⟩
  rintro path' ⟨table, entry', label', hentry', -, hlabel', hget'⟩
  refine huniq path' ?_
  rw [h.registered.label_of_values hentry'] at hlabel'
  rw [hlabel']
  exact hget'

/-- The path that a table is read for is needed, and leads to the table. -/
theorem Serves.of_readsAt (h : j.Serves schema needed) {path table : String} {i : Nat}
    (hreads : j.ReadsAt path i table) : needed path ∧ schema.tableAt? path = some table := by
  obtain ⟨entry, label, hentry, rfl, hlabel, hget⟩ := hreads
  refine ⟨(h.paths path).mp (by rw [hget]; rfl), ?_⟩
  obtain ⟨i', entry', field, rfl, hentry', hfield, htable⟩ := h.registered.exists_of_get? hget
  obtain rfl := Option.some.inj
    ((h.registered.eq_of_label (List.mem_of_getElem? hentry) hlabel).symm.trans hentry')
  rw [Schema.tableAt?, hfield, Option.bind_some, htable]

/-- **What is read does not depend on the order of registration**: for the needed paths, the tables that
they lead to. -/
theorem Serves.exists_readsAt_iff (h : j.Serves schema needed) (path table : String) :
    (∃ i, j.ReadsAt path i table) ↔ needed path ∧ schema.tableAt? path = some table := by
  constructor
  · rintro ⟨i, hreads⟩
    exact h.of_readsAt hreads
  · rintro ⟨hpath, htable⟩
    exact (h.existsUnique_index hpath htable).exists

/-- Registering a reference changes nothing when all that it goes through is there. -/
theorem register_eq_self {t : Term} (ht : Resolved schema t) (groups : Groups)
    (h : ∀ path, t.GoesThrough path → (j.aliases.get? path).isSome = true) :
    (t.register groups j).1 = j := by
  cases ht using Resolved.path_induction with
  | root identifier content name => rfl
  | @member parent _ field front identifier content _ _ _ horigin _ hfront =>
    rw [register_member hfront identifier field content horigin, if_pos]
    refine h front ⟨identifier, ?_⟩
    rw [Term.make, Term.fullIdentifier?, hfront, Option.getD_some]
  | other t _ hother => rw [register_of_isField_eq_false hother]

end Serves

end Joins

namespace Query

/-! ### Requests -/

/-- What is asked of a query: an expression in one of its clauses, without aggregation, or the table of
a variable. -/
inductive Request where
  | select (source : String) (label : Option String)
  | require (source : String)
  | order (source : String) (dir : Option SortDir) (nulls : Option NullsOrder)
  | register (name : String)

/-- The query after a step, unless the step is refused. -/
def accepted {α : Type} (step : Query × Except QueryError α) : Except QueryError Query :=
  step.2.map fun _ => step.1

namespace Request

def run (groups : Groups) (q : Query) : Request → Except QueryError Query
  | .select source label => accepted (q.select groups source label none)
  | .require source => accepted (q.require groups source)
  | .order source dir nulls => accepted (q.order groups source dir nulls)
  | .register name => accepted (q.register groups name)

/-- One request after the other, up to the first one that is refused. -/
def runAll (groups : Groups) (q : Query) (requests : List Request) : Except QueryError Query :=
  requests.foldlM (fun q request => request.run groups q) q

/-- A reference in the expression goes through the path. -/
def SourceNeeds (schema : Schema) (source path : String) : Prop :=
  ∃ t, compile schema source = .ok t ∧ ∃ ref ∈ t.fieldRefs, ref.GoesThrough path

/-- The request cannot do without the table at the end of the path. -/
def Needs (schema : Schema) (path : String) : Request → Prop
  | .select source _ | .require source | .order source _ _ => SourceNeeds schema source path
  | .register name => path = name

/-- What a request has to fulfil; it is about the request and the variables only. -/
def IsProper (schema : Schema) : Request → Prop
  | .select source _ => ∃ t, compileValid schema source (some "select") = .ok t
  | .require source =>
    ∃ t, compileValid schema source (some "where") = .ok t ∧ (asCondition t).fault = none
  | .order source _ _ => ∃ t, compileValid schema source (some "orderby") = .ok t
  | .register name => ∃ field, schema.vars.get? name = some field

end Request

section Expressions

variable {groups : Groups} {q : Query} {needed : String → Prop} {t : Term}

/-- **The tables of an expression are registered.** -/
theorem serves_registerRefs {j : Joins} (h : j.Serves (q.scope groups) needed)
    {source : String} (ht : compile (q.scope groups) source = .ok t) :
    (registerRefs groups t j).Serves (q.scope groups)
      fun path => needed path ∨ Request.SourceNeeds (q.scope groups) source path := by
  have hresolved := resolved_of_mem_fieldRefs (resolved_of_compile ht)
  have hrefs : (registerRefs groups t j).Serves (q.scope groups)
      fun path => needed path ∨ ∃ ref ∈ t.fieldRefs, ref.GoesThrough path := by
    unfold registerRefs
    -- one reference after the other; the term itself plays no part
    generalize t.fieldRefs = refs at hresolved
    clear ht
    induction refs generalizing j needed with
    | nil => exact h.congr fun path => by simp
    | cons ref refs ih =>
      have hfirst := Joins.Serves.register (hresolved ref List.mem_cons_self) h
      refine (ih hfirst fun r hr => hresolved r (List.mem_cons_of_mem ref hr)).congr fun path => ?_
      rw [List.exists_mem_cons_iff, or_assoc]
  refine hrefs.congr fun path => or_congr Iff.rfl ⟨fun hneeds => ⟨t, ht, hneeds⟩, ?_⟩
  rintro ⟨t', ht', hneeds⟩
  rw [ht] at ht'
  cases ht'
  exact hneeds

/-- Emission finds the tables of an expression in place. -/
theorem joins_toSql {j : Joins} {u : Term} (hrefs : u.fieldRefs = t.fieldRefs)
    (hresolved : ∀ ref ∈ t.fieldRefs, Resolved (q.scope groups) ref)
    (h : ∀ path, ∀ ref ∈ t.fieldRefs, ref.GoesThrough path → (j.aliases.get? path).isSome = true)
    (context : Option String) : (u.toSql groups context j).1 = j := by
  refine Term.keeps_toSql (P := fun j' => j' = j) ?_ context rfl
  rw [hrefs]
  rintro ref href j' rfl
  exact Joins.register_eq_self (hresolved ref href) groups fun path => h path ref href

theorem judged_asCondition (h : t.Judged) : (asCondition t).Judged := by
  unfold asCondition
  split
  · exact h
  · exact .make _ _ (by rintro _ ⟨⟩) (List.forall_mem_singleton.mpr h)

/-- What the clauses have in common: an expression is compiled, SQL is made of it, and the query takes
the SQL in. -/
def clauseStep (groups : Groups) (q : Query) (source clause : String) (view : Term → Term)
    (next : Query → Term → String → Query) : Query × Except QueryError Unit :=
  andThen (q.enlist groups source clause) fun q t =>
    andThen (q.emit groups (view t) (some clause)) fun q sql => (next q t sql, .ok ())

theorem andThen_emitCommented (clause : String) (next : Query → String → Query) :
    andThen (q.emitCommented groups t clause) (fun q sql => (next q sql, .ok ())) =
      andThen (q.emit groups t (some clause)) fun q sql =>
        (next q (Sql.withComment sql (some t.source)), Except.ok ()) := by
  unfold emitCommented
  generalize q.emit groups t (some clause) = step
  obtain ⟨q', sql⟩ := step
  cases sql <;> simp only [andThen, Except.map]

theorem selectPlain_eq (h : q.aggregates.isEmpty = true) (source : String) (label : Option String) :
    q.selectPlain groups source label = clauseStep groups q source "select" id fun q t sql =>
      let entry : SelectEntry := ⟨Sql.withComment sql (some t.source), label, none⟩
      { q with selects := q.selects.insertNew entry.render entry } := by
  rw [selectPlain, if_pos h, clauseStep]
  congr 1
  funext q t
  exact andThen_emitCommented "select" _

theorem order_eq (source : String) (dir : Option SortDir) (nulls : Option NullsOrder) :
    q.order groups source dir nulls = clauseStep groups q source "orderby" id fun q t sql =>
      { q with
        orderBy := q.orderBy ++ [orderItem (Sql.withComment sql (some t.source)) dir nulls] } := by
  rw [order, clauseStep]
  congr 1
  funext q t
  exact andThen_emitCommented "orderby" _

/-- **One clause**: it takes in the SQL of a valid term, in the presence of the tables that the
expression needs, and is refused otherwise. -/
theorem clauseStep_cases (h : q.joins.Serves (q.scope groups) needed) (source clause : String)
    {view : Term → Term} (hview : ∀ t, t.Judged → (view t).Judged)
    (hrefs : ∀ t, (view t).fieldRefs = t.fieldRefs) (next : Query → Term → String → Query) :
    (∃ t j sql, compileValid (q.scope groups) source (some clause) = .ok t ∧ (view t).fault = none ∧
      j.Serves (q.scope groups)
        (fun path => needed path ∨ Request.SourceNeeds (q.scope groups) source path) ∧
      accepted (clauseStep groups q source clause view next) =
        .ok (next { q with joins := j } t sql)) ∨
    ((∀ t, compileValid (q.scope groups) source (some clause) = .ok t → (view t).fault ≠ none) ∧
      ∃ e, accepted (clauseStep groups q source clause view next) = .error e) := by
  unfold clauseStep enlist
  cases hvalid : compileValid (q.scope groups) source (some clause) with
  | error e => exact .inr ⟨nofun, _, rfl⟩
  | ok t =>
    -- all that the SQL needs has been registered by then, so making it adds no table
    have ht := (compile_of_compileValid hvalid).1
    have hresolved := resolved_of_compile ht
    have hserves := serves_registerRefs h ht
    have hjoins := joins_toSql (hrefs t) (resolved_of_mem_fieldRefs hresolved)
      (fun path ref href hthrough => (hserves.paths path).mpr (.inr ⟨t, ht, ref, href, hthrough⟩))
      (some clause)
    dsimp only [andThen, emit]
    rw [hjoins]
    rcases (hview t (Term.judged_of_resolved hresolved)).toSql_cases groups (some clause)
      (registerRefs groups t q.joins) with ⟨hfault, sql, hsql⟩ | ⟨complaint, hcheck, herror⟩
    · rw [hsql]
      exact .inl ⟨t, _, sql, rfl, hfault, hserves, rfl⟩
    · rw [herror]
      refine .inr ⟨?_, _, rfl⟩
      rintro _ ⟨⟩ hfault
      rw [Term.check_eq_ok_iff.mpr hfault] at hcheck
      cases hcheck

end Expressions

namespace Request

section Runs

variable {groups : Groups} {q : Query} {needed : String → Prop}

/-- A proper request is fulfilled, and afterwards there is also what it needs; another one is refused. -/
def Settles (groups : Groups) (q : Query) (needed : String → Prop) (request : Request)
    (outcome : Except QueryError Query) : Prop :=
  (request.IsProper (q.scope groups) ∧
    ∃ q', outcome = .ok q' ∧ q'.vars = q.vars ∧ q'.aggregates = q.aggregates ∧
      q'.joins.Serves (q.scope groups)
        fun path => needed path ∨ request.Needs (q.scope groups) path) ∨
  (¬ request.IsProper (q.scope groups) ∧ ∃ e, outcome = .error e)

theorem fault_of_compileValid {schema : Schema} {source : String} {context : Option String} {t : Term}
    (h : compileValid schema source context = .ok t) : t.fault = none :=
  Term.check_eq_ok_iff.mp (compile_of_compileValid h).2

/-- The table of a variable. -/
theorem settles_register (h : q.joins.Serves (q.scope groups) needed)
    (hdotless : ∀ name field, q.vars.get? name = some field → '.' ∉ name.toList) (name : String) :
    Settles groups q needed (.register name) (accepted (q.register groups name)) := by
  unfold Query.register
  split
  · next hfield =>
    refine .inr ⟨?_, _, rfl⟩
    rintro ⟨field, hsome⟩
    cases hfield.symm.trans hsome
  · next field hfield =>
    have hname := hdotless name field hfield
    refine .inl ⟨⟨field, hfield⟩, ?_⟩
    split
    · next label hget =>
      -- the variable has a table already
      have hneeded : needed name := (h.paths name).mp (by rw [hget]; rfl)
      refine ⟨q, rfl, rfl, rfl, h.congr fun path => ⟨.inl, fun hpath => ?_⟩⟩
      exact hpath.elim id fun heq => heq ▸ hneeded
    · next hget =>
      refine ⟨_, rfl, rfl, rfl, ?_⟩
      -- a name without a dot goes through nothing
      have hclosed : ∀ front back, name = front ++ "." ++ back → needed front := by
        rintro front back rfl
        exact absurd (by simp) hname
      have henter := h.enter hget ((fieldAt?_of_not_mem hname).trans hfield) hclosed name
      rw [Joins.parentAlias?_of_not_mem hname] at henter
      exact henter.congr fun path => or_comm

/-- **One request**, whatever was asked for before. -/
theorem settles_run (h : q.joins.Serves (q.scope groups) needed)
    (hplain : q.aggregates.isEmpty = true)
    (hdotless : ∀ name field, q.vars.get? name = some field → '.' ∉ name.toList)
    (request : Request) : Settles groups q needed request (request.run groups q) := by
  cases request with
  | select source label =>
    change Settles groups q needed _ (accepted (q.selectPlain groups source label))
    rw [selectPlain_eq hplain]
    -- clauses differ in what they make of the term, but all of them take in what `clauseStep_cases` has
    -- found
    rcases clauseStep_cases h source "select" (fun _ ht => ht) (fun _ => rfl) _ with
      ⟨t, j, sql, ht, -, hserves, hrun⟩ | ⟨hnone, he⟩
    · exact .inl ⟨⟨t, ht⟩, _, hrun, rfl, rfl, hserves⟩
    · exact .inr ⟨fun ⟨t, ht⟩ => hnone t ht (fault_of_compileValid ht), he⟩
  | require source =>
    change Settles groups q needed _ (accepted (clauseStep groups q source "where" asCondition _))
    rcases clauseStep_cases h source "where" (fun _ => judged_asCondition)
      (fun _ => fieldRefs_asCondition) _ with ⟨t, j, sql, ht, hfault, hserves, hrun⟩ | ⟨hnone, he⟩
    · exact .inl ⟨⟨t, ht, hfault⟩, _, hrun, rfl, rfl, hserves.addCondition _ _⟩
    · exact .inr ⟨fun ⟨t, ht, hfault⟩ => hnone t ht hfault, he⟩
  | order source dir nulls =>
    change Settles groups q needed _ (accepted (q.order groups source dir nulls))
    rw [order_eq]
    rcases clauseStep_cases h source "orderby" (fun _ ht => ht) (fun _ => rfl) _ with
      ⟨t, j, sql, ht, -, hserves, hrun⟩ | ⟨hnone, he⟩
    · exact .inl ⟨⟨t, ht⟩, _, hrun, rfl, rfl, hserves⟩
    · exact .inr ⟨fun ⟨t, ht⟩ => hnone t ht (fault_of_compileValid ht), he⟩
  | register name => exact settles_register h hdotless name

/-- **All requests**: they are fulfilled exactly if each of them is proper. -/
theorem runAll_cases (h : q.joins.Serves (q.scope groups) needed)
    (hplain : q.aggregates.isEmpty = true)
    (hdotless : ∀ name field, q.vars.get? name = some field → '.' ∉ name.toList)
    (requests : List Request) :
    ((∀ request ∈ requests, request.IsProper (q.scope groups)) ∧
      ∃ q', runAll groups q requests = .ok q' ∧ q'.joins.Serves (q.scope groups)
        fun path => needed path ∨ ∃ request ∈ requests, request.Needs (q.scope groups) path) ∨
    ((¬ ∀ request ∈ requests, request.IsProper (q.scope groups)) ∧
      ∃ e, runAll groups q requests = .error e) := by
  induction requests generalizing q needed with
  | nil => exact .inl ⟨List.forall_mem_nil _, q, rfl, h.congr fun path => by simp⟩
  | cons request requests ih =>
    rw [List.forall_mem_cons]
    rcases settles_run h hplain hdotless request with
      ⟨hproper, q₁, hrun, hvars, haggregates, hserves⟩ | ⟨himproper, e, hrun⟩
    · -- the variables are the same as before, so the requests that follow mean the same
      have hscope : q₁.scope groups = q.scope groups := by rw [scope, scope, hvars]
      rw [← hscope] at hserves
      have hrest := ih hserves (haggregates ▸ hplain) (hvars ▸ hdotless)
      have hall : runAll groups q (request :: requests) = runAll groups q₁ requests := by
        rw [runAll, List.foldlM_cons, hrun]
        rfl
      rw [hscope] at hrest
      rw [hall]
      rcases hrest with ⟨hpropers, q', hq', hserves'⟩ | ⟨himproper, he⟩
      · refine .inl ⟨⟨hproper, hpropers⟩, q', hq', hserves'.congr fun path => ?_⟩
        rw [List.exists_mem_cons_iff, or_assoc]
      · exact .inr ⟨fun hpropers => himproper hpropers.2, he⟩
    · refine .inr ⟨fun hpropers => himproper hpropers.1, e, ?_⟩
      rw [runAll, List.foldlM_cons, hrun]
      rfl

end Runs

theorem serves_ofVars (groups : Groups) (vars : Vars) :
    (ofVars vars).joins.Serves ((ofVars vars).scope groups) fun _ => False :=
  Joins.serves_empty

/-- Requests to a new query, each of which is fulfilled. -/
theorem serves_of_runAll {groups : Groups} {vars : Vars} {requests : List Request} {q : Query}
    (hdotless : ∀ name field, vars.get? name = some field → '.' ∉ name.toList)
    (h : runAll groups (.ofVars vars) requests = .ok q) :
    (∀ request ∈ requests, request.IsProper ⟨groups, vars⟩) ∧
      q.joins.Serves ⟨groups, vars⟩ fun path =>
        ∃ request ∈ requests, request.Needs ⟨groups, vars⟩ path := by
  rcases runAll_cases (serves_ofVars groups vars) rfl hdotless requests with
    ⟨hproper, q', hq', hserves⟩ | ⟨-, e, he⟩
  · rw [h] at hq'
    cases hq'
    exact ⟨hproper, hserves.congr fun path => by rw [false_or]; rfl⟩
  · rw [h] at he
    cases he

/-- **A query reads exactly the tables that it needs, in whatever order they are asked for.** After
requests that have all been fulfilled, the registered paths are those that the requests need. Those of
them that lead to a table and the tables of the query correspond one to one, and the tables are the ones
that the paths lead to. For each path with an alias whose field has a condition for joining it, this
condition is there, with the alias of the path put in for the one placeholder and that of the path before
it for the other. The same requests in another order are fulfilled as well, and lead to the same paths with
the same tables. -/
theorem runAll_reads_needed {groups : Groups} {vars : Vars} {requests : List Request} {q : Query}
    (hdotless : ∀ name field, vars.get? name = some field → '.' ∉ name.toList)
    (h : runAll groups (.ofVars vars) requests = .ok q) :
    (∀ path, (q.joins.aliases.get? path).isSome = true ↔
      ∃ request ∈ requests, request.Needs ⟨groups, vars⟩ path) ∧
    (∀ path table, (∃ request ∈ requests, request.Needs ⟨groups, vars⟩ path) →
      Schema.tableAt? ⟨groups, vars⟩ path = some table → ∃! i, q.joins.ReadsAt path i table) ∧
    (∀ i < q.joins.tables.size, ∃! path, ∃ table, q.joins.ReadsAt path i table) ∧
    (∀ path i table, q.joins.ReadsAt path i table →
      (∃ request ∈ requests, request.Needs ⟨groups, vars⟩ path) ∧
        Schema.tableAt? ⟨groups, vars⟩ path = some table) ∧
    (∀ path label field template, q.joins.aliases.get? path = some (some label) →
      Schema.fieldAt? ⟨groups, vars⟩ path = some field → field.join = some template →
      Text.replaceAll "{d}" label ((q.joins.parentAlias? path).elim template
        fun master => Text.replaceAll "{m}" master template) ∈ q.joins.conditions.keys) ∧
    ∀ requests', requests.Perm requests' →
      ∃ q', runAll groups (.ofVars vars) requests' = .ok q' ∧
        (∀ path, (q'.joins.aliases.get? path).isSome = (q.joins.aliases.get? path).isSome) ∧
        ∀ path table, (∃ i, q'.joins.ReadsAt path i table) ↔ ∃ i, q.joins.ReadsAt path i table := by
  obtain ⟨hproper, hserves⟩ := serves_of_runAll hdotless h
  have hjoined := hserves.joined
  simp only [Joins.Joined, Joins.instantiate_eq] at hjoined
  refine ⟨hserves.paths, fun path table => hserves.existsUnique_index,
    fun i => hserves.existsUnique_path, fun path i table => hserves.of_readsAt, hjoined, ?_⟩
  -- requests in another order are as proper as before, so they are accepted as well
  intro requests' hperm
  rcases runAll_cases (serves_ofVars groups vars) rfl hdotless requests' with
    ⟨-, q', hq', -⟩ | ⟨himproper, -⟩
  · -- the same is needed as before, and so the same is there
    have hserves' : q'.joins.Serves ⟨groups, vars⟩
        fun path => ∃ request ∈ requests, request.Needs ⟨groups, vars⟩ path :=
      (serves_of_runAll hdotless hq').2.congr fun path => by simp only [hperm.mem_iff]
    refine ⟨q', hq', fun path => ?_, fun path table => ?_⟩
    · rw [Bool.eq_iff_iff, hserves'.paths, hserves.paths]
    · rw [hserves'.exists_readsAt_iff, hserves.exists_readsAt_iff]
  · exact absurd (fun request hrequest => hproper request (hperm.mem_iff.mpr hrequest)) himproper

/-- Overlapping paths, one of them through a group without a table, and a variable that no expression
refers to. In the opposite order the same tables have other aliases. -/
theorem runAll_reads_needed_boss :
    ∃ groups vars requests q q',
      (∀ name field, OrderedMap.get? vars name = some field → '.' ∉ name.toList) ∧
      runAll groups (.ofVars vars) requests = .ok q ∧
      runAll groups (.ofVars vars) requests.reverse = .ok q' ∧
      q.joins.aliases.entries = [("p", some "t1"), ("p.boss", some "t2"), ("c", some "t3"),
        ("p.boss.boss", some "t4"), ("p.misc", none)] ∧
      q'.joins.aliases.entries = [("p", some "t1"), ("p.misc", none), ("p.boss", some "t2"),
        ("p.boss.boss", some "t3"), ("c", some "t4")] ∧
      "t2.boss = t4.id" ∈ q.joins.conditions.keys ∧
      (∃! i, q.joins.ReadsAt "p.boss.boss" i "person") ∧
      ∀ path table, (∃ i, q'.joins.ReadsAt path i table) ↔ ∃ i, q.joins.ReadsAt path i table := by
  let boss : Field := ⟨"boss", .str, some "\x7ba\x7d.boss", some "\x7bm\x7d.boss = \x7bd\x7d.id",
    some ⟨"person", 0⟩⟩
  let name : Field := ⟨"name", .str, some "\x7ba\x7d.name", none, none⟩
  let active : Field := ⟨"active", .bool, some "\x7ba\x7d.active", none, none⟩
  let misc : Field := ⟨"misc", .null, none, none, some ⟨"misc", 1⟩⟩
  let size : Field := ⟨"size", .int, some "42", none, none⟩
  let groups : Groups := ⟨2, .ofList [
    ("person", 0, ⟨some "person",
      .ofList [("boss", boss), ("name", name), ("active", active), ("misc", misc)]⟩),
    ("misc", 1, ⟨none, .ofList [("size", size)]⟩)]⟩
  let vars : Vars := .ofList [("p", boss), ("c", boss)]
  let requests : List Request := [.select "p.boss.name" none, .register "c",
    .require "p.boss.boss.active", .order "p.misc.size" none none]
  have hdotless : ∀ name field, vars.get? name = some field → '.' ∉ name.toList := by
    intro name field hget
    have hname : name ∈ ["p", "c"] := OrderedMap.mem_keys_of_get? hget
    exact (by decide : ∀ name ∈ ["p", "c"], '.' ∉ name.toList) name hname
  have hrun : ∃ q, runAll groups (.ofVars vars) requests = .ok q ∧
      q.joins.aliases.entries = [("p", some "t1"), ("p.boss", some "t2"), ("c", some "t3"),
        ("p.boss.boss", some "t4"), ("p.misc", none)] :=
    exists_of_toOption_map_eq_some (by decide +kernel)
  have hrun' : ∃ q, runAll groups (.ofVars vars) requests.reverse = .ok q ∧
      q.joins.aliases.entries = [("p", some "t1"), ("p.misc", none), ("p.boss", some "t2"),
        ("p.boss.boss", some "t3"), ("c", some "t4")] :=
    exists_of_toOption_map_eq_some (by decide +kernel)
  obtain ⟨q, hq, hentries⟩ := hrun
  obtain ⟨q', hq', hentries'⟩ := hrun'
  obtain ⟨hpaths, hindex, -, -, hjoined, hperm⟩ := runAll_reads_needed hdotless hq
  have hget : q.joins.aliases.get? "p.boss.boss" = some (some "t4") := by
    rw [OrderedMap.get?, hentries]
    decide
  have hmaster : q.joins.parentAlias? "p.boss.boss" = some "t2" := by
    rw [show "p.boss.boss" = "p.boss" ++ "." ++ "boss" from rfl,
      Joins.parentAlias?_append "p.boss" (by decide), OrderedMap.get?, hentries]
    decide
  refine ⟨groups, vars, requests, q, q', hdotless, hq, hq', hentries, hentries', ?_, ?_, ?_⟩
  · have hcondition := hjoined "p.boss.boss" "t4" boss "\x7bm\x7d.boss = \x7bd\x7d.id" hget
      (by decide +kernel) rfl
    rw [hmaster] at hcondition
    exact hcondition
  · refine hindex "p.boss.boss" "person" ((hpaths _).mp ?_) (by decide +kernel)
    rw [hget]
    rfl
  · obtain ⟨q'', hq'', -, hreads⟩ := hperm requests.reverse (List.reverse_perm requests).symm
    rw [hq'] at hq''
    cases hq''
    exact hreads

end Request

end Query

end QueryExpr
