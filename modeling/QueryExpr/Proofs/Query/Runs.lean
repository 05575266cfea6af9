import QueryExpr.Proofs.OrderedMap
import QueryExpr.Proofs.Term.Walks
import QueryExpr.Query.Clauses

/-!
# Runs of a query

A query comes about step by step, and each step may be refused. Whatever the steps are, tables come in
by registering references to fields only, except for those that are given as SQL. So what registering
a reference and adding a condition preserve is preserved by every step: by emitting SQL
(`Term.keeps_emit`), by enlisting an expression, and by the steps themselves (`Op.keeps`).

SQL is put together from text and the SQL of references. A property of emissions that goes along with
this holds of the emission of a term if it holds of its references (`Emission.Compositional.emit`).
-/

namespace QueryExpr

/-! ### Emission -/

namespace Emission

/-- Text has the property, and what is made of two emissions has it if both have. -/
structure Compositional (Q : Emission → Prop) : Prop where
  text : ∀ sql, Q (text sql)
  append : ∀ {a b : Emission}, Q a → Q b → Q (a.append b)

namespace Compositional

variable {Q : Emission → Prop}

theorem items (hQ : Compositional Q) {es : List Emission} (h : ∀ e ∈ es, Q e) : Q (items es) := by
  induction es with
  | nil => exact hQ.text ""
  | cons e es ih =>
    cases es with
    | nil => exact h e List.mem_cons_self
    | cons e' es =>
      have hrest := ih fun d hd => h d (List.mem_cons_of_mem e hd)
      exact hQ.append (h e List.mem_cons_self) (hQ.append (hQ.text ", ") hrest)

theorem template (hQ : Compositional Q) {operands : List Emission} (h : ∀ e ∈ operands, Q e)
    (parts : List Part) : Q (template operands parts) := by
  induction parts with
  | nil => exact hQ.text ""
  | cons part parts ih =>
    unfold Emission.template
    split
    · next heq => cases heq
    · next heq =>
      cases heq
      exact hQ.append (hQ.text _) ih
    · next heq =>
      cases heq
      exact ih
    · next heq =>
      cases heq
      split
      · next e he => exact hQ.append (h e (List.mem_of_getElem? he)) ih
      · exact ih

variable {groups : Groups}

mutual

/-- **Emitting SQL puts together the SQL of the references and text**, or fails without further ado. -/
theorem emit (hQ : Compositional Q) (hfail : ∀ t, Q fun j => (j, .error t)) : ∀ (t : Term),
    (∀ ref ∈ t.fieldRefs, ref.head.isField = true → Q (ref.emit groups)) → Q (t.emit groups)
  | .node head verdict content slots => by
    intro h
    rw [Term.fieldRefs] at h
    cases head with
    | field identifier field => exact h _ List.mem_cons_self rfl
    | const value =>
      rw [Term.emit]
      exact hQ.text _
    | list | set =>
      rw [Term.emit]
      split
      · next front back _ =>
        exact hQ.append (hQ.text front)
          (hQ.append (hQ.items (emitAll hQ hfail slots h)) (hQ.text back))
      · exact hQ.text _
    | _ =>
      -- the operands of a rule: what is no reference has the references of its slots
      unfold Term.emit
      dsimp only
      split
      · exact hQ.template (emitAll hQ hfail slots h) _
      · exact hfail _

/-- The same for several terms. -/
theorem emitAll (hQ : Compositional Q) (hfail : ∀ t, Q fun j => (j, .error t)) : ∀ (ts : List Term),
    (∀ ref ∈ Term.fieldRefsAll ts, ref.head.isField = true → Q (ref.emit groups)) →
      ∀ e ∈ Term.emitAll groups ts, Q e
  | [] => fun _ _ he => nomatch he
  | t :: ts => by
    intro h e he
    rw [Term.fieldRefsAll] at h
    rw [Term.emitAll] at he
    rcases List.mem_cons.mp he with rfl | he
    · exact emit hQ hfail t fun ref href => h ref (List.mem_append_left _ href)
    · exact emitAll hQ hfail ts (fun ref href => h ref (List.mem_append_right _ href)) e he

end

end Compositional

/-- What holds of the tables before the emission holds after it. -/
def Keeps (P : Joins → Prop) (e : Emission) : Prop := ∀ j, P j → P (e j).1

/-- What is kept is kept by everything that emissions are put together from. -/
theorem compositional_keeps (P : Joins → Prop) : Compositional (Keeps P) where
  text := fun _ _ hj => hj
  append := by
    intro a b ha hb j hj
    have hfront := ha j hj
    unfold Emission.append
    -- what the first part left behind is the start of the second, also if the second fails
    split
    · next heq => rw [heq] at hfront; exact hfront
    · next j' front heq =>
      rw [heq] at hfront
      have hback := hb j' hfront
      split
      · next heq' => rw [heq'] at hback; exact hback
      · next heq' => rw [heq'] at hback; exact hback

end Emission

namespace Term

open Emission

/-- Registering each of the references preserves the property. -/
def RefsKeep (groups : Groups) (P : Joins → Prop) (refs : List Term) : Prop :=
  ∀ ref ∈ refs, ∀ j, P j → P (ref.register groups j).1

variable {groups : Groups} {P : Joins → Prop}

/-- **Emitting SQL registers the references of the term and nothing else.** -/
theorem keeps_emit (t : Term) (h : RefsKeep groups P t.fieldRefs) : Keeps P (t.emit groups) := by
  refine (compositional_keeps P).emit (fun _ _ hj => hj) t fun ref href hfield j hj => ?_
  obtain ⟨head, verdict, content, slots⟩ := ref
  cases head with
  -- a reference registers itself
  | field identifier field => exact h _ href j hj
  | _ => cases hfield

/-- Writing a term keeps what its references keep. -/
theorem keeps_toSql {t : Term} (h : RefsKeep groups P t.fieldRefs) (context : Option String)
    {j : Joins} (hj : P j) : P (t.toSql groups context j).1 := by
  have hemit := keeps_emit t h j hj
  unfold toSql
  split
  · exact hj
  · split
    · next heq => rw [heq] at hemit; exact hemit
    · next heq =>
      rw [heq] at hemit
      split <;> exact hemit

end Term

/-! ### Steps -/

namespace Query

/-- A step of a query, by what is asked for. -/
inductive Op where
  | select (source : String) (label : Option String) (aggregate : Option Aggregate)
  | selectSql (sql : String) (comment label : Option String)
  | require (source : String)
  | requireSql (sql : String) (comment : Option String)
  | order (source : String) (dir : Option SortDir) (nulls : Option NullsOrder)
  | orderSql (sql : String) (dir : Option SortDir) (nulls : Option NullsOrder)
  /-- Read the table of a variable. -/
  | register (name : String)
  /-- Read the tables that a reference to a field goes through. -/
  | registerTerm (t : Term)
  /-- Make the SQL of a term. -/
  | emit (t : Term) (context : Option String)
  | fromSql (table : String) (comment label : Option String)
  | bindVar (name : String) (field : Field)
  | setVars (vars : Vars)
  | setOffset (offset : Option Nat)
  | setLimit (limit : Option Nat)
  | setComment (comment : String)

/-- The query after the step, which may have been refused. -/
def Op.run (groups : Groups) (q : Query) : Op → Query
  | .select source label aggregate => (q.select groups source label aggregate).1
  | .selectSql sql comment label => (q.selectSql sql comment label).1
  | .require source => (q.require groups source).1
  | .requireSql sql comment => q.requireSql sql comment
  | .order source dir nulls => (q.order groups source dir nulls).1
  | .orderSql sql dir nulls => q.orderSql sql dir nulls
  | .register name => (q.register groups name).1
  | .registerTerm t => { q with joins := (t.register groups q.joins).1 }
  | .emit t context => (q.emit groups t context).1
  | .fromSql table comment label => (q.fromSql table comment label).1
  | .bindVar name field => q.bindVar name field
  | .setVars vars => { q with vars }
  | .setOffset offset => { q with offset }
  | .setLimit limit => { q with limit }
  | .setComment comment => { q with comment := some comment }

/-- What the steps of the query may rely on: the property is preserved by conditions, by the
references in expressions, and by the variables themselves. -/
structure Stable (groups : Groups) (q : Query) (P : Joins → Prop) : Prop where
  condition : ∀ j sql comment, P j → P (j.addCondition sql comment)
  compiled : ∀ source t, compile (q.scope groups) source = .ok t →
    Term.RefsKeep groups P t.fieldRefs
  root : ∀ name field j, q.vars.get? name = some field → j.aliases.get? name = none → P j →
    P (j.enter groups name field name none).1

/-- What the step brings with it preserves the property: a term that is given, or a table. -/
def Op.Admits (groups : Groups) (P : Joins → Prop) : Op → Prop
  | .registerTerm t | .emit t _ => Term.RefsKeep groups P t.fieldRefs
  | .fromSql _ _ _ => ∀ (j : Joins) (key : String) (entry : Table), P j →
    P { j with tables := j.tables.insert key entry }
  | _ => True

section Keeps

variable {groups : Groups} {q : Query} {P : Joins → Prop} {t : Term}

/-- Registering the references of a term one after the other. -/
theorem keeps_registerRefs (h : Term.RefsKeep groups P t.fieldRefs) {j : Joins} (hj : P j) :
    P (registerRefs groups t j) := by
  unfold registerRefs
  -- the term itself plays no part, only the list of its references
  generalize t.fieldRefs = refs at h
  induction refs generalizing j with
  | nil => exact hj
  | cons ref refs ih =>
    exact ih (h ref List.mem_cons_self j hj) fun r hr => h r (List.mem_cons_of_mem ref hr)

/-- Registering a term is registering a reference or nothing. -/
theorem keeps_register (h : Term.RefsKeep groups P t.fieldRefs) {j : Joins} (hj : P j) :
    P (t.register groups j).1 := by
  obtain ⟨head, verdict, content, slots⟩ := t
  cases head with
  | field identifier field =>
    refine h _ ?_ j hj
    rw [Term.fieldRefs, Head.isField, if_pos rfl]
    exact List.mem_cons_self
  | _ =>
    unfold Term.register
    exact hj

/-- Two steps, the second only if the first is not refused. -/
theorem keeps_andThen {α β : Type} {step : Query × Except QueryError α}
    {next : Query → α → Query × Except QueryError β} (hstep : P step.1.joins)
    (hnext : ∀ q' a, step = (q', .ok a) → P q'.joins → P (next q' a).1.joins) :
    P (andThen step next).1.joins := by
  unfold andThen
  split
  · exact hstep
  · exact hnext _ _ rfl hstep

/-- A term that is accepted was compiled and has no fault. -/
theorem compile_of_compileValid {schema : Schema} {source : String} {context : Option String}
    (h : compileValid schema source context = .ok t) :
    compile schema source = .ok t ∧ t.check context = .ok () := by
  unfold compileValid at h
  cases hc : compile schema source with
  | error e => rw [hc] at h; cases h
  | ok u =>
    rw [hc] at h
    -- the check gives nothing back, so the term is the one that was compiled
    change ((u.check context).mapError CompileError.invalid >>= fun _ => pure u) = .ok t at h
    cases hv : u.check context with
    | error c => rw [hv] at h; cases h
    | ok _ =>
      rw [hv] at h
      cases h
      exact ⟨rfl, hv⟩

/-- Compiling registers the tables of the references, whether or not anything is refused later. -/
theorem keeps_enlist (h : Stable groups q P) (hq : P q.joins) (source clause : String) :
    P (q.enlist groups source clause).1.joins ∧
      ∀ q' t, q.enlist groups source clause = (q', .ok t) →
        Term.RefsKeep groups P t.fieldRefs := by
  unfold enlist
  split
  · exact ⟨hq, nofun⟩
  · next t ht =>
    have hrefs := h.compiled source t (compile_of_compileValid ht).1
    refine ⟨keeps_registerRefs hrefs hq, ?_⟩
    rintro q' t' ⟨⟩
    exact hrefs

theorem keeps_queryEmit (h : Term.RefsKeep groups P t.fieldRefs) (context : Option String)
    (hq : P q.joins) : P (q.emit groups t context).1.joins :=
  Term.keeps_toSql h context hq

theorem keeps_emitCommented (h : Term.RefsKeep groups P t.fieldRefs) (clause : String)
    (hq : P q.joins) : P (q.emitCommented groups t clause).1.joins :=
  Term.keeps_toSql h (some clause) hq

/-- A condition has the references of the term that it is made from. -/
theorem fieldRefs_asCondition : (asCondition t).fieldRefs = t.fieldRefs := by
  unfold asCondition
  split
  · rfl
  · rw [Term.mkFunc, Term.make, Term.fieldRefs]
    show Term.fieldRefsAll [t] = t.fieldRefs
    rw [Term.fieldRefsAll, Term.fieldRefsAll, List.append_nil]

/-- A plain expression that is selected. -/
theorem keeps_selectPlain (h : Stable groups q P) (hq : P q.joins) (source : String)
    (label : Option String) : P (q.selectPlain groups source label).1.joins := by
  unfold selectPlain
  split
  · obtain ⟨hjoins, hrefs⟩ := keeps_enlist h hq source "select"
    refine keeps_andThen hjoins fun q' t heq hq' => ?_
    refine keeps_andThen (keeps_emitCommented (hrefs q' t heq) "select" hq') ?_
    exact fun q'' sql _ hq'' => hq''
  · exact hq

/-- The expression of an aggregation; a count has none and registers nothing. -/
theorem keeps_aggregateSql (h : Stable groups q P) (hq : P q.joins) (source : String)
    (aggregate : Aggregate) : P (q.aggregateSql groups source aggregate).1.joins := by
  unfold aggregateSql
  split
  · exact hq
  · obtain ⟨hjoins, hrefs⟩ := keeps_enlist h hq source "select"
    refine keeps_andThen hjoins fun q' t heq hq' => ?_
    dsimp only
    split
    · exact keeps_emitCommented (hrefs q' t heq) "select" hq'
    · exact hq'

theorem keeps_selectAggregate (h : Stable groups q P) (hq : P q.joins) (source : String)
    (label : Option String) (aggregate : Aggregate) :
    P (q.selectAggregate groups source label aggregate).1.joins := by
  unfold selectAggregate
  split
  · exact keeps_andThen (keeps_aggregateSql h hq source aggregate) fun q' sql _ hq' => hq'
  · exact hq

theorem keeps_require (h : Stable groups q P) (hq : P q.joins) (source : String) :
    P (q.require groups source).1.joins := by
  unfold require
  obtain ⟨hjoins, hrefs⟩ := keeps_enlist h hq source "where"
  refine keeps_andThen hjoins fun q' t heq hq' => ?_
  have hcondition : Term.RefsKeep groups P (asCondition t).fieldRefs := by
    rw [fieldRefs_asCondition]
    exact hrefs q' t heq
  refine keeps_andThen (keeps_queryEmit hcondition (some "where") hq') ?_
  exact fun q'' sql _ hq'' => h.condition _ _ _ hq''

theorem keeps_order (h : Stable groups q P) (hq : P q.joins) (source : String)
    (dir : Option SortDir) (nulls : Option NullsOrder) :
    P (q.order groups source dir nulls).1.joins := by
  unfold order
  obtain ⟨hjoins, hrefs⟩ := keeps_enlist h hq source "orderby"
  refine keeps_andThen hjoins fun q' t heq hq' => ?_
  refine keeps_andThen (keeps_emitCommented (hrefs q' t heq) "orderby" hq') ?_
  exact fun q'' sql _ hq'' => hq''

/-- A variable that is registered by its name. -/
theorem keeps_registerVariable (h : Stable groups q P) (hq : P q.joins) (name : String) :
    P (q.register groups name).1.joins := by
  unfold register
  split
  · exact hq
  · next field hfield =>
    split
    · exact hq
    · next hfree => exact h.root name field q.joins hfield hfree hq

/-- **A step preserves what registering references and adding conditions preserve.** -/
theorem Op.keeps (h : Stable groups q P) (hq : P q.joins) (op : Op) (hop : op.Admits groups P) :
    P (op.run groups q).joins := by
  cases op with
  | select source label aggregate =>
    cases aggregate with
    | none => exact keeps_selectPlain h hq source label
    | some aggregate => exact keeps_selectAggregate h hq source label aggregate
  | selectSql sql comment label =>
    show P (q.selectSql sql comment label).1.joins
    unfold Query.selectSql
    split <;> exact hq
  | require source => exact keeps_require h hq source
  | requireSql sql comment => exact h.condition _ _ _ hq
  | order source dir nulls => exact keeps_order h hq source dir nulls
  | register name => exact keeps_registerVariable h hq name
  -- terms and tables that are given as such are admitted by hypothesis
  | registerTerm t => exact keeps_register hop hq
  | emit t context => exact keeps_queryEmit hop context hq
  | fromSql table comment label =>
    show P (q.fromSql table comment label).1.joins
    unfold Query.fromSql
    split
    · exact hop _ _ _ hq
    · split
      · exact hq
      · exact hop _ _ _ hq
  | _ => exact hq

end Keeps

/-! ### Variables -/

/-- The variables after a step. -/
def Op.vars (op : Op) (vars : Vars) : Vars :=
  match op with
  | .bindVar name field => vars.insert name field
  | .setVars vars => vars
  | _ => vars

section Variables

variable {groups : Groups} {q : Query} {vars : Vars}

/-- Two steps that leave the variables alone. -/
theorem vars_andThen {α β : Type} {step : Query × Except QueryError α}
    {next : Query → α → Query × Except QueryError β} (hstep : step.1.vars = vars)
    (hnext : ∀ q' a, q'.vars = vars → (next q' a).1.vars = vars) :
    (andThen step next).1.vars = vars := by
  unfold andThen
  split
  · exact hstep
  · exact hnext _ _ hstep

theorem vars_enlist (source clause : String) :
    (q.enlist groups source clause).1.vars = q.vars := by
  unfold enlist
  split <;> rfl

theorem vars_aggregateSql (source : String) (aggregate : Aggregate) :
    (q.aggregateSql groups source aggregate).1.vars = q.vars := by
  unfold aggregateSql
  split
  · rfl
  · refine vars_andThen (vars_enlist source "select") fun q' t hq' => ?_
    dsimp only
    split <;> exact hq'

/-- **A step leaves the variables alone** unless it is about them. -/
theorem Op.vars_run (op : Op) : (op.run groups q).vars = op.vars q.vars := by
  -- a step that is refused half-way has touched the tables only
  cases op with
  | select source label aggregate =>
    cases aggregate with
    | none =>
      show (q.selectPlain groups source label).1.vars = q.vars
      unfold selectPlain
      split
      · refine vars_andThen (vars_enlist source "select") fun q' t hq' => ?_
        exact vars_andThen hq' fun q'' sql hq'' => hq''
      · rfl
    | some aggregate =>
      show (q.selectAggregate groups source label aggregate).1.vars = q.vars
      unfold selectAggregate
      split
      · exact vars_andThen (vars_aggregateSql source aggregate) fun q' sql hq' => hq'
      · rfl
  | selectSql sql comment label =>
    show (q.selectSql sql comment label).1.vars = q.vars
    unfold Query.selectSql
    split <;> rfl
  | require source =>
    refine vars_andThen (vars_enlist source "where") fun q' t hq' => ?_
    exact vars_andThen hq' fun q'' sql hq'' => hq''
  | order source dir nulls =>
    refine vars_andThen (vars_enlist source "orderby") fun q' t hq' => ?_
    exact vars_andThen hq' fun q'' sql hq'' => hq''
  | register name =>
    show (q.register groups name).1.vars = q.vars
    unfold Query.register
    split
    · rfl
    · split <;> rfl
  | fromSql table comment label =>
    show (q.fromSql table comment label).1.vars = q.vars
    unfold Query.fromSql
    split
    · rfl
    · split <;> rfl
  | _ => rfl

end Variables

/-- The queries that come about by steps, each with the groups that are there at its time. -/
inductive Reached : Query → Prop where
  | start (vars : Vars) : Reached (.ofVars vars)
  | step {q : Query} (groups : Groups) (op : Op) (before : Reached q) : Reached (op.run groups q)

end Query

/-! ### Aliases are numbered -/

/-- The alias of the n-th table. -/
def IsAlias (label : String) : Prop := ∃ n : Nat, label = "t" ++ toString n

/-- The registered aliases are those that tables get by their number. -/
def Joins.Labelled (j : Joins) : Prop :=
  ∀ path label, j.aliases.get? path = some (some label) → IsAlias label

section Labelled

variable {groups : Groups} {j : Joins}

/-- **What registering a path does.** The alias goes to the path, and the table of the group, if there
is one, to the tables; conditions do not matter to either. -/
theorem Joins.exists_enter_eq (groups : Groups) (path : String) (field : Field) (comment : String)
    (master : Option String) (j : Joins) :
    ∃ conditions, j.enter groups path field comment master =
      match (groups.target? field).bind Group.tableSql with
      | none => (⟨j.tables, conditions, j.aliases.insert path none⟩, none)
      | some table =>
        (⟨j.tables.insert (table ++ " " ++ j.nextAlias) ⟨table, some comment, some j.nextAlias⟩,
          conditions, j.aliases.insert path (some j.nextAlias)⟩, some j.nextAlias) := by
  unfold Joins.enter
  cases field.join with
  | none => exact ⟨j.conditions, rfl⟩
  | some template =>
    exact ⟨(j.addCondition (instantiate template master j.nextAlias) (some comment)).conditions,
      rfl⟩

/-- Registering one path. -/
theorem Joins.Labelled.enter (hj : j.Labelled) (path : String) (field : Field) (comment : String)
    (master : Option String) :
    (j.enter groups path field comment master).1.Labelled ∧
      ∀ label ∈ (j.enter groups path field comment master).2, IsAlias label := by
  -- whatever alias the path gets, the other paths keep theirs
  have hinsert : ∀ new : Option String, (∀ label ∈ new, IsAlias label) → ∀ path' label,
      (j.aliases.insert path new).get? path' = some (some label) → IsAlias label := by
    intro new hnew path' label hget
    rw [OrderedMap.get?_insert] at hget
    split at hget
    · exact hnew label (Option.some.inj hget)
    · exact hj path' label hget
  have hnext : ∀ label ∈ some j.nextAlias, IsAlias label := by
    rintro label ⟨⟩
    exact ⟨_, rfl⟩
  obtain ⟨conditions, henter⟩ := exists_enter_eq groups path field comment master j
  rw [henter]
  split
  · refine ⟨hinsert none ?_, ?_⟩ <;> rintro label ⟨⟩
  · exact ⟨hinsert _ hnext, hnext⟩

/-- Registering a reference, whatever it refers to. -/
theorem Joins.Labelled.register (hj : j.Labelled) (groups : Groups) (t : Term) :
    (t.register groups j).1.Labelled ∧ ∀ label ∈ (t.register groups j).2, IsAlias label := by
  -- the cases are those of registering: nothing to do, known already, or new behind its parent
  fun_induction Term.register groups t j with
  | case1 | case2 => exact ⟨hj, nofun⟩
  | case3 _ _ _ _ _ _ j _ path _ label hlabel =>
    refine ⟨hj, ?_⟩
    rintro l ⟨⟩
    exact hj path l hlabel
  | case4 _ _ _ _ _ _ _ _ _ _ _ _ _ hregister _ ih =>
    have hparent := ih hj
    rw [hregister] at hparent
    exact ⟨hparent.1, nofun⟩
  | case5 _ _ _ _ _ _ _ _ path _ _ _ master hregister field _ ih =>
    have hparent := ih hj
    rw [hregister] at hparent
    exact hparent.1.enter path field _ master
  | case6 => exact ⟨hj, nofun⟩

/-- **In a query the aliases are numbered**, whatever its steps. -/
theorem Query.Reached.labelled {q : Query} (h : q.Reached) : q.joins.Labelled := by
  induction h with
  | start vars => exact fun path label hget => nomatch hget
  | @step q groups op _ ih =>
    have hrefs : ∀ refs : List Term, Term.RefsKeep groups Joins.Labelled refs :=
      fun refs ref _ j hj => (hj.register groups ref).1
    have hstable : Stable groups q Joins.Labelled :=
      { condition := fun j sql comment hj => hj
        compiled := fun source t _ => hrefs t.fieldRefs
        root := fun name field j _ _ hj => (hj.enter name field name none).1 }
    refine op.keeps hstable ih ?_
    cases op with
    | registerTerm t | emit t _ => exact hrefs t.fieldRefs
    | fromSql table comment label => exact fun j key entry hj => hj
    | _ => trivial

end Labelled

end QueryExpr
