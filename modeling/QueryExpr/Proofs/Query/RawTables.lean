import QueryExpr.Proofs.Query.Aliases

/-!
# Tables given as SQL

A query keeps its tables by the text in which they stand there, name and alias. Tables that are given as
SQL are kept beside the ones that paths lead to, whose aliases are numbered, and nothing keeps the two
kinds apart: a numbered alias is given out without looking whether there is such an alias already, and a
table whose text is there already takes the place of the other one.

This module shows that nothing else can go wrong. As long as no table given as SQL ends in an alias whose
number is reached, no alias is there twice and no text is lost, whatever the steps of the query are
(`Joins.Kept`). A table is then lost only to another one that is given as SQL with the same text.
-/

namespace QueryExpr

/-- The table as it stands in the query, without its comment. -/
def Table.text (t : Table) : String :=
  match t.label with
  | some label => t.name ++ " " ++ label
  | none => t.name

/-- The table and its alias. -/
def Table.pair (t : Table) : String × Option String := (t.name, t.label)

/-- The text ends in none of the numbered aliases up to the one that comes after n tables. -/
def Table.IsUnnumbered (n : Nat) (t : Table) : Prop :=
  ∀ front, ∀ i ≤ n, t.text ≠ front ++ " " ++ aliasAt i

/-! ### Steps that bring in paths only -/

theorem Term.keeps_register_of_enter {groups : Groups} {P : Joins → Prop}
    (henter : ∀ j path field comment master, P j → P (j.enter groups path field comment master).1)
    (t : Term) {j : Joins} (hj : P j) : P (t.register groups j).1 := by
  -- the cases are those of registering: nothing to do, known already, or new behind its parent
  fun_induction Term.register groups t j with
  | case1 | case2 | case3 | case6 => exact hj
  | case4 _ _ _ _ _ _ _ _ _ _ _ _ _ hregister _ ih =>
    have hparent := ih hj
    rw [hregister] at hparent
    exact hparent
  | case5 _ _ _ _ _ _ _ _ path _ _ _ master hregister field _ ih =>
    have hparent := ih hj
    rw [hregister] at hparent
    exact henter _ path field _ master hparent

namespace Query

/-- The table that a step gives as SQL. -/
def Op.rawTable? : Op → Option Table
  | .fromSql table comment label => some ⟨table, comment, label⟩
  | _ => none

/-- **A step that gives no table preserves what registering paths and adding conditions preserve.** -/
theorem Op.keeps_of_enter {groups : Groups} {q : Query} {P : Joins → Prop}
    (hcondition : ∀ j sql comment, P j → P (j.addCondition sql comment))
    (henter : ∀ j path field comment master, P j → P (j.enter groups path field comment master).1)
    {op : Op} (hop : op.rawTable? = none) (hq : P q.joins) : P (op.run groups q).joins := by
  have hrefs : ∀ refs : List Term, Term.RefsKeep groups P refs :=
    fun refs ref _ j hj => ref.keeps_register_of_enter henter hj
  have hstable : Stable groups q P :=
    { condition := hcondition
      compiled := fun source t _ => hrefs t.fieldRefs
      root := fun name field j _ _ hj => henter j name field name none hj }
  refine op.keeps hstable hq ?_
  cases op with
  | registerTerm t | emit t _ => exact hrefs t.fieldRefs
  | fromSql table comment label => cases hop
  | _ => trivial

/-- A step that gives a table is refused if its alias is there already, and inserts the table otherwise. -/
theorem Op.run_of_rawTable? {op : Op} {table : Table} (hop : op.rawTable? = some table)
    (groups : Groups) (q : Query) :
    ((∃ label ∈ q.joins.tables.values.filterMap Table.label, table.label = some label) ∧
      op.run groups q = q) ∨
    ((∀ label, table.label = some label → label ∉ q.joins.tables.values.filterMap Table.label) ∧
      (op.run groups q).joins = { q.joins with tables := q.joins.tables.insert table.text table }) := by
  cases op with
  | fromSql name comment label =>
    cases hop
    show (_ ∧ (q.fromSql name comment label).1 = q) ∨ _ ∧ (q.fromSql name comment label).1.joins = _
    unfold Query.fromSql
    cases label with
    | none => exact .inr ⟨nofun, rfl⟩
    | some label =>
      have hany : (q.joins.tables.values.any fun t => t.label = some label) = true ↔
          label ∈ q.joins.tables.values.filterMap Table.label := by
        simp [List.mem_filterMap]
      -- the check is for the alias alone, whatever the table
      by_cases hmem : label ∈ q.joins.tables.values.filterMap Table.label
      · dsimp only
        rw [if_pos (hany.mpr hmem)]
        exact .inl ⟨⟨label, hmem, rfl⟩, rfl⟩
      · dsimp only
        rw [if_neg fun h => hmem (hany.mp h)]
        refine .inr ⟨?_, rfl⟩
        rintro _ ⟨⟩
        exact hmem
  | _ => cases hop

end Query

/-! ### Keeping the tables apart -/

namespace Joins

/-- The tables are kept by their text, each of them is one that is given or numbered, and no alias is
there twice. -/
structure Kept (raw : List Table) (j : Joins) : Prop where
  text : ∀ key entry, j.tables.get? key = some entry → entry.text = key
  origin : ∀ entry ∈ j.tables.values,
    entry ∈ raw ∨ ∃ i < j.tables.size, entry.label = some (aliasAt i)
  labels : (j.tables.values.filterMap Table.label).Nodup

section Kept

variable {raw : List Table} {j : Joins}

theorem kept_empty : Kept raw {} where
  text := nofun
  origin := nofun
  labels := List.nodup_nil

/-- Only the tables matter. -/
theorem Kept.of_tables (h : j.Kept raw) {j' : Joins} (htables : j'.tables = j.tables) :
    j'.Kept raw := by
  obtain ⟨tables, conditions, aliases⟩ := j'
  cases htables
  exact ⟨h.text, h.origin, h.labels⟩

/-- One more table, whose alias is new. -/
theorem Kept.insert (h : j.Kept raw) {entry : Table}
    (hlabel : ∀ label, entry.label = some label → label ∉ j.tables.values.filterMap Table.label)
    (horigin : entry ∈ raw ∨
      ∃ i < (j.tables.insert entry.text entry).size, entry.label = some (aliasAt i)) :
    Kept raw { j with tables := j.tables.insert entry.text entry } := by
  obtain ⟨front, back, hvalues, hvalues'⟩ := OrderedMap.exists_values_insert j.tables entry.text entry
  refine ⟨?_, ?_, ?_⟩
  · intro key entry' hget
    rw [OrderedMap.get?_insert] at hget
    split at hget
    · next hkey =>
      cases hget
      exact hkey.symm
    · exact h.text key entry' hget
  · have hsize := OrderedMap.size_le_insert j.tables entry.text entry
    -- the other tables are as before, and there are no fewer of them
    have hold : ∀ entry' ∈ j.tables.values, entry' ∈ raw ∨
        ∃ i < (j.tables.insert entry.text entry).size, entry'.label = some (aliasAt i) := by
      intro entry' hmem
      rcases h.origin entry' hmem with hraw | ⟨i, hi, hlabel'⟩
      · exact .inl hraw
      · exact .inr ⟨i, by omega, hlabel'⟩
    intro entry' hmem
    change entry' ∈ (j.tables.insert entry.text entry).values at hmem
    rw [hvalues', List.mem_append, List.mem_cons] at hmem
    rcases hmem with hfront | rfl | hback
    · exact hold entry' (by rw [hvalues]; simp [hfront])
    · exact horigin
    · exact hold entry' (by rw [hvalues]; simp [hback])
  · show ((j.tables.insert entry.text entry).values.filterMap Table.label).Nodup
    have hothers : ((front ++ back).filterMap Table.label).Sublist
        (j.tables.values.filterMap Table.label) := by
      rw [hvalues]
      exact (List.Sublist.append (List.sublist_append_left _ _) (List.Sublist.refl _)).filterMap _
    have hnodup := h.labels.sublist hothers
    rw [hvalues', List.filterMap_append, List.filterMap_cons]
    rw [List.filterMap_append] at hnodup hothers
    cases hentry : entry.label with
    | none => exact hnodup
    | some label =>
      exact List.nodup_middle.mpr
        (List.nodup_cons.mpr ⟨fun hmem => hlabel label hentry (hothers.subset hmem), hnodup⟩)

theorem size_le_enter (groups : Groups) (path : String) (field : Field) (comment : String)
    (master : Option String) (j : Joins) :
    j.tables.size ≤ (j.enter groups path field comment master).1.tables.size := by
  obtain ⟨conditions, henter⟩ := exists_enter_eq groups path field comment master j
  rw [henter]
  split
  · exact Nat.le_refl _
  · exact OrderedMap.size_le_insert _ _ _

variable {n : Nat} (hraw : ∀ table ∈ raw, table.IsUnnumbered n)

include hraw

/-- The text of the next table is new. -/
theorem Kept.get?_next (h : j.Kept raw) (hsize : j.tables.size ≤ n) (name : String) :
    j.tables.get? (name ++ " " ++ j.nextAlias) = none := by
  rw [Option.eq_none_iff_forall_ne_some]
  intro entry hget
  have htext := h.text _ entry hget
  rcases h.origin entry (OrderedMap.mem_values_of_get? hget) with hgiven | ⟨i, hi, hlabel⟩
  · exact hraw entry hgiven name j.tables.size hsize htext
  · rw [Table.text, hlabel] at htext
    have heq : i = j.tables.size := eq_of_key_eq htext
    omega

/-- The alias of the next table is new. -/
theorem Kept.nextAlias_not_mem (h : j.Kept raw) (hsize : j.tables.size ≤ n) :
    j.nextAlias ∉ j.tables.values.filterMap Table.label := by
  intro hmem
  obtain ⟨entry, hentry, hlabel⟩ := List.mem_filterMap.mp hmem
  rcases h.origin entry hentry with hgiven | ⟨i, hi, hlabel'⟩
  · refine hraw entry hgiven entry.name j.tables.size hsize ?_
    rw [Table.text, hlabel]
    rfl
  · have heq : i = j.tables.size := aliasAt_inj (Option.some.inj (hlabel'.symm.trans hlabel))
    omega

/-- **Registering a path keeps the tables apart**: the table that comes in is new, and so nothing that
the tables have about them is lost. -/
theorem Kept.enter (h : j.Kept raw) (hsize : j.tables.size ≤ n) (groups : Groups) (path : String)
    (field : Field) (comment : String) (master : Option String) :
    (j.enter groups path field comment master).1.Kept raw ∧
      ∀ {α : Type} {f : Table → α} {a : α}, a ∈ j.tables.values.map f →
        a ∈ (j.enter groups path field comment master).1.tables.values.map f := by
  obtain ⟨conditions, henter⟩ := exists_enter_eq groups path field comment master j
  rw [henter]
  split
  · exact ⟨h.of_tables rfl, fun hmem => hmem⟩
  · next name _ =>
    -- the next alias is not that of any table, so the text with it is new
    have hnew := h.get?_next hraw hsize name
    let entry : Table := ⟨name, some comment, some j.nextAlias⟩
    have hnext : (j.tables.insert entry.text entry).size = j.tables.size + 1 :=
      OrderedMap.size_insert_of_get?_eq_none hnew _
    have hinsert : Kept raw { j with tables := j.tables.insert entry.text entry } := by
      refine h.insert ?_ (.inr ⟨j.tables.size, by omega, rfl⟩)
      rintro _ ⟨⟩
      exact h.nextAlias_not_mem hraw hsize
    refine ⟨hinsert.of_tables rfl, fun hmem => ?_⟩
    refine OrderedMap.mem_map_values_insert (fun old hold => ?_) hmem
    rw [hnew] at hold
    cases hold

end Kept

end Joins

/-! ### Steps and runs -/

namespace Query

/-- The number of tables never goes down. -/
theorem size_le_run (groups : Groups) (op : Op) (q : Query) :
    q.joins.tables.size ≤ (op.run groups q).joins.tables.size := by
  cases htable : op.rawTable? with
  | none =>
    exact op.keeps_of_enter (P := fun j => q.joins.tables.size ≤ j.tables.size)
      (fun j sql comment hj => hj)
      (fun j path field comment master hj =>
        Nat.le_trans hj (Joins.size_le_enter groups path field comment master j))
      htable (Nat.le_refl _)
  | some table =>
    rcases op.run_of_rawTable? htable groups q with ⟨-, hsame⟩ | ⟨-, hrun⟩
    · exact Nat.le_of_eq (congrArg (fun q => q.joins.tables.size) hsame.symm)
    · rw [hrun]
      exact OrderedMap.size_le_insert _ _ _

section Steps

variable {raw : List Table} {n : Nat} (hraw : ∀ table ∈ raw, table.IsUnnumbered n) {groups : Groups}
  {q : Query} {op : Op} (hop : ∀ table, op.rawTable? = some table → table ∈ raw)
  (hsize : (op.run groups q).joins.tables.size ≤ n) (hq : q.joins.Kept raw)

include hraw hop hsize hq

/-- **One step keeps the tables apart.** -/
theorem kept_run : (op.run groups q).joins.Kept raw := by
  cases htable : op.rawTable? with
  | none =>
    -- on the way there are at most as many tables as in the end
    refine op.keeps_of_enter (P := fun j => j.tables.size ≤ n → j.Kept raw) ?_ ?_ htable
      (fun _ => hq) hsize
    · intro j sql comment hj hle
      exact (hj hle).of_tables rfl
    · intro j path field comment master hj hle
      have hle' := Nat.le_trans (Joins.size_le_enter groups path field comment master j) hle
      exact ((hj hle').enter hraw hle' groups path field comment master).1
  | some table =>
    rcases op.run_of_rawTable? htable groups q with ⟨-, hsame⟩ | ⟨hlabel, hrun⟩
    · rw [hsame]
      exact hq
    · rw [hrun]
      exact hq.insert hlabel (.inl (hop table htable))

/-- **One step loses nothing about the tables** that given tables with the same text share. -/
theorem mem_map_run {α : Type} {f : Table → α}
    (hf : ∀ table ∈ raw, ∀ table' ∈ raw, table.text = table'.text → f table = f table') {a : α}
    (h : a ∈ q.joins.tables.values.map f) : a ∈ (op.run groups q).joins.tables.values.map f := by
  cases htable : op.rawTable? with
  | none =>
    -- whatever the step does to the tables, it does by registering paths
    suffices hboth : (op.run groups q).joins.Kept raw ∧
        a ∈ (op.run groups q).joins.tables.values.map f from hboth.2
    refine op.keeps_of_enter
      (P := fun j => j.tables.size ≤ n → j.Kept raw ∧ a ∈ j.tables.values.map f) ?_ ?_ htable
      (fun _ => ⟨hq, h⟩) hsize
    · intro j sql comment hj hle
      exact ⟨(hj hle).1.of_tables rfl, (hj hle).2⟩
    · intro j path field comment master hj hle
      have hle' := Nat.le_trans (Joins.size_le_enter groups path field comment master j) hle
      obtain ⟨hkept, hmem⟩ := (hj hle').1.enter hraw hle' groups path field comment master
      exact ⟨hkept, hmem (hj hle').2⟩
  | some table =>
    have hle := Nat.le_trans (size_le_run groups op q) hsize
    rcases op.run_of_rawTable? htable groups q with ⟨-, hsame⟩ | ⟨-, hrun⟩
    · rw [hsame]
      exact h
    · rw [hrun]
      refine OrderedMap.mem_map_values_insert (fun old hold => ?_) h
      have htext := hq.text _ old hold
      rcases hq.origin old (OrderedMap.mem_values_of_get? hold) with hgiven | ⟨i, hi, hlabel⟩
      · exact hf old hgiven table (hop table htable) htext
      · -- the text of a given table does not end in a numbered alias
        rw [Table.text, hlabel] at htext
        exact absurd htext.symm (hraw table (hop table htable) old.name i (by omega))

end Steps

/-- The query after some steps, each with the groups that are there at its time. -/
def runSteps (q : Query) (steps : List (Groups × Op)) : Query :=
  steps.foldl (fun q step => step.2.run step.1 q) q

/-- The tables that are given in the steps. -/
def rawTables (steps : List (Groups × Op)) : List Table :=
  steps.filterMap fun step => step.2.rawTable?

section Runs

variable {raw : List Table} {q : Query}

/-- What every step preserves whose table is one of the given ones. -/
theorem keeps_runSteps {P : Query → Prop}
    (hstep : ∀ (groups : Groups) (op : Op) (q : Query),
      (∀ table, op.rawTable? = some table → table ∈ raw) → P q → P (op.run groups q))
    (hq : P q) {steps : List (Groups × Op)} (hsteps : ∀ table ∈ rawTables steps, table ∈ raw) :
    P (runSteps q steps) := by
  induction steps generalizing q with
  | nil => exact hq
  | cons step steps ih =>
    -- the table of the first step and those of the others are all among the given ones
    have hfirst : ∀ table, step.2.rawTable? = some table → table ∈ raw := by
      intro table htable
      exact hsteps table (List.mem_filterMap.mpr ⟨step, List.mem_cons_self, htable⟩)
    have hrest : ∀ table ∈ rawTables steps, table ∈ raw := by
      intro table hmem
      obtain ⟨step', hstep', htable⟩ := List.mem_filterMap.mp hmem
      exact hsteps table (List.mem_filterMap.mpr ⟨step', List.mem_cons_of_mem step hstep', htable⟩)
    exact ih (hstep step.1 step.2 q hfirst hq) hrest

theorem size_le_runSteps (q : Query) (steps : List (Groups × Op)) :
    q.joins.tables.size ≤ (runSteps q steps).joins.tables.size :=
  keeps_runSteps (P := fun q' => q.joins.tables.size ≤ q'.joins.tables.size)
    (fun groups op q' _ hle => Nat.le_trans hle (size_le_run groups op q')) (Nat.le_refl _)
    fun _ hmem => hmem

variable {n : Nat} (hraw : ∀ table ∈ raw, table.IsUnnumbered n) (hq : q.joins.Kept raw)
  {steps : List (Groups × Op)} (hsteps : ∀ table ∈ rawTables steps, table ∈ raw)
  (hsize : (runSteps q steps).joins.tables.size ≤ n)

include hraw hq hsteps hsize

theorem kept_runSteps : (runSteps q steps).joins.Kept raw := by
  refine keeps_runSteps (P := fun q => q.joins.tables.size ≤ n → q.joins.Kept raw) ?_
    (fun _ => hq) hsteps hsize
  intro groups op q hop hkept hle
  exact kept_run hraw hop hle (hkept (Nat.le_trans (size_le_run groups op q) hle))

theorem mem_map_runSteps {α : Type} {f : Table → α}
    (hf : ∀ table ∈ raw, ∀ table' ∈ raw, table.text = table'.text → f table = f table') {a : α}
    (h : a ∈ q.joins.tables.values.map f) : a ∈ (runSteps q steps).joins.tables.values.map f := by
  suffices hboth : (runSteps q steps).joins.Kept raw ∧
      a ∈ (runSteps q steps).joins.tables.values.map f from hboth.2
  refine keeps_runSteps
    (P := fun q => q.joins.tables.size ≤ n → q.joins.Kept raw ∧ a ∈ q.joins.tables.values.map f) ?_
    (fun _ => ⟨hq, h⟩) hsteps hsize
  intro groups op q hop hkept hle
  obtain ⟨hq, hmem⟩ := hkept (Nat.le_trans (size_le_run groups op q) hle)
  exact ⟨kept_run hraw hop hle hq, mem_map_run hraw hop hle hq hf hmem⟩

end Runs

/-- **No alias twice and no table lost**, as long as no table given as SQL ends in a numbered alias that is
in use or next. After any steps the aliases of the tables are different from each other, and all the
texts of tables are still there after any further steps. The tables themselves, with their aliases, are
still there if those that are given with one text are one and the same. And a table that is given comes
in, unless its alias is there already. -/
theorem runSteps_keeps_tables {vars : Vars} {front back : List (Groups × Op)} {q q' : Query}
    (hq : runSteps (.ofVars vars) front = q) (hq' : runSteps q back = q')
    (hraw : ∀ table ∈ rawTables (front ++ back), table.IsUnnumbered q'.joins.tables.size) :
    (q.joins.tables.values.filterMap Table.label).Nodup ∧
    (∀ entry ∈ q.joins.tables.values, entry.text ∈ q'.joins.tables.values.map Table.text) ∧
    ((∀ table ∈ rawTables (front ++ back), ∀ table' ∈ rawTables (front ++ back),
        table.text = table'.text → table.pair = table'.pair) →
      ∀ entry ∈ q.joins.tables.values, entry.pair ∈ q'.joins.tables.values.map Table.pair) ∧
    ∀ (groups : Groups) (op : Op) (table : Table), op.rawTable? = some table →
      (∀ label, table.label = some label → label ∉ q.joins.tables.values.filterMap Table.label) →
      table ∈ (op.run groups q).joins.tables.values := by
  have hfront : ∀ table ∈ rawTables front, table ∈ rawTables (front ++ back) := by
    intro table hmem
    rw [rawTables, List.filterMap_append]
    exact List.mem_append_left _ hmem
  have hback : ∀ table ∈ rawTables back, table ∈ rawTables (front ++ back) := by
    intro table hmem
    rw [rawTables, List.filterMap_append]
    exact List.mem_append_right _ hmem
  have hsize : q.joins.tables.size ≤ q'.joins.tables.size := hq' ▸ size_le_runSteps q back
  -- there are never more tables than in the end, so no alias is numbered beyond that
  have hkept : q.joins.Kept (rawTables (front ++ back)) := by
    rw [← hq] at hsize ⊢
    exact kept_runSteps hraw Joins.kept_empty hfront hsize
  -- an entry is only replaced by one with the same text, so nothing that depends on the text alone is lost
  have hlost : ∀ {α : Type} {f : Table → α},
      (∀ table ∈ rawTables (front ++ back), ∀ table' ∈ rawTables (front ++ back),
        table.text = table'.text → f table = f table') →
      ∀ entry ∈ q.joins.tables.values, f entry ∈ q'.joins.tables.values.map f := by
    intro α f hf entry hentry
    rw [← hq'] at hraw ⊢
    exact mem_map_runSteps hraw hkept hback (Nat.le_refl _) hf (List.mem_map_of_mem hentry)
  refine ⟨hkept.labels, hlost fun _ _ _ _ htext => htext, fun hsame => hlost hsame, ?_⟩
  intro groups op table hop hlabel
  -- a table is refused only if its alias is taken
  rcases op.run_of_rawTable? hop groups q with ⟨⟨label, hmem, heq⟩, -⟩ | ⟨-, hrun⟩
  · exact absurd hmem (hlabel label heq)
  · rw [hrun]
    obtain ⟨_, _, -, hvalues⟩ := OrderedMap.exists_values_insert q.joins.tables table.text table
    show table ∈ (q.joins.tables.insert table.text table).values
    rw [hvalues]
    exact List.mem_append_right _ List.mem_cons_self

/-- Tables given with and without an alias, around those that paths lead to. One of the aliases has the
form of a numbered one, but a number that is not reached. -/
theorem runSteps_keeps_tables_log :
    ∃ groups vars front back q q', runSteps (.ofVars vars) front = q ∧ runSteps q back = q' ∧
      front = [(groups, Op.fromSql "log" none (some "t9")), (groups, .register "p")] ∧
      back = [(groups, Op.fromSql "more m" none none), (groups, .register "q")] ∧
      (∀ table ∈ rawTables (front ++ back), table.IsUnnumbered q'.joins.tables.size) ∧
      q.joins.tables.values.map Table.pair = [("log", some "t9"), ("person", some "t2")] ∧
      q'.joins.tables.values.map Table.pair =
        [("log", some "t9"), ("person", some "t2"), ("more m", none), ("person", some "t4")] ∧
      (q.joins.tables.values.filterMap Table.label).Nodup ∧
      ∀ entry ∈ q.joins.tables.values, entry.pair ∈ q'.joins.tables.values.map Table.pair := by
  let person : Field := ⟨"p", .null, none, none, some ⟨"person", 0⟩⟩
  let groups : Groups := ⟨1, .ofList [("person", 0, ⟨some "person", {}⟩)]⟩
  let vars : Vars := .ofList [("p", person), ("q", person)]
  let front : List (Groups × Op) :=
    [(groups, .fromSql "log" none (some "t9")), (groups, .register "p")]
  let back : List (Groups × Op) := [(groups, .fromSql "more m" none none), (groups, .register "q")]
  have hsize : (runSteps (runSteps (.ofVars vars) front) back).joins.tables.size = 4 := by
    decide +kernel
  have hraw : ∀ table ∈ rawTables (front ++ back),
      table.IsUnnumbered (runSteps (runSteps (.ofVars vars) front) back).joins.tables.size := by
    rw [hsize]
    -- the aliases in question are the ones up to the fifth, and no text has one of them at its end
    have hends : ∀ table ∈ rawTables (front ++ back), ∀ i < 5,
        ¬ (' ' :: (aliasAt i).toList) <:+ table.text.toList := by decide +kernel
    intro table hmem start i hi htext
    refine hends table hmem i (by omega) ⟨start.toList, ?_⟩
    rw [htext]
    simp
  have hsame : ∀ table ∈ rawTables (front ++ back), ∀ table' ∈ rawTables (front ++ back),
      table.text = table'.text → table.pair = table'.pair := by decide
  obtain ⟨hlabels, -, hpairs, -⟩ :=
    runSteps_keeps_tables (rfl : runSteps (.ofVars vars) front = _) rfl hraw
  exact ⟨groups, vars, front, back, _, _, rfl, rfl, rfl, rfl, hraw, by decide +kernel,
    by decide +kernel, hlabels, hpairs hsame⟩

/-- A numbered alias is given out beside the same alias of a table given as SQL, and a table given with a
numbered alias at the end of its text gives way to the one that a path leads to. -/
theorem numbered_alias_collides :
    ∃ groups vars,
      (runSteps (.ofVars vars) [(groups, .fromSql "log" none (some "t2")),
        (groups, .register "p")]).joins.tables.values.map Table.pair =
          [("log", some "t2"), ("person", some "t2")] ∧
      (runSteps (.ofVars vars)
        [(groups, .fromSql "person t2" none none)]).joins.tables.values.map Table.pair =
          [("person t2", none)] ∧
      (runSteps (.ofVars vars) [(groups, .fromSql "person t2" none none),
        (groups, .register "p")]).joins.tables.values.map Table.pair =
          [("person", some "t2")] := by
  let person : Field := ⟨"p", .null, none, none, some ⟨"person", 0⟩⟩
  let groups : Groups := ⟨1, .ofList [("person", 0, ⟨some "person", {}⟩)]⟩
  exact ⟨groups, .ofList [("p", person)], by decide +kernel, by decide +kernel, by decide +kernel⟩

end Query

end QueryExpr
