import QueryExpr.Proofs.Query.Needed

/-!
# What a refused step leaves behind

Every step that takes an expression registers tables before it makes SQL, so a refusal after that would
leave tables behind that nothing in the query refers to. This module shows that there is no such refusal
but one. SQL of a valid term can always be made (`emit_of_valid`), and a condition is valid if its
expression is, whatever the type, since there is a truth value of every type (`fault_asCondition`). So
an expression is either refused before anything is registered, or taken in (`clauseStep_outcome`).

The exception is aggregation: whether values of a type can be aggregated is asked only after the tables
of the expression have been registered (`Op.outcome_selectAggregate`). All that can come of a step with an
expression is listed in `Op.Outcome`.
-/

namespace QueryExpr

/-- There is a truth value of every type. -/
theorem Registry.provides_bool (type : DataType) :
    Standard.table.any (Registry.provides .func (some "bool") [type]) = true := by
  have hall : ∀ type ∈ DataType.all,
      Standard.table.any (Registry.provides .func (some "bool") [type]) = true := by
    decide +kernel
  refine hall type ?_
  cases type <;> decide

theorem compileValid_eq_ok_iff {schema : Schema} {source : String} {context : Option String}
    {t : Term} :
    compileValid schema source context = .ok t ↔ compile schema source = .ok t ∧ t.fault = none := by
  constructor
  · intro h
    obtain ⟨hcompile, hcheck⟩ := Query.compile_of_compileValid h
    exact ⟨hcompile, Term.check_eq_ok_iff.mp hcheck⟩
  · rintro ⟨hcompile, hfault⟩
    rw [compileValid, hcompile]
    show ((t.check context).mapError CompileError.invalid >>= fun _ => pure t) = .ok t
    rw [Term.check_eq_ok_iff.mpr hfault]
    rfl

/-- What an expression is compiled for matters to the complaints only. -/
theorem compileValid_eq_ok_congr {schema : Schema} {source : String} {t : Term}
    (context context' : Option String) :
    compileValid schema source context = .ok t ↔ compileValid schema source context' = .ok t :=
  compileValid_eq_ok_iff.trans compileValid_eq_ok_iff.symm

namespace Query

variable {groups : Groups} {q : Query} {t : Term}

/-- **A condition is valid if its expression is.** -/
theorem fault_asCondition (h : t.Judged) (hvalid : t.fault = none) : (asCondition t).fault = none := by
  have hcondition := judged_asCondition h
  unfold asCondition at hcondition ⊢
  split at hcondition
  · next hbool =>
    rw [if_pos hbool]
    exact hvalid
  · next hbool =>
    rw [if_neg hbool]
    rcases h.verdict_eq_valid_or_invalid with ⟨type, hverdict⟩ | ⟨fault, hverdict⟩
    · -- a valid term has a type, and every type can be converted to a truth value
      have htypes : Term.signature? (Term.mkFunc "bool" [t]).children = some [type] := by
        show [t].mapM (fun t => t.verdict.type?) = some [type]
        rw [List.mapM_cons, hverdict]
        rfl
      exact hcondition.fault_eq_none_of_provides rfl htypes (Registry.provides_bool type)
    · rw [Term.fault, hverdict] at hvalid
      cases hvalid

theorem emit_of_valid (groups : Groups) (q : Query) (h : t.Judged) (hvalid : t.fault = none)
    (context : Option String) : ∃ q' sql, q.emit groups t context = (q', .ok sql) := by
  rcases h.toSql_cases groups context q.joins with ⟨-, sql, hsql⟩ | ⟨complaint, hcheck, -⟩
  · refine ⟨{ q with joins := (t.toSql groups context q.joins).1 }, sql, ?_⟩
    dsimp only [emit]
    rw [hsql]
    rfl
  · rw [Term.check_eq_ok_iff.mpr hvalid] at hcheck
    cases hcheck

/-- Making SQL touches the tables only. -/
theorem toSql_of_emit {context : Option String} {q' : Query} {sql : String}
    (h : q.emit groups t context = (q', .ok sql)) :
    q' = { q with joins := (t.toSql groups context q.joins).1 } ∧
      (t.toSql groups context q.joins).2 = .ok sql := by
  unfold emit at h
  generalize t.toSql groups context q.joins = emission at h ⊢
  obtain ⟨joins, sql' | sql'⟩ := emission
  · cases h
  · cases h
    exact ⟨rfl, rfl⟩

/-! ### Steps that take an expression -/

/-- Why a step has been refused, if it has been. -/
def errorOf? {α : Type} (step : Query × Except QueryError α) : Option QueryError :=
  match step.2 with
  | .error e => some e
  | .ok _ => none

namespace Op

/-- Why the step is refused, if it is. -/
def refusal? (groups : Groups) (q : Query) : Op → Option QueryError
  | .select source label aggregate => errorOf? (q.select groups source label aggregate)
  | .selectSql sql comment label => errorOf? (q.selectSql sql comment label)
  | .require source => errorOf? (q.require groups source)
  | .order source dir nulls => errorOf? (q.order groups source dir nulls)
  | .register name => errorOf? (q.register groups name)
  | .emit t context => errorOf? (q.emit groups t context)
  | .fromSql table comment label => errorOf? (q.fromSql table comment label)
  | _ => none

/-- The expression that a step takes, and the clause that it is for. Counting takes none. -/
def source? : Op → Option (String × String)
  | .select _ _ (some .count) => none
  | .select source _ _ => some (source, "select")
  | .require source => some (source, "where")
  | .order source _ _ => some (source, "orderby")
  | _ => none

theorem source?_select (source : String) (label : Option String) {aggregate : Option Aggregate}
    (h : aggregate ≠ some .count) :
    (Op.select source label aggregate).source? = some (source, "select") := by
  rcases aggregate with _ | how
  · rfl
  · cases how with
    | count => exact absurd rfl h
    | _ => rfl

/-- Plain and aggregated expressions do not mix. -/
def fits (q : Query) : Op → Bool
  | .select _ _ none => q.aggregates.isEmpty
  | .select _ _ (some _) => q.selects.isEmpty
  | _ => true

/-- There is an aggregation of the term, if the step asks for one. -/
def suits (t : Term) : Op → Bool
  | .select _ _ (some how) => (t.dataType.getD .null).supports how
  | _ => true

/-- The term whose SQL the step takes in. -/
def view (t : Term) : Op → Term
  | .require _ => asCondition t
  | _ => t

/-- The query with the SQL of the expression taken in. -/
def takeIn (t : Term) (sql : String) (q : Query) : Op → Query
  | .select _ label none =>
    let entry : SelectEntry := ⟨Sql.withComment sql (some t.source), label, none⟩
    { q with selects := q.selects.insertNew entry.render entry }
  | .select _ label (some how) =>
    let entry : SelectEntry := ⟨Sql.withComment sql (some t.source), label, some how⟩
    { q with aggregates := q.aggregates.insertNew entry.render entry }
  | .require _ => { q with joins := q.joins.addCondition (sql ++ " = 1") (some t.source) }
  | .order _ dir nulls =>
    { q with orderBy := q.orderBy ++ [orderItem (Sql.withComment sql (some t.source)) dir nulls] }
  | _ => q

/-- What comes of a step that takes an expression: the query after it, and why it is refused. -/
inductive Outcome (groups : Groups) (q : Query) (op : Op) (source clause : String) :
    Query → Option QueryError → Prop where
  | mixed (unfit : op.fits q = false) : Outcome groups q op source clause q (some .mixedAggregation)
  | refused {e : CompileError} (fit : op.fits q = true)
      (compiled : compileValid (q.scope groups) source (some clause) = .error e) :
      Outcome groups q op source clause q (some (.compile e))
  /-- There is no such aggregation; the tables have been registered by then. -/
  | unsuited {t : Term} {label : Option String} {how : Aggregate} (fit : op.fits q = true)
      (compiled : compileValid (q.scope groups) source (some clause) = .ok t)
      (unsuited : op.suits t = false) (select : op = .select source label (some how)) :
      Outcome groups q op source clause { q with joins := registerRefs groups t q.joins }
        (some (.aggregate t.source (t.dataType.getD .null) how))
  | taken {t : Term} {q' : Query} {sql : String} (fit : op.fits q = true)
      (compiled : compileValid (q.scope groups) source (some clause) = .ok t)
      (suited : op.suits t = true)
      (emitted : Query.emit groups { q with joins := registerRefs groups t q.joins } (op.view t)
        (some clause) = (q', .ok sql)) :
      Outcome groups q op source clause (op.takeIn t sql q') none

end Op

/-- **One clause**: its expression is refused before anything has happened, or its SQL is taken in. -/
theorem clauseStep_outcome (source clause : String) {view : Term → Term}
    (hview : ∀ t, t.Judged → t.fault = none → (view t).Judged ∧ (view t).fault = none)
    (next : Query → Term → String → Query) :
    (∃ e, compileValid (q.scope groups) source (some clause) = .error e ∧
      clauseStep groups q source clause view next = (q, .error (.compile e))) ∨
    ∃ t q' sql, compileValid (q.scope groups) source (some clause) = .ok t ∧
      Query.emit groups { q with joins := registerRefs groups t q.joins } (view t) (some clause) =
        (q', .ok sql) ∧
      clauseStep groups q source clause view next = (next q' t sql, .ok ()) := by
  unfold clauseStep enlist
  cases hcompile : compileValid (q.scope groups) source (some clause) with
  | error e => exact .inl ⟨e, rfl, rfl⟩
  | ok t =>
    obtain ⟨ht, hvalid⟩ := compileValid_eq_ok_iff.mp hcompile
    -- what is compiled is valid, so its SQL can be made
    obtain ⟨hjudged, hfault⟩ := hview t (Term.judged_of_resolved (resolved_of_compile ht)) hvalid
    obtain ⟨q', sql, hemit⟩ := emit_of_valid groups
      { q with joins := registerRefs groups t q.joins } hjudged hfault (some clause)
    refine .inr ⟨t, q', sql, rfl, hemit, ?_⟩
    dsimp only [andThen]
    rw [hemit]

/-- A clause that has nothing to do with aggregation. -/
theorem Op.outcome_of_clauseStep (op : Op) {source clause : String} (hfit : op.fits q = true)
    (hsuits : ∀ t, op.suits t = true) {step : Query × Except QueryError Unit}
    (hstep : step = clauseStep groups q source clause (fun t => op.view t) fun q t sql =>
      op.takeIn t sql q)
    (hview : ∀ t : Term, t.Judged → t.fault = none → (op.view t).Judged ∧ (op.view t).fault = none) :
    op.Outcome groups q source clause step.1 (errorOf? step) := by
  rw [hstep]
  rcases clauseStep_outcome source clause hview fun q t sql => op.takeIn t sql q with
    ⟨e, he, hrun⟩ | ⟨t, q', sql, ht, hemit, hrun⟩
  · rw [hrun]
    exact .refused hfit he
  · rw [hrun]
    exact .taken hfit ht (hsuits t) hemit

/-- An aggregation: whether there is one of the term is asked after its tables are registered. -/
theorem Op.outcome_selectAggregate (source : String) (label : Option String) {how : Aggregate}
    (hcount : how ≠ .count) :
    (Op.select source label (some how)).Outcome groups q source "select"
      (q.selectAggregate groups source label how).1
      (errorOf? (q.selectAggregate groups source label how)) := by
  unfold selectAggregate
  by_cases hfit : q.selects.isEmpty = true
  swap
  · rw [if_neg hfit]
    exact .mixed (Bool.not_eq_true _ ▸ hfit)
  rw [if_pos hfit, aggregateSql, if_neg hcount, enlist]
  cases hcompile : compileValid (q.scope groups) source (some "select") with
  | error e => exact .refused hfit hcompile
  | ok t =>
    obtain ⟨ht, hvalid⟩ := compileValid_eq_ok_iff.mp hcompile
    have hjudged := Term.judged_of_resolved (resolved_of_compile ht)
    dsimp only [andThen]
    by_cases hsupports : (t.dataType.getD .null).supports how = true
    · -- the aggregation is there, so the SQL is made and taken in
      obtain ⟨q', sql, hemit⟩ := emit_of_valid groups
        { q with joins := registerRefs groups t q.joins } hjudged hvalid (some "select")
      rw [if_pos hsupports, emitCommented, hemit]
      show Op.Outcome _ _ _ _ _ ((Op.select source label (some how)).takeIn t sql q') none
      exact .taken hfit hcompile hsupports hemit
    · -- the tables of the term stay registered
      rw [if_neg hsupports]
      exact .unsuited hfit hcompile (Bool.not_eq_true _ ▸ hsupports) rfl

/-- **What comes of a step that takes an expression.** -/
theorem Op.outcome {op : Op} {source clause : String} (h : op.source? = some (source, clause)) :
    op.Outcome groups q source clause (op.run groups q) (op.refusal? groups q) := by
  cases op with
  | select source' label aggregate =>
    cases aggregate with
    | none =>
      cases h
      show Op.Outcome _ _ _ _ _ (q.selectPlain groups source label).1
        (errorOf? (q.selectPlain groups source label))
      by_cases hplain : q.aggregates.isEmpty = true
      · exact Op.outcome_of_clauseStep (.select source label none) hplain (fun _ => rfl)
          (selectPlain_eq hplain source label) fun _ hjudged hvalid => ⟨hjudged, hvalid⟩
      · rw [selectPlain, if_neg hplain]
        exact .mixed (Bool.not_eq_true _ ▸ hplain)
    | some how =>
      -- a count takes no expression
      have hcount : how ≠ .count := by
        rintro rfl
        cases h
      have hselect := Op.source?_select source' label fun heq => hcount (Option.some.inj heq)
      cases hselect.symm.trans h
      exact Op.outcome_selectAggregate source label hcount
  | require source' =>
    cases h
    exact Op.outcome_of_clauseStep (.require source) rfl (fun _ => rfl) rfl fun _ hjudged hvalid =>
      ⟨judged_asCondition hjudged, fault_asCondition hjudged hvalid⟩
  | order source' dir nulls =>
    cases h
    exact Op.outcome_of_clauseStep (.order source dir nulls) rfl (fun _ => rfl)
      (order_eq source dir nulls) fun _ hjudged hvalid => ⟨hjudged, hvalid⟩
  | _ => cases h

/-- A step that takes an expression is refused unless all is well with it. What the expression is
compiled for does not matter. -/
theorem Op.refusal?_eq_none_iff {op : Op} {source clause : String}
    (h : op.source? = some (source, clause)) (context : Option String) :
    op.refusal? groups q = none ↔
      op.fits q = true ∧
        ∃ t, compileValid (q.scope groups) source context = .ok t ∧ op.suits t = true := by
  have houtcome : op.Outcome groups q source clause (op.run groups q) (op.refusal? groups q) :=
    Op.outcome h
  rw [exists_congr fun t => and_congr_left' (compileValid_eq_ok_congr context (some clause))]
  generalize op.run groups q = q', op.refusal? groups q = refusal at houtcome
  cases houtcome with
  | mixed unfit =>
    refine ⟨nofun, fun hproper => ?_⟩
    rw [hproper.1] at unfit
    cases unfit
  | refused fit compiled =>
    refine ⟨nofun, ?_⟩
    rintro ⟨-, t, ht, -⟩
    cases compiled.symm.trans ht
  | unsuited fit compiled unsuited select =>
    refine ⟨nofun, ?_⟩
    rintro ⟨-, t, ht, hsuits⟩
    cases compiled.symm.trans ht
    rw [unsuited] at hsuits
    cases hsuits
  | taken fit compiled suited emitted =>
    exact ⟨fun _ => ⟨fit, _, compiled, suited⟩, fun _ => rfl⟩

/-! ### Refused steps -/

/-- If the step has been refused, then the query is as it was, and no aggregation was the reason. -/
def Clean {α : Type} (q : Query) (step : Query × Except QueryError α) : Prop :=
  ∀ e, errorOf? step = some e → step.1 = q ∧ ∀ source type how, e ≠ .aggregate source type how

section Clean

variable {α : Type}

theorem clean_error {e : QueryError} (h : ∀ source type how, e ≠ .aggregate source type how) :
    Clean q ((q, .error e) : Query × Except QueryError α) := by
  rintro e' ⟨⟩
  exact ⟨rfl, h⟩

theorem clean_ok (q' : Query) (a : α) : Clean q (q', .ok a) := nofun

theorem clean_selectSql (sql : String) (comment label : Option String) :
    Clean q (q.selectSql sql comment label) := by
  unfold selectSql
  split
  · exact clean_ok _ ()
  · exact clean_error nofun

theorem clean_fromSql (table : String) (comment label : Option String) :
    Clean q (q.fromSql table comment label) := by
  unfold fromSql
  split
  · exact clean_ok _ ()
  · split
    · exact clean_error nofun
    · exact clean_ok _ ()

theorem clean_register (name : String) : Clean q (q.register groups name) := by
  unfold register
  split
  · exact clean_error nofun
  · split
    · exact clean_ok q _
    · exact clean_ok _ _

theorem clean_emit (h : t.Judged) (context : Option String) : Clean q (q.emit groups t context) := by
  unfold emit
  rcases h.toSql_cases groups context q.joins with ⟨-, sql, hsql⟩ | ⟨complaint, hcheck, -⟩
  · dsimp only
    rw [hsql]
    exact clean_ok _ sql
  · -- a term that does not pass the check is not emitted at all
    rw [Term.toSql, hcheck]
    refine clean_error fun _ _ _ haggregate => ?_
    cases haggregate

/-- Counting, which takes no expression. -/
theorem clean_count (source : String) (label : Option String) :
    Clean q (q.selectAggregate groups source label .count) := by
  unfold selectAggregate aggregateSql
  split
  · exact clean_ok _ ()
  · exact clean_error nofun

end Clean

/-- **A refused step has done nothing**, except for an aggregation that the type does not have. -/
theorem Op.refused_cases {op : Op} (hop : ∀ t context, op = .emit t context → t.Judged)
    {error : QueryError} (h : op.refusal? groups q = some error) :
    (op.run groups q = q ∧ ∀ source type how, error ≠ .aggregate source type how) ∨
    ∃ source label how t, op = .select source label (some how) ∧
      compileValid (q.scope groups) source (some "select") = .ok t ∧
      error = .aggregate t.source (t.dataType.getD .null) how ∧
      op.run groups q = { q with joins := registerRefs groups t q.joins } := by
  cases hsource : op.source? with
  | some taken =>
    obtain ⟨source, clause⟩ := taken
    have houtcome : op.Outcome groups q source clause (op.run groups q) (op.refusal? groups q) :=
      Op.outcome hsource
    rw [h] at houtcome
    generalize op.run groups q = q' at houtcome ⊢
    cases houtcome with
    | mixed unfit => exact .inl ⟨rfl, nofun⟩
    | refused fit compiled => exact .inl ⟨rfl, nofun⟩
    | unsuited fit compiled unsuited select =>
      exact .inr ⟨_, _, _, _, select, (compileValid_eq_ok_congr _ _).mp compiled, rfl, rfl⟩
  | none =>
    -- without an expression a step leaves everything as it is when it is refused
    cases op with
    | select source label aggregate =>
      cases aggregate with
      | none => cases hsource
      | some how =>
        cases how with
        | count => exact .inl (clean_count source label error h)
        | _ => cases hsource
    | selectSql sql comment label => exact .inl (clean_selectSql sql comment label error h)
    | register name => exact .inl (clean_register name error h)
    | emit t context => exact .inl (clean_emit (hop t context rfl) context error h)
    | fromSql table comment label => exact .inl (clean_fromSql table comment label error h)
    | require _ | order _ _ _ => cases hsource
    | _ => cases h

/-- **A refused step leaves the query as it was**, unless it asks for an aggregation that the type of its
expression does not have: then the tables that the expression refers to have been registered, and nothing
else has changed. Conditions and orders are taken in exactly if their expression is valid, whatever its
type; plain selections if moreover nothing is aggregated, and aggregations if nothing else is selected
and there is such an aggregation of the expression. -/
theorem refused_step_leaves_query (groups : Groups) (q : Query) :
    (∀ (op : Op) (error : QueryError), (∀ t context, op = .emit t context → t.Constructed) →
      op.refusal? groups q = some error →
      ((∀ text type how, error ≠ .aggregate text type how) → op.run groups q = q) ∧
      ∀ text type how, error = .aggregate text type how →
        ∃ source label t, op = .select source label (some how) ∧
          compileValid (q.scope groups) source (some "select") = .ok t ∧
          op.run groups q = { q with joins := registerRefs groups t q.joins }) ∧
    (∀ source context, (Op.require source).refusal? groups q = none ↔
      ∃ t, compileValid (q.scope groups) source context = .ok t) ∧
    (∀ source dir nulls context, (Op.order source dir nulls).refusal? groups q = none ↔
      ∃ t, compileValid (q.scope groups) source context = .ok t) ∧
    (∀ source label context, (Op.select source label none).refusal? groups q = none ↔
      q.aggregates.isEmpty = true ∧ ∃ t, compileValid (q.scope groups) source context = .ok t) ∧
    ∀ source label how context, how ≠ .count →
      ((Op.select source label (some how)).refusal? groups q = none ↔
        q.selects.isEmpty = true ∧ ∃ t, compileValid (q.scope groups) source context = .ok t ∧
          (t.dataType.getD .null).supports how = true) := by
  refine ⟨fun op error hop hrefused => ?_, fun source context => ?_, fun source dir nulls context => ?_,
    fun source label context => ?_, fun source label how context hcount => ?_⟩
  · rcases Op.refused_cases (fun t context heq => (hop t context heq).judged) hrefused with
      ⟨hrun, hother⟩ | ⟨source, label, how, t, rfl, ht, rfl, hrun⟩
    · exact ⟨fun _ => hrun, fun text type how heq => absurd heq (hother text type how)⟩
    · -- the type of the expression does not have the aggregation
      refine ⟨fun hother => absurd rfl (hother _ _ _), ?_⟩
      rintro text type how ⟨⟩
      exact ⟨source, label, t, rfl, ht, hrun⟩
  · rw [Op.refusal?_eq_none_iff rfl context]
    simp [Op.fits, Op.suits]
  · rw [Op.refusal?_eq_none_iff rfl context]
    simp [Op.fits, Op.suits]
  · rw [Op.refusal?_eq_none_iff rfl context]
    simp [Op.fits, Op.suits]
  · have hsource : (Op.select source label (some how)).source? = some (source, "select") := by
      cases how with
      | count => exact absurd rfl hcount
      | _ => rfl
    rw [Op.refusal?_eq_none_iff hsource context]
    rfl

/-- A name has no sum, but asking for it reads the table of the person. As a condition the name is taken
in, and an expression that breaks off is not. -/
theorem refused_step_leaves_query_sum :
    ∃ groups q t, (Op.select "p.name" none (some .sum)).refusal? groups q =
        some (.aggregate "p.name" .str .sum) ∧
      compileValid (q.scope groups) "p.name" (some "select") = .ok t ∧
      (Op.select "p.name" none (some .sum)).run groups q =
        { q with joins := registerRefs groups t q.joins } ∧
      (registerRefs groups t q.joins).aliases.entries = [("p", some "t1")] ∧
      (Op.require "p.name").refusal? groups q = none ∧
      (Op.require "p.").refusal? groups q ≠ none ∧ (Op.require "p.").run groups q = q := by
  let name : Field := ⟨"name", .str, some "\x7ba\x7d.name", none, none⟩
  let person : Field := ⟨"p", .null, none, none, some ⟨"person", 0⟩⟩
  let groups : Groups := ⟨1, .ofList [("person", 0, ⟨some "person", .ofList [("name", name)]⟩)]⟩
  let q : Query := .ofVars (.ofList [("p", person)])
  obtain ⟨hrefused, hrequire, -, -, -⟩ := refused_step_leaves_query groups q
  have hsum : (Op.select "p.name" none (some .sum)).refusal? groups q =
      some (.aggregate "p.name" .str .sum) := by decide +kernel
  obtain ⟨-, haggregate⟩ := hrefused (.select "p.name" none (some .sum)) _ (by rintro t context ⟨⟩) hsum
  obtain ⟨source, label, t, heq, ht, hrun⟩ := haggregate _ _ _ rfl
  cases heq
  have haliases : ((Op.select "p.name" none (some .sum)).run groups q).joins.aliases.entries =
      [("p", some "t1")] := by decide +kernel
  rw [hrun] at haliases
  have hunknown : ((Op.require "p.").refusal? groups q).isSome = true := by decide +kernel
  obtain ⟨error, herror⟩ := Option.isSome_iff_exists.mp hunknown
  obtain ⟨hsame, hother⟩ := hrefused (.require "p.") error (by rintro t context ⟨⟩) herror
  refine ⟨groups, q, t, hsum, ht, hrun, haliases, (hrequire _ (some "select")).mpr ⟨t, ht⟩, ?_, ?_⟩
  · rw [herror]
    nofun
  · refine hsame fun text type how heq => ?_
    -- a condition is no aggregation
    obtain ⟨_, _, _, hop, -⟩ := hother text type how heq
    cases hop

end Query
end QueryExpr
