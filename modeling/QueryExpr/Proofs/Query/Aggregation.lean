import QueryExpr.Proofs.Query.Lines
import QueryExpr.Proofs.Query.Refusals

/-!
# Aggregated queries

A query selects plain expressions or aggregations, never both. Three steps add select expressions, and
each of them looks at the other kind before it adds its own, at a different moment; a refused step may
have registered tables by then, but it has not touched what is selected. So the exclusion is preserved by
every step (`Op.selection`), and what is selected as an aggregation goes back to the step that has added
it: a count, or an expression of a type that has this aggregation (`Query.Aggregates`).

The text of an aggregated query follows, line by line: its select clause lists the entries, and its group
by clause those of them that were added to group by, in the same order and without their aliases. The lines
around the two clauses do not depend on what is selected (`exists_lines_split`).
-/

namespace QueryExpr

/-! ### Entries -/

namespace SelectEntry

/-- What the alias adds to an expression. -/
def aliasText (e : SelectEntry) : String :=
  match e.label with
  | some label => " as " ++ label
  | none => ""

/-- The text of an aggregation in the select clause: an expression to group by, the number of records, or
a call of one of the three functions. -/
inductive IsItem (e : SelectEntry) : String → Prop where
  | group (how : e.aggregate = some .group) : IsItem e (e.sql ++ e.aliasText)
  | count (how : e.aggregate = some .count) : IsItem e ("count(*)" ++ e.aliasText)
  | call {aggregate : Aggregate} {function : String} (how : e.aggregate = some aggregate)
      (known : (aggregate, function) ∈ [(Aggregate.min, "min"), (.max, "max"), (.sum, "sum")]) :
      IsItem e (function ++ "(" ++ e.sql ++ ")" ++ e.aliasText)

end SelectEntry

/-- An insertion that keeps what is there brings in at most one value. -/
theorem OrderedMap.mem_values_insertNew {κ ν : Type} [DecidableEq κ] {m : OrderedMap κ ν} {k : κ}
    {v v' : ν} (h : v' ∈ (m.insertNew k v).values) : v' ∈ m.values ∨ v' = v := by
  unfold insertNew at h
  split at h
  · exact .inl h
  · next hcontains =>
    have hnew : m.get? k = none := by
      rw [get?_eq_none_iff]
      exact fun hk => hcontains ((contains_iff_mem_keys m k).mpr hk)
    rw [values_insert_of_get?_eq_none hnew, List.mem_append] at h
    exact h.imp_right List.mem_singleton.mp

namespace Query

/-! ### Steps -/

/-- The entry of an aggregation that the query accepts. A count takes no expression; any other one is of
an expression that is valid, of a type that has this aggregation. -/
inductive Aggregates (groups : Groups) (q : Query) (source : String) (label : Option String) :
    SelectEntry → Prop where
  | count : Aggregates groups q source label ⟨"", label, some .count⟩
  | expression {t : Term} {type : DataType} {how : Aggregate} {sql : String} (other : how ≠ .count)
      (compiled : compileValid (q.scope groups) source (some "select") = .ok t)
      (typed : t.dataType = some type) (supported : type.supports how = true)
      (emitted : (t.toSql groups (some "select") (registerRefs groups t q.joins)).2 = .ok sql) :
      Aggregates groups q source label ⟨Sql.withComment sql (some t.source), label, some how⟩

/-- What a step does to the select expressions: nothing, or it adds to one kind while there is none of
the other. -/
inductive Op.Selection (groups : Groups) (q : Query) (op : Op) (q' : Query) : Prop where
  | same (selects : q'.selects = q.selects) (aggregates : q'.aggregates = q.aggregates)
  | plain (alone : q.aggregates.isEmpty = true) (aggregates : q'.aggregates = q.aggregates)
  | aggregated {source : String} {label : Option String} {e : SelectEntry}
      (asked : op = .select source label e.aggregate) (accepted : q.Aggregates groups source label e)
      (alone : q.selects.isEmpty = true) (selects : q'.selects = q.selects)
      (aggregates : q'.aggregates = q.aggregates.insertNew e.render e)

section Steps

variable {groups : Groups} {q : Query}

/-- A valid term has a type. -/
theorem exists_dataType_of_compileValid {schema : Schema} {source : String} {context : Option String}
    {t : Term} (h : compileValid schema source context = .ok t) : ∃ type, t.dataType = some type := by
  obtain ⟨ht, hvalid⟩ := compileValid_eq_ok_iff.mp h
  have hjudged := Term.judged_of_resolved (resolved_of_compile ht)
  cases htype : t.dataType with
  | some type => exact ⟨type, rfl⟩
  | none =>
    have hfault := hjudged.dataType_eq_none_iff.mp htype
    rw [hvalid] at hfault
    cases hfault

/-- A step that takes an expression. -/
theorem Op.selection_of_source? {op : Op} {source clause : String}
    (hsource : op.source? = some (source, clause)) : op.Selection groups q (op.run groups q) := by
  have houtcome : op.Outcome groups q source clause (op.run groups q) (op.refusal? groups q) :=
    Op.outcome hsource
  generalize op.run groups q = q', op.refusal? groups q = refusal at houtcome ⊢
  cases houtcome with
  | mixed unfit => exact .same rfl rfl
  | refused fit compiled => exact .same rfl rfl
  -- the tables are registered by now, but nothing is selected
  | unsuited fit compiled unsuited select => exact .same rfl rfl
  | @taken t q' sql fit compiled suited emitted =>
    obtain ⟨rfl, hsql⟩ := toSql_of_emit emitted
    cases op with
    | select source' label aggregate =>
      cases aggregate with
      | none => exact .plain fit rfl
      | some how =>
        -- a count takes no expression, and this step does
        have hother : how ≠ .count := by
          rintro rfl
          cases hsource
        have hselect := Op.source?_select source' label fun heq => hother (Option.some.inj heq)
        cases hselect.symm.trans hsource
        obtain ⟨type, htype⟩ := exists_dataType_of_compileValid compiled
        have hsupported : type.supports how = true := by
          rw [Op.suits, htype] at suited
          exact suited
        exact .aggregated rfl (.expression hother compiled htype hsupported hsql) fit rfl rfl
    | require source' | order source' dir nulls => exact .same rfl rfl
    | _ => cases hsource

/-- **What a step selects**, whether it is refused or not. -/
theorem Op.selection (groups : Groups) (q : Query) (op : Op) :
    op.Selection groups q (op.run groups q) := by
  cases op with
  | select source label aggregate =>
    by_cases hcount : aggregate = some .count
    · -- a count has no expression, so all that it asks for is that nothing plain is selected
      subst hcount
      show Op.Selection groups q _ (q.selectAggregate groups source label .count).1
      unfold selectAggregate aggregateSql
      split
      · next hfit => exact .aggregated rfl .count hfit rfl rfl
      · exact .same rfl rfl
    · exact Op.selection_of_source? (Op.source?_select source label hcount)
  | selectSql sql comment label =>
    show Op.Selection groups q _ (q.selectSql sql comment label).1
    unfold Query.selectSql
    split
    · next hfit => exact .plain hfit rfl
    · exact .same rfl rfl
  | require source => exact Op.selection_of_source? rfl
  | order source dir nulls => exact Op.selection_of_source? rfl
  | register name =>
    show Op.Selection groups q _ (q.register groups name).1
    unfold Query.register
    split
    · exact .same rfl rfl
    · split <;> exact .same rfl rfl
  | fromSql table comment label =>
    show Op.Selection groups q _ (q.fromSql table comment label).1
    unfold Query.fromSql
    split
    · exact .same rfl rfl
    · split <;> exact .same rfl rfl
  | _ => exact .same rfl rfl

end Steps

/-! ### Runs -/

section Aggregates

variable {groups : Groups} {q : Query} {source : String} {label : Option String} {e : SelectEntry}

/-- The entry has the alias that was asked for. -/
theorem Aggregates.label_eq (h : q.Aggregates groups source label e) : e.label = label := by
  cases h <;> rfl

end Aggregates

/-- Where an aggregation comes from: some step on the way has asked for it, was accepted while nothing
plain was selected, and has put it in. -/
def IsAdded (e : SelectEntry) : Prop :=
  ∃ groups q source, q.Reached ∧ q.selects.isEmpty = true ∧ q.Aggregates groups source e.label e ∧
    e ∈ ((Op.select source e.label e.aggregate).run groups q).aggregates.values

/-- What holds of the select expressions of every query. -/
structure WellSelected (q : Query) : Prop where
  exclusive : q.selects.isEmpty = true ∨ q.aggregates.isEmpty = true
  added : ∀ e ∈ q.aggregates.values, IsAdded e

/-- **A step preserves the exclusion**, and what it adds as an aggregation is its own. -/
theorem WellSelected.run {q : Query} (h : q.WellSelected) (hq : q.Reached) (groups : Groups) (op : Op) :
    (op.run groups q).WellSelected := by
  have hselection := op.selection groups q
  cases hselection with
  | same selects aggregates =>
    refine ⟨?_, ?_⟩
    · rw [selects, aggregates]
      exact h.exclusive
    · rw [aggregates]
      exact h.added
  | plain alone aggregates =>
    -- there was no aggregation, and there is none now
    refine ⟨.inr ?_, ?_⟩
    · rw [aggregates]
      exact alone
    · rw [aggregates]
      exact h.added
  | @aggregated source label e asked accepted alone selects aggregates =>
    refine ⟨.inl ?_, ?_⟩
    · rw [selects]
      exact alone
    · intro e' he'
      have hmem := he'
      rw [aggregates] at hmem
      rcases OrderedMap.mem_values_insertNew hmem with hold | rfl
      · exact h.added e' hold
      · -- the entry is the new one, so this is the step that it comes from
        obtain rfl := accepted.label_eq
        rw [asked] at he'
        exact ⟨groups, q, source, hq, alone, accepted, he'⟩

end Query
end QueryExpr
