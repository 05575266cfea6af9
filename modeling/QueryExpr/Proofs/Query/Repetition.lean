import QueryExpr.Proofs.Query.Placeholders

/-!
# Steps that are repeated

A step that has been accepted can be repeated, and nothing changes any more. Three things have to come
together for this. The paths of an expression are registered by then, and a path that is registered keeps
its alias, so registering them again finds the same aliases (`Term.Settles`). SQL that is made again
therefore reads the same, and registers nothing (`Emission.Repeats`). And what the step takes in has a
key, which is taken by now: the text of a select expression with its alias, or the SQL of a condition
without its comment (`Op.takeIn_takeIn`).

An emission registers paths one after the other, so by the time it is repeated there are more of them than
each of its parts has seen. This is why both properties speak of all tables that come later, and not only
of those right after the first time.
-/

namespace QueryExpr

/-! ### Paths that keep their aliases -/

/-- The paths that are registered in the first have the same aliases in the second. -/
def Joins.Retained (j j' : Joins) : Prop :=
  ∀ path label, j.aliases.get? path = some label → j'.aliases.get? path = some label

namespace Joins.Retained

variable {j j' j'' : Joins}

theorem refl (j : Joins) : j.Retained j := fun _ _ hget => hget

theorem trans (h : j.Retained j') (h' : j'.Retained j'') : j.Retained j'' :=
  fun path label hget => h' path label (h path label hget)

theorem of_aliases_eq (h : j'.aliases = j.aliases) : j.Retained j' := by
  intro path label hget
  rw [h]
  exact hget

/-- A path that is new takes no alias away. -/
theorem enter (h : j.Retained j') {path : String} (hfree : j.aliases.get? path = none) (groups : Groups)
    (field : Field) (comment : String) (master : Option String) :
    j.Retained (j'.enter groups path field comment master).1 := by
  intro path' label hget
  have hne : path' ≠ path := by
    rintro rfl
    rw [hfree] at hget
    cases hget
  rw [Joins.get?_aliases_enter, if_neg hne]
  exact h path' label hget

end Joins.Retained

namespace Term

/-- Registering the reference takes no alias away, and finds the same alias ever after. -/
def Settles (groups : Groups) (t : Term) : Prop :=
  ∀ j, j.Retained (t.register groups j).1 ∧ ∀ j', (t.register groups j).1.Retained j' →
    t.register groups j' = (j', (t.register groups j).2)

/-- What has nothing to register. -/
theorem settles_of_register_eq {groups : Groups} {t : Term}
    (h : ∀ j, t.register groups j = (j, none)) : t.Settles groups := by
  intro j
  rw [h j]
  exact ⟨.refl j, fun j' _ => h j'⟩

/-- **A resolved reference settles.** -/
theorem settles_of_resolved {schema : Schema} {t : Term} (ht : Resolved schema t) (groups : Groups) :
    t.Settles groups := by
  -- only a member has something to register
  induction ht using Resolved.path_induction with
  | root identifier content name => exact settles_of_register_eq fun _ => rfl
  | @member parent _ field path identifier content _ _ _ horigin _ hpath ih =>
    intro j
    have hregister : ∀ j, (make (.field identifier (some field)) content [parent]).register groups j = _ :=
      Joins.register_member_eq hpath identifier field content horigin
    cases hget : j.aliases.get? path with
    | some label =>
      rw [hregister j, hget]
      refine ⟨.refl j, fun j' hj' => ?_⟩
      rw [hregister j', hj' path label hget]
    | none =>
      rw [hregister j, hget]
      refine ⟨(ih j).1.enter hget _ _ _ _, fun j' hj' => ?_⟩
      -- the path is in by now, with the alias that was given back
      rw [hregister j', hj' path _ ((Joins.get?_aliases_enter ..).trans (if_pos rfl))]
  | other t _ hother =>
    exact settles_of_register_eq (Joins.register_of_isField_eq_false hother groups)

end Term

/-! ### SQL that is made again -/

/-- If the emission gives SQL, it takes no alias away, and ever after it gives the same SQL and leaves the
tables alone. -/
def Emission.Repeats (e : Emission) : Prop :=
  ∀ j j' sql, e j = (j', .ok sql) →
    j.Retained j' ∧ ∀ j'', j'.Retained j'' → e j'' = (j'', .ok sql)

/-- What can be repeated is put together from what can be. -/
theorem Emission.compositional_repeats : Compositional Repeats where
  text := by
    rintro sql j _ _ ⟨⟩
    exact ⟨.refl j, fun _ _ => rfl⟩
  append := by
    intro a b ha hb j j₂ sql h
    unfold Emission.append at h
    split at h
    · cases h
    · next j₁ front hfront =>
      split at h
      · cases h
      · next back hback =>
        cases h
        obtain ⟨hj₁, hagain⟩ := ha j j₁ front hfront
        obtain ⟨hj₂, hagain'⟩ := hb j₁ j₂ back hback
        refine ⟨hj₁.trans hj₂, fun j' hj' => ?_⟩
        -- the first part does not see what the second has registered
        unfold Emission.append
        rw [hagain j' (hj₂.trans hj')]
        dsimp only
        rw [hagain' j' hj']

namespace Term

variable {groups : Groups} {t : Term}

/-- A term can be written again if all its references can be. -/
theorem repeats_emit (hrefs : ∀ ref ∈ t.fieldRefs, ref.Settles groups) :
    Emission.Repeats (t.emit groups) := by
  refine Emission.compositional_repeats.emit (fun _ _ _ _ h => by cases h) t ?_
  intro ref href hfield j j' sql h
  obtain ⟨hretained, hagain⟩ := hrefs ref href j
  rw [emit_of_isField hfield] at h
  cases h
  refine ⟨hretained, fun j'' hj'' => ?_⟩
  rw [emit_of_isField hfield, hagain j'' hj'']

/-- The same for the text of a whole term. -/
theorem repeats_toSql (hrefs : ∀ ref ∈ t.fieldRefs, ref.Settles groups) {context : Option String}
    {j j' : Joins} {sql : String} (h : t.toSql groups context j = (j', .ok sql)) :
    j.Retained j' ∧ ∀ j'', j'.Retained j'' → t.toSql groups context j'' = (j'', .ok sql) := by
  unfold toSql at h ⊢
  cases hcheck : t.check context with
  | error complaint =>
    rw [hcheck] at h
    cases h
  | ok _ =>
    rw [hcheck] at h
    dsimp only at h ⊢
    split at h
    · next hemit =>
      cases h
      obtain ⟨hretained, hagain⟩ := repeats_emit hrefs j j' sql hemit
      refine ⟨hretained, fun j'' hj'' => ?_⟩
      rw [hagain j'' hj'']
    · split at h <;> cases h

end Term

/-! ### Steps -/

theorem OrderedMap.insertNew_of_contains {κ ν : Type} [DecidableEq κ] {m : OrderedMap κ ν} {k : κ}
    (h : m.contains k = true) (v : ν) : m.insertNew k v = m := if_pos h

/-- A key that was inserted is taken. -/
theorem OrderedMap.insertNew_insertNew {κ ν : Type} [DecidableEq κ] (m : OrderedMap κ ν) (k : κ) (v : ν) :
    (m.insertNew k v).insertNew k v = m.insertNew k v := by
  refine insertNew_of_contains ?_ v
  rw [contains_iff_mem_keys, mem_keys_insertNew]
  exact .inr rfl

/-- A condition that is there is not added again. -/
theorem Joins.addCondition_addCondition (j : Joins) (condition : String) (comment : Option String) :
    (j.addCondition condition comment).addCondition condition comment =
      j.addCondition condition comment := by
  unfold addCondition
  rw [OrderedMap.insertNew_insertNew]

namespace Query

variable {groups : Groups} {q : Query} {t : Term}

/-- Registering the tables of a term, and again with more of them. -/
theorem settles_registerRefs (hrefs : ∀ ref ∈ t.fieldRefs, ref.Settles groups) (j : Joins) :
    j.Retained (registerRefs groups t j) ∧
      ∀ j', (registerRefs groups t j).Retained j' → registerRefs groups t j' = j' := by
  unfold registerRefs
  generalize t.fieldRefs = refs at hrefs
  induction refs generalizing j with
  | nil => exact ⟨.refl j, fun _ _ => rfl⟩
  | cons ref refs ih =>
    obtain ⟨hfirst, hagain⟩ := hrefs ref List.mem_cons_self j
    obtain ⟨hrest, hagain'⟩ := ih (ref.register groups j).1
      fun r hr => hrefs r (List.mem_cons_of_mem ref hr)
    refine ⟨hfirst.trans hrest, fun j' hj' => ?_⟩
    rw [List.foldl_cons, hagain j' (hrest.trans hj')]
    exact hagain' j' hj'

/-- The step adds what it takes in only once. Orders are listed as often as they are asked for. -/
def Op.isOnce : Op → Bool
  | .select _ _ _ | .require _ => true
  | _ => false

/-- What has been taken in is not taken in again. -/
theorem Op.takeIn_takeIn {op : Op} (h : op.isOnce = true) (t : Term) (sql : String) (q : Query) :
    op.takeIn t sql (op.takeIn t sql q) = op.takeIn t sql q := by
  cases op with
  | select source label aggregate =>
    cases aggregate with
    | none | some how =>
      dsimp only [Op.takeIn]
      rw [OrderedMap.insertNew_insertNew]
  | require source =>
    dsimp only [Op.takeIn]
    rw [Joins.addCondition_addCondition]
  | _ => cases h

/-- Whether plain and aggregated expressions would mix, and what names mean, is as it was. -/
theorem Op.fits_takeIn (op : Op) (t : Term) (sql : String) (q : Query) (joins : Joins) :
    op.fits (op.takeIn t sql { q with joins }) = op.fits q := by
  cases op with
  | select source label aggregate => cases aggregate <;> rfl
  | _ => rfl

/-- What is taken in does not change which names are known. -/
theorem Op.scope_takeIn (op : Op) (t : Term) (sql : String) (q : Query) (joins : Joins) :
    (op.takeIn t sql { q with joins }).scope groups = q.scope groups := by
  cases op with
  | select source label aggregate => cases aggregate <;> rfl
  | _ => rfl

/-- A step that takes an expression whose tables are all there. -/
theorem Op.run_of_settled {op : Op} {source clause : String} {sql : String}
    (hsource : op.source? = some (source, clause)) (hfit : op.fits q = true)
    (ht : compileValid (q.scope groups) source (some clause) = .ok t) (hsuits : op.suits t = true)
    (hrefs : registerRefs groups t q.joins = q.joins)
    (hsql : (op.view t).toSql groups (some clause) q.joins = (q.joins, .ok sql)) :
    op.run groups q = op.takeIn t sql q ∧ op.refusal? groups q = none := by
  have houtcome : op.Outcome groups q source clause (op.run groups q) (op.refusal? groups q) :=
    Op.outcome hsource
  generalize op.run groups q = q', op.refusal? groups q = refusal at houtcome ⊢
  -- nothing stands in the way of the expression, so it is taken in
  cases houtcome with
  | mixed unfit =>
    rw [hfit] at unfit
    cases unfit
  | refused fit compiled => cases compiled.symm.trans ht
  | unsuited fit compiled unsuited select =>
    cases compiled.symm.trans ht
    rw [hsuits] at unsuited
    cases unsuited
  | taken fit compiled suited emitted =>
    cases compiled.symm.trans ht
    obtain ⟨rfl, hsql'⟩ := toSql_of_emit emitted
    dsimp only at hsql' ⊢
    rw [hrefs, hsql] at hsql' ⊢
    cases hsql'
    exact ⟨rfl, rfl⟩

/-- **A step that has taken an expression in can be repeated.** -/
theorem Op.run_run {op : Op} (honce : op.isOnce = true) {source clause : String}
    (hsource : op.source? = some (source, clause)) (h : op.refusal? groups q = none) :
    op.run groups (op.run groups q) = op.run groups q ∧
      op.refusal? groups (op.run groups q) = none := by
  have houtcome : op.Outcome groups q source clause (op.run groups q) (op.refusal? groups q) :=
    Op.outcome hsource
  rw [h] at houtcome
  generalize hrun : op.run groups q = q' at houtcome ⊢
  cases houtcome with
  | @taken t q₁ sql fit compiled suited emitted =>
    have hresolved := resolved_of_mem_fieldRefs (resolved_of_compile (compile_of_compileValid compiled).1)
    have hsettles : ∀ ref ∈ t.fieldRefs, ref.Settles groups :=
      fun ref href => Term.settles_of_resolved (hresolved ref href) groups
    obtain ⟨rfl, hsql⟩ := toSql_of_emit emitted
    -- first the paths of the expression come in, then those that its SQL needs, then what is taken in
    have hviews : ∀ ref ∈ (op.view t).fieldRefs, ref.Settles groups := by
      rw [fieldRefs_view]
      exact hsettles
    obtain ⟨joins, hjoins⟩ : ∃ joins, (op.view t).toSql groups (some clause)
        (registerRefs groups t q.joins) = (joins, .ok sql) := ⟨_, Prod.ext rfl hsql⟩
    dsimp only
    rw [hjoins]
    obtain ⟨-, hrefs⟩ := settles_registerRefs hsettles q.joins
    obtain ⟨hemitted, hagain⟩ := Term.repeats_toSql hviews hjoins
    have htaken := Joins.Retained.of_aliases_eq (op.aliases_takeIn t sql { q with joins })
    obtain ⟨hagain', hrefusal⟩ := Op.run_of_settled hsource ((op.fits_takeIn t sql q joins).trans fit)
      (by rw [op.scope_takeIn]; exact compiled) suited (hrefs _ (hemitted.trans htaken))
      (hagain _ htaken)
    exact ⟨hagain'.trans (Op.takeIn_takeIn honce t sql _), hrefusal⟩

theorem eq_of_errorOf?_eq_none {step : Query × Except QueryError Unit} (h : errorOf? step = none) :
    step = (step.1, .ok ()) := by
  obtain ⟨q, e | a⟩ := step
  · cases h
  · rfl

/-- The same, said of what the step hands back. -/
theorem repeats_of_source? {op : Op} (honce : op.isOnce = true) {source clause : String}
    (hsource : op.source? = some (source, clause)) (step : Query → Query × Except QueryError Unit)
    (hrun : ∀ q, op.run groups q = (step q).1)
    (hrefusal : ∀ q, op.refusal? groups q = errorOf? (step q)) {q' : Query}
    (h : step q = (q', .ok ())) : step q' = (q', .ok ()) := by
  have haccepted : op.refusal? groups q = none := by
    rw [hrefusal, h]
    rfl
  have hfirst : op.run groups q = q' := by
    rw [hrun, h]
  obtain ⟨hagain, hrefusal'⟩ := Op.run_run honce hsource haccepted
  rw [hfirst, hrun] at hagain
  rw [hfirst, hrefusal] at hrefusal'
  rw [eq_of_errorOf?_eq_none hrefusal', hagain]

/-- A count takes no expression, but it is put in like the others. -/
theorem repeats_count {source : String} {label : Option String} {q' : Query}
    (h : q.selectAggregate groups source label .count = (q', .ok ())) :
    q'.selectAggregate groups source label .count = (q', .ok ()) := by
  unfold selectAggregate aggregateSql at h ⊢
  split at h
  · next hfit =>
    cases h
    rw [if_pos hfit, if_pos rfl]
    dsimp only [andThen]
    rw [OrderedMap.insertNew_insertNew]
  · cases h

theorem repeats_select {source : String} {label : Option String} {aggregate : Option Aggregate}
    {q' : Query} (h : q.select groups source label aggregate = (q', .ok ())) :
    q'.select groups source label aggregate = (q', .ok ()) := by
  by_cases hcount : aggregate = some .count
  · subst hcount
    exact repeats_count h
  · exact repeats_of_source? rfl (Op.source?_select source label hcount)
      (fun q => q.select groups source label aggregate) (fun _ => rfl) (fun _ => rfl) h

/-- A text that was selected as it is may be selected again. -/
theorem repeats_selectSql {sql : String} {comment label : Option String} {q' : Query}
    (h : q.selectSql sql comment label = (q', .ok ())) :
    q'.selectSql sql comment label = (q', .ok ()) := by
  unfold selectSql at h ⊢
  split at h
  · next hfit =>
    cases h
    dsimp only
    rw [if_pos hfit, OrderedMap.insertNew_insertNew]
  · cases h

/-- A variable whose table was asked for is registered, also if it has no table. -/
theorem repeats_register {name : String} {label : Option String} {q' : Query}
    (h : q.register groups name = (q', .ok label)) :
    q'.register groups name = (q', .ok label) := by
  unfold register at h
  cases hfield : q.vars.get? name with
  | none =>
    rw [hfield] at h
    cases h
  | some field =>
    rw [hfield] at h
    dsimp only at h
    -- either way the variable has this alias now
    have hknown : q'.vars = q.vars ∧ q'.joins.aliases.get? name = some label := by
      cases hget : q.joins.aliases.get? name with
      | some label' =>
        rw [hget] at h
        cases h
        exact ⟨rfl, hget⟩
      | none =>
        rw [hget] at h
        cases h
        exact ⟨rfl, (Joins.get?_aliases_enter ..).trans (if_pos rfl)⟩
    rw [register, hknown.1, hfield]
    dsimp only
    rw [hknown.2]

theorem repeats_queryEmit (hrefs : ∀ ref ∈ t.fieldRefs, ref.Settles groups) {context : Option String}
    {sql : String} {q' : Query} (h : q.emit groups t context = (q', .ok sql)) :
    q'.emit groups t context = (q', .ok sql) := by
  obtain ⟨rfl, hsql⟩ := toSql_of_emit h
  obtain ⟨-, hagain⟩ := Term.repeats_toSql hrefs (Prod.ext rfl hsql)
  unfold emit
  dsimp only
  rw [hagain _ (.refl _)]
  rfl

/-- **Repeating a step changes nothing.** A selection, plain or aggregated or given as SQL, a condition,
also one given as SQL, and a variable whose table is read: if the step has been accepted, then asking for
the same once more is accepted, hands back the same, and leaves the query exactly as it is. The same goes
for making the SQL of a compiled term, which reads the same the second time. -/
theorem accepted_step_repeats (groups : Groups) (q : Query) :
    (∀ source label aggregate q', q.select groups source label aggregate = (q', .ok ()) →
      q'.select groups source label aggregate = (q', .ok ())) ∧
    (∀ sql comment label q', q.selectSql sql comment label = (q', .ok ()) →
      q'.selectSql sql comment label = (q', .ok ())) ∧
    (∀ source q', q.require groups source = (q', .ok ()) → q'.require groups source = (q', .ok ())) ∧
    (∀ sql comment, (q.requireSql sql comment).requireSql sql comment = q.requireSql sql comment) ∧
    (∀ name label q', q.register groups name = (q', .ok label) →
      q'.register groups name = (q', .ok label)) ∧
    ∀ schema source t context q' sql, compile schema source = .ok t →
      q.emit groups t context = (q', .ok sql) → q'.emit groups t context = (q', .ok sql) := by
  refine ⟨fun source label aggregate q' h => repeats_select h,
    fun sql comment label q' h => repeats_selectSql h, fun source q' h => ?_, fun sql comment => ?_,
    fun name label q' h => repeats_register h, fun schema source t context q' sql ht h => ?_⟩
  · have hsource : (Op.require source).source? = some (source, "where") := rfl
    exact repeats_of_source? rfl hsource (fun q => q.require groups source) (fun _ => rfl)
      (fun _ => rfl) h
  · rw [requireSql, requireSql, Joins.addCondition_addCondition]
  · -- the references of a term that was compiled settle
    have hresolved := resolved_of_mem_fieldRefs (resolved_of_compile ht)
    exact repeats_queryEmit (fun ref href => Term.settles_of_resolved (hresolved ref href) groups) h

/-- The name of the boss: the first time two tables come in, the second time none. Counting twice counts
once, and SQL that is made again has the aliases that it had. -/
theorem accepted_step_repeats_boss :
    ∃ groups q q', Query.select groups q "p.boss.name" (some "n") none = (q', .ok ()) ∧
      q.joins.aliases.entries = [] ∧
      q'.joins.aliases.entries = [("p", some "t1"), ("p.boss", some "t2")] ∧
      q'.select groups "p.boss.name" (some "n") none = (q', .ok ()) ∧
      (∃ q'', q.select groups "" none (some .count) = (q'', .ok ()) ∧ q''.aggregates.size = 1 ∧
        q''.select groups "" none (some .count) = (q'', .ok ())) ∧
      ∃ t q'', compile (q.scope groups) "p.boss.name" = .ok t ∧
        q.emit groups t none = (q'', .ok "t2.name /* p.boss.name */") ∧
        q''.emit groups t none = (q'', .ok "t2.name /* p.boss.name */") := by
  let boss : Field := ⟨"boss", .str, some "\x7ba\x7d.boss", some "\x7bm\x7d.boss = \x7bd\x7d.id",
    some ⟨"person", 0⟩⟩
  let name : Field := ⟨"name", .str, some "\x7ba\x7d.name", none, none⟩
  let groups : Groups :=
    ⟨1, .ofList [("person", 0, ⟨some "person", .ofList [("boss", boss), ("name", name)]⟩)]⟩
  let q : Query := .ofVars (.ofList [("p", boss)])
  have hplain : errorOf? (q.select groups "p.boss.name" (some "n") none) = none := by decide +kernel
  have hcount : errorOf? (q.select groups "" none (some .count)) = none := by decide +kernel
  have hbefore : q.joins.aliases.entries = [] := rfl
  have haliases : (q.select groups "p.boss.name" (some "n") none).1.joins.aliases.entries =
      [("p", some "t1"), ("p.boss", some "t2")] := by decide +kernel
  have hsize : (q.select groups "" none (some .count)).1.aggregates.size = 1 := by decide +kernel
  have hsql : (compile (q.scope groups) "p.boss.name").toOption.bind
      (fun t => (q.emit groups t none).2.toOption) = some "t2.name /* p.boss.name */" := by
    decide +kernel
  -- from here on the query is known by these facts only
  clear_value q groups
  obtain ⟨hselect, -, -, -, -, hemit⟩ := accepted_step_repeats groups q
  have hfirst := eq_of_errorOf?_eq_none hplain
  have hcounted := eq_of_errorOf?_eq_none hcount
  obtain ⟨t, ht, hsql⟩ := Option.bind_eq_some_iff.mp hsql
  have hcompile : compile (q.scope groups) "p.boss.name" = .ok t := by
    cases hc : compile (q.scope groups) "p.boss.name" with
    | error e => rw [hc] at ht; cases ht
    | ok u => rw [hc] at ht; cases ht; rfl
  have hemitted : q.emit groups t none =
      ((q.emit groups t none).1, .ok "t2.name /* p.boss.name */") := by
    generalize q.emit groups t none = step at hsql ⊢
    obtain ⟨q', e | sql⟩ := step
    · cases hsql
    · cases hsql
      rfl
  exact ⟨groups, q, _, hfirst, hbefore, haliases, hselect _ _ _ _ hfirst,
    ⟨_, hcounted, hsize, hselect _ _ _ _ hcounted⟩, t, _, hcompile, hemitted,
    hemit _ _ _ _ _ _ hcompile hemitted⟩

end Query
end QueryExpr
