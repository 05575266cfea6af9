import QueryExpr.Proofs.Expr.Paraphrase
import QueryExpr.Proofs.Sql.Emission

/-!
# The SQL of texts that say the same

The source of a term goes into its SQL as comments: one behind each reference to a field, one with each
table and one with each condition that joins a table. It goes nowhere else. `Sql.Erases` relates SQL to
the SQL in which comments of this kind are empty, and `Joins.bare` is what is left of tables and
conditions without their comments: the aliases, the tables under their keys, the keys of the conditions.

A term and the term without its source register the same tables (`Term.bare_register`), and the SQL of
the one is erased to the SQL of the other (`Term.erasesTo_emit`). So two texts with the same tree, which
compile to terms that differ in their source only, have SQL that is erased to the same text.
-/

namespace QueryExpr

/-! ### SQL without the content of comments -/

/-- Emptying comments on some of the sources turns the first text into the second. -/
inductive Sql.Erases (IsSource : String → Prop) : String → String → Prop where
  | text (sql : String) : Erases IsSource sql sql
  | comment {source : String} (isSource : IsSource source) :
      Erases IsSource (Sql.comment source) (Sql.comment "")
  | append {front front' back back' : String} (first : Erases IsSource front front')
      (second : Erases IsSource back back') : Erases IsSource (front ++ back) (front' ++ back')

/-! ### Tables without comments -/

/-- The table, whatever its comment. -/
def Table.bare (t : Table) : Table := { t with comment := none }

namespace Joins

/-- The tables without their comments, the keys of the conditions, and the aliases. -/
def bare (j : Joins) : Joins where
  tables := j.tables.mapValues Table.bare
  conditions := j.conditions.mapValues fun _ => ""
  aliases := j.aliases

variable {j j' : Joins}

theorem bare_eq_iff : j.bare = j'.bare ↔ j.tables.mapValues Table.bare = j'.tables.mapValues Table.bare ∧
    (j.conditions.mapValues fun _ => "") = (j'.conditions.mapValues fun _ => "") ∧
    j.aliases = j'.aliases := by
  simp only [bare, Joins.mk.injEq]

theorem nextAlias_congr (h : j.bare = j'.bare) : j.nextAlias = j'.nextAlias := by
  have hsize := congrArg OrderedMap.size (bare_eq_iff.mp h).1
  rw [OrderedMap.size_mapValues, OrderedMap.size_mapValues] at hsize
  rw [nextAlias, nextAlias, hsize]

/-- A condition comes in under its SQL, whatever the comment. -/
theorem bare_addCondition_congr (h : j.bare = j'.bare) (condition : String)
    (comment comment' : Option String) :
    (j.addCondition condition comment).bare = (j'.addCondition condition comment').bare := by
  obtain ⟨htables, hconditions, haliases⟩ := bare_eq_iff.mp h
  refine bare_eq_iff.mpr ⟨htables, ?_, haliases⟩
  rw [addCondition, addCondition, OrderedMap.mapValues_insertNew, OrderedMap.mapValues_insertNew,
    hconditions]

/-- **Entering a path** does the same to tables that are the same but for their comments. -/
theorem bare_enter_congr (h : j.bare = j'.bare) (groups : Groups) (path : String) (field : Field)
    (comment comment' : String) (master : Option String) :
    (j.enter groups path field comment master).1.bare =
        (j'.enter groups path field comment' master).1.bare ∧
      (j.enter groups path field comment master).2 =
        (j'.enter groups path field comment' master).2 := by
  obtain ⟨htables, hconditions, haliases⟩ := bare_eq_iff.mp h
  have htables' : ∀ table label, (j.tables.insert (table ++ " " ++ label)
        ⟨table, some comment, some label⟩).mapValues Table.bare =
      (j'.tables.insert (table ++ " " ++ label)
        ⟨table, some comment', some label⟩).mapValues Table.bare := by
    intro table label
    rw [OrderedMap.mapValues_insert, OrderedMap.mapValues_insert, htables]
    rfl
  have hconditions' : ∀ condition,
      ((j.addCondition condition (some comment)).conditions.mapValues fun _ => "") =
        ((j'.addCondition condition (some comment')).conditions.mapValues fun _ => "") := by
    intro condition
    exact (bare_eq_iff.mp (bare_addCondition_congr h condition _ _)).2.1
  have haliases' : ∀ label, j.aliases.insert path label = j'.aliases.insert path label := by
    intro label
    rw [haliases]
  unfold enter
  rw [nextAlias_congr h]
  -- a path may bring a condition or not, and a table or not
  cases field.join with
  | none =>
    cases (groups.target? field).bind Group.tableSql with
    | none => exact ⟨bare_eq_iff.mpr ⟨htables, hconditions, haliases' _⟩, rfl⟩
    | some table => exact ⟨bare_eq_iff.mpr ⟨htables' _ _, hconditions, haliases' _⟩, rfl⟩
  | some template =>
    cases (groups.target? field).bind Group.tableSql with
    | none => exact ⟨bare_eq_iff.mpr ⟨htables, hconditions' _, haliases' _⟩, rfl⟩
    | some table => exact ⟨bare_eq_iff.mpr ⟨htables' _ _, hconditions' _, haliases' _⟩, rfl⟩

end Joins

/-! ### References -/

namespace Term

@[simp] theorem fullIdentifier?_bare (t : Term) : t.bare.fullIdentifier? = t.fullIdentifier? := by
  fun_induction Term.fullIdentifier? t with
  | case1 identifier field verdict content parent rest ih =>
    rw [bare, bareAll, fullIdentifier?, ih]
  | case2 identifier field verdict content => rfl
  | case3 t hparent hroot =>
    obtain ⟨head, verdict, content, slots⟩ := t
    cases head with
    | field identifier field =>
      cases slots with
      | nil => exact absurd rfl (hroot _ _ _ _)
      | cons parent rest => exact absurd rfl (hparent _ _ _ _ _ _)
    | _ => rfl

/-- **A reference registers the same tables** as the reference without its source. -/
theorem bare_register (groups : Groups) (t : Term) {j j' : Joins} (h : j.bare = j'.bare) :
    (t.register groups j).1.bare = (t.bare.register groups j').1.bare ∧
      (t.register groups j).2 = (t.bare.register groups j').2 := by
  have haliases : ∀ {j j' : Joins}, j.bare = j'.bare → j'.aliases = j.aliases :=
    fun h => (Joins.bare_eq_iff.mp h).2.2.symm
  -- the cases are those of registering: nothing to do, known already, or new behind its parent
  fun_induction Term.register groups t j generalizing j' with
  | case1 identifier field verdict content parent rest j hfault =>
    rw [bare, bareAll, register, if_pos hfault]
    exact ⟨h, rfl⟩
  | case2 identifier field verdict content parent rest j hfault hpath =>
    rw [bare, bareAll, register, if_neg hfault, fullIdentifier?_bare, hpath]
    exact ⟨h, rfl⟩
  | case3 identifier field verdict content parent rest j hfault path hpath label hlabel =>
    simp only [bare, bareAll, register, if_neg hfault, fullIdentifier?_bare, hpath, haliases h, hlabel]
    exact ⟨h, trivial⟩
  | case4 identifier field verdict content parent rest j hfault path hpath hnew j₁ master hregister
      hfield ih =>
    simp only [bare, bareAll, register, if_neg hfault, fullIdentifier?_bare, hpath, haliases h, hnew,
      field?_bare, hfield]
    rw [hregister] at ih
    exact ⟨(ih h).1, trivial⟩
  | case5 identifier field verdict content parent rest j hfault path hpath hnew j₁ master hregister
      field' hfield ih =>
    simp only [bare, bareAll, register, if_neg hfault, fullIdentifier?_bare, hpath, haliases h, hnew,
      field?_bare, hfield]
    rw [hregister] at ih
    obtain ⟨hjoins, hmaster⟩ := ih h
    rw [← hmaster]
    exact Joins.bare_enter_congr hjoins groups path field' _ _ master
  | case6 t j hother =>
    obtain ⟨head, verdict, content, slots⟩ := t
    cases head with
    | field identifier field =>
      cases slots with
      | nil => exact ⟨h, rfl⟩
      | cons parent rest => exact absurd rfl (hother _ _ _ _ _ _)
    | _ => exact ⟨h, rfl⟩

/-- A reference has its source as a comment at the end of its SQL, and nowhere else. -/
theorem exists_fieldSql (t : Term) (identifier : String) (field : Option Field) (parent : Option Term)
    (label : Option String) :
    ∃ sql, t.fieldSql identifier field parent label = sql ++ " " ++ Sql.comment t.source ∧
      t.bare.fieldSql identifier field (parent.map bare) label = sql ++ " " ++ Sql.comment "" := by
  have hsource : t.bare.source = "" := by
    cases t
    rfl
  unfold fieldSql
  rw [fullIdentifier?_bare, hsource]
  -- a parameter is read by the path of its parent, which the parent without its source has too
  cases parent with
  | none => exact ⟨_, rfl, rfl⟩
  | some parent =>
    rw [Option.map_some]
    cases "params.".toList.isPrefixOf (t.fullIdentifier?.getD "").toList with
    | false => exact ⟨_, rfl, rfl⟩
    | true =>
      dsimp only
      rw [fullIdentifier?_bare]
      exact ⟨_, rfl, rfl⟩

end Term

/-! ### Emission -/

namespace Emission

variable {IsSource : String → Prop}

/-- Where the first emission succeeds the second does as well, on tables that are the same but for
their comments: it leaves such tables again, and the SQL of the first is erased to that of the second. -/
def ErasesTo (IsSource : String → Prop) (e e₀ : Emission) : Prop :=
  ∀ j j₀, j.bare = j₀.bare → ∀ j' sql, e j = (j', .ok sql) →
    ∃ j₀' sql₀, e₀ j₀ = (j₀', .ok sql₀) ∧ j'.bare = j₀'.bare ∧ Sql.Erases IsSource sql sql₀

theorem erasesTo_text (sql : String) : ErasesTo IsSource (text sql) (text sql) := by
  rintro j j₀ hj j' _ ⟨⟩
  exact ⟨j₀, sql, rfl, hj, .text sql⟩

/-- What fails is not compared. -/
theorem erasesTo_fail (t : Term) (e₀ : Emission) :
    ErasesTo IsSource (fun j => (j, .error t)) e₀ := by
  intro j j₀ hj j' sql h
  cases h

theorem ErasesTo.append {a a₀ b b₀ : Emission} (ha : ErasesTo IsSource a a₀)
    (hb : ErasesTo IsSource b b₀) : ErasesTo IsSource (a.append b) (a₀.append b₀) := by
  intro j j₀ hj j' sql h
  unfold Emission.append at h
  -- both parts have succeeded, and the second begins with the tables that the first has left
  cases hfront : a j with
  | mk j₁ front =>
    rw [hfront] at h
    cases front with
    | error t => cases h
    | ok front =>
      dsimp only at h
      cases hback : b j₁ with
      | mk j₂ back =>
        rw [hback] at h
        cases back with
        | error t => cases h
        | ok back =>
          cases h
          obtain ⟨k₁, front₀, hfront₀, hk₁, hfrontErases⟩ := ha j j₀ hj _ _ hfront
          obtain ⟨k₂, back₀, hback₀, hk₂, hbackErases⟩ := hb j₁ k₁ hk₁ _ _ hback
          refine ⟨k₂, front₀ ++ back₀, ?_, hk₂, hfrontErases.append hbackErases⟩
          simp only [Emission.append, hfront₀, hback₀]

section Operands

variable {α : Type} {operands : List α} {f g : α → Emission}

theorem erasesTo_items (h : ∀ a ∈ operands, ErasesTo IsSource (f a) (g a)) :
    ErasesTo IsSource (items (operands.map f)) (items (operands.map g)) := by
  induction operands with
  | nil => exact erasesTo_text ""
  | cons a operands ih =>
    have hhead := h a List.mem_cons_self
    cases operands with
    | nil => exact hhead
    | cons b operands =>
      have hrest := ih fun c hc => h c (List.mem_cons_of_mem a hc)
      exact hhead.append ((erasesTo_text ", ").append hrest)

theorem erasesTo_template (h : ∀ a ∈ operands, ErasesTo IsSource (f a) (g a)) (parts : List Part) :
    ErasesTo IsSource (template (operands.map f) parts) (template (operands.map g) parts) := by
  induction parts with
  | nil => exact erasesTo_text ""
  | cons part parts ih =>
    rcases part with sql | _ | index
    · exact (erasesTo_text sql).append ih
    · exact ih
    · rw [template, template, List.getElem?_map, List.getElem?_map]
      -- a part without operand is left out on both sides
      cases hoperand : operands[index]? with
      | none => exact ih
      | some a => exact (h a (List.mem_of_getElem? hoperand)).append ih

end Operands

end Emission

namespace Term

open Emission

variable {IsSource : String → Prop} {groups : Groups}

theorem children_bare (t : Term) : t.bare.children = t.children.map bare := by
  rw [children, children, head_bare, slots_bare]
  split
  · rfl
  · rfl

theorem rule?_bare (t : Term) : t.bare.rule? = t.rule? := by
  rw [rule?, children_bare, signature?_map_bare, nodeType, head_bare, rule?, nodeType]

/-- A reference brings in its own source. -/
theorem erasesTo_emitField (t : Term) (identifier : String) (field : Option Field)
    (parent : Option Term) (h : IsSource t.source) :
    ErasesTo IsSource (emitField groups t identifier field parent)
      (emitField groups t.bare identifier field (parent.map bare)) := by
  rintro j j₀ hj _ _ ⟨⟩
  obtain ⟨hjoins, hlabel⟩ := bare_register groups t hj
  obtain ⟨sql, hsql, hsql₀⟩ := exists_fieldSql t identifier field parent (t.register groups j).2
  refine ⟨_, sql ++ " " ++ Sql.comment "", ?_, hjoins, ?_⟩
  · show (_, Except.ok (t.bare.fieldSql _ _ _ (t.bare.register groups j₀).2)) = _
    rw [← hlabel, hsql₀]
  · rw [hsql]
    exact (Sql.Erases.text _).append (.comment h)

mutual

/-- **The SQL of a term is erased to the SQL of the term without its source.** -/
theorem erasesTo_emit : ∀ t : Term, (∀ ref ∈ t.fieldRefs, IsSource ref.source) →
    ErasesTo IsSource (t.emit groups) (t.bare.emit groups)
  | .node head verdict content slots => by
    intro h
    rw [fieldRefs] at h
    cases head with
    | field identifier field =>
      -- the alias depends on the parent, which is the same but for its source
      have hparent : (bareAll slots).head? = slots.head?.map bare := by
        rw [bareAll_eq, List.head?_map]
      rw [bare, emit, emit, hparent]
      exact erasesTo_emitField _ identifier field slots.head? (h _ List.mem_cons_self)
    | const value =>
      rw [bare, emit, emit]
      exact erasesTo_text _
    | list | set =>
      have hslots := erasesTo_emitAll slots h
      rw [bare, emit, emit, bareAll_eq, List.length_map, emitAll_eq, emitAll_eq, List.map_map]
      cases verdict.dataType.bind Sql.collection? with
      | none => exact erasesTo_text _
      | some ends =>
        exact (erasesTo_text _).append ((erasesTo_items hslots).append (erasesTo_text _))
    | _ =>
      have hslots := erasesTo_emitAll slots h
      rw [bare]
      unfold emit
      dsimp only
      -- the rule is chosen by the head and the types, and so is the same
      rw [← bare, rule?_bare, bareAll_eq, emitAll_eq, emitAll_eq, List.map_map]
      cases rule? _ with
      | none => exact erasesTo_fail _ _
      | some rule => exact erasesTo_template hslots rule.template

/-- The same for several terms. -/
theorem erasesTo_emitAll : ∀ ts : List Term, (∀ ref ∈ fieldRefsAll ts, IsSource ref.source) →
    ∀ t ∈ ts, ErasesTo IsSource (t.emit groups) (t.bare.emit groups)
  | [] => fun _ t ht => nomatch ht
  | t :: ts => by
    intro h s hs
    rw [fieldRefsAll] at h
    rcases List.mem_cons.mp hs with heq | hs
    · rw [heq]
      exact erasesTo_emit t fun ref href => h ref (List.mem_append_left _ href)
    · exact erasesTo_emitAll ts (fun ref href => h ref (List.mem_append_right _ href)) s hs

end

/-- **A valid term has SQL, which is erased to that of the term without its source.** -/
theorem Judged.exists_erases {t : Term} (h : Judged t) (hvalid : t.fault = none) (groups : Groups)
    (context : Option String) {j j₀ : Joins} (hj : j.bare = j₀.bare) :
    ∃ k k₀ sql sql₀, t.toSql groups context j = (k, .ok sql) ∧
      t.bare.toSql groups context j₀ = (k₀, .ok sql₀) ∧ k.bare = k₀.bare ∧
      Sql.Erases (· ∈ t.fieldRefs.map source) sql sql₀ := by
  have herases : ErasesTo (· ∈ t.fieldRefs.map source) (t.emit groups) (t.bare.emit groups) :=
    erasesTo_emit t fun ref href => List.mem_map_of_mem href
  obtain ⟨k, sql, hemit⟩ := h.succeeds_emit hvalid groups j
  obtain ⟨k₀, sql₀, hemit₀, hk, hsql⟩ := herases j j₀ hj k sql hemit
  have hvalid₀ : t.bare.fault = none := by rw [fault_bare, hvalid]
  refine ⟨k, k₀, sql, sql₀, ?_, ?_, hk, hsql⟩
  · simp only [toSql, check, hvalid, hemit]
  · simp only [toSql, check, hvalid₀, hemit₀]

end Term

/-! ### Whole texts -/

/-- **Layout does not matter.** Two texts with the same tree are refused alike, or they compile to terms
that are the same at every node but for its source. If the terms are valid, both have SQL, over tables
that are the same but for their comments: the two are erased to the same SQL, that of the term without
source, by emptying comments on references of the one term and of the other. They leave tables that are
again the same but for their comments, with the same aliases and the same keys. -/
theorem layout_does_not_matter (schema : Schema) {source source' : String} {e e' : Expr}
    (hparse : Expr.parse source = .ok e) (hparse' : Expr.parse source' = .ok e')
    (h : e.unplaced = e'.unplaced) :
    (∃ u u', compile schema source = .error (.unsupported u) ∧
      compile schema source' = .error (.unsupported u') ∧ u.bare = u'.bare) ∨
    ∃ t t', compile schema source = .ok t ∧ compile schema source' = .ok t' ∧ t.bare = t'.bare ∧
      ∀ groups context j j', j.bare = j'.bare → t.check context = .ok () →
        ∃ k k' sql sql' sql₀, t.toSql groups context j = (k, .ok sql) ∧
          t'.toSql groups context j' = (k', .ok sql') ∧ k.bare = k'.bare ∧
          (t.bare.toSql groups context j).2 = .ok sql₀ ∧
          Sql.Erases (· ∈ t.fieldRefs.map Term.source) sql sql₀ ∧
          Sql.Erases (· ∈ t'.fieldRefs.map Term.source) sql' sql₀ := by
  rcases compile_of_unplaced_eq schema hparse hparse' h with
    hrefused | ⟨t, t', ht, ht', hbare⟩
  · exact .inl hrefused
  refine .inr ⟨t, t', ht, ht', hbare, ?_⟩
  intro groups context j j' hj hcheck
  have hvalid : t.fault = none := Term.check_eq_ok_iff.mp hcheck
  have hvalid' : t'.fault = none := by rw [← Term.fault_bare, ← hbare, Term.fault_bare, hvalid]
  -- both are compared with the term without source, over the tables of the first
  obtain ⟨k, k₀, sql, sql₀, hsql, hsql₀, hk, herases⟩ :=
    (Term.Constructed.compiled ht).judged.exists_erases hvalid groups context (rfl : j.bare = j.bare)
  obtain ⟨k', k₀', sql', sql₀', hsql', hsql₀', hk', herases'⟩ :=
    (Term.Constructed.compiled ht').judged.exists_erases hvalid' groups context hj.symm
  rw [← hbare, hsql₀] at hsql₀'
  cases hsql₀'
  exact ⟨k, k', sql, sql', sql₀, hsql, hsql', hk.trans hk'.symm, by rw [hsql₀], herases, herases'⟩

/-- A list of a field of a joined table and a string, once with as little as possible and once with
parentheses, spaces, other quotes and a comma at the end. -/
theorem layout_does_not_matter_list :
    ∃ schema t t' k k' sql₀, compile schema "[p.name, 'x']" = .ok t ∧
      compile schema "[((p) . name), \"x\",]" = .ok t' ∧ t.bare = t'.bare ∧
      t.toSql schema.groups none {} = (k, .ok "varchars(t1.nm /* p.name */, 'x')") ∧
      t'.toSql schema.groups none {} = (k', .ok "varchars(t1.nm /* (p) . name */, 'x')") ∧
      k.bare = k'.bare ∧ k.aliases.entries = [("p", some "t1")] ∧
      Sql.Erases (· ∈ t.fieldRefs.map Term.source) "varchars(t1.nm /* p.name */, 'x')" sql₀ ∧
      Sql.Erases (· ∈ t'.fieldRefs.map Term.source) "varchars(t1.nm /* (p) . name */, 'x')" sql₀ := by
  let name : Field := ⟨"name", .str, some "\x7ba\x7d.nm", none, none⟩
  let p : Field := ⟨"p", .int, none, some "\x7bd\x7d.id = 1", some ⟨"person", 0⟩⟩
  let schema : Schema :=
    ⟨⟨1, .ofList [("person", 0, ⟨some "person", .ofList [("name", name)]⟩)]⟩, .ofList [("p", p)]⟩
  let tree : Expr :=
    .list .nowhere [.attr .nowhere (.name .nowhere "p") "name", .const .nowhere (.str "x")]
  have htree : (Expr.parse "[p.name, 'x']").toOption.map Expr.unplaced = some tree := by rfl
  have htree' : (Expr.parse "[((p) . name), \"x\",]").toOption.map Expr.unplaced = some tree := by rfl
  obtain ⟨e, hparse, he⟩ := exists_of_toOption_map_eq_some htree
  obtain ⟨e', hparse', he'⟩ := exists_of_toOption_map_eq_some htree'
  have hview : (compile schema "[p.name, 'x']").toOption.map
      (fun t => (t.fault, (t.toSql schema.groups none {}).2.toOption,
        (t.toSql schema.groups none {}).1.aliases.entries)) =
      some (none, some "varchars(t1.nm /* p.name */, 'x')", [("p", some "t1")]) := by
    decide +kernel
  have hview' : (compile schema "[((p) . name), \"x\",]").toOption.map
      (fun t => (t.toSql schema.groups none {}).2.toOption) =
      some (some "varchars(t1.nm /* (p) . name */, 'x')") := by decide +kernel
  obtain ⟨s, hs, hsview⟩ := exists_of_toOption_map_eq_some hview
  obtain ⟨s', hs', hsview'⟩ := exists_of_toOption_map_eq_some hview'
  obtain ⟨hvalid, hrest⟩ := Prod.mk.inj hsview
  obtain ⟨hok, haliases⟩ := Prod.mk.inj hrest
  have houtcome := layout_does_not_matter schema hparse hparse' (he.trans he'.symm)
  rw [hs, hs'] at houtcome
  obtain ⟨u, u', ⟨⟩, -⟩ | ⟨t, t', ⟨⟩, ⟨⟩, hbare, hsql⟩ := houtcome
  obtain ⟨k, k', sql, sql', sql₀, hk, hk', hjoins, -, herases, herases'⟩ :=
    hsql schema.groups none {} {} rfl (Term.check_eq_ok_iff.mpr hvalid)
  rw [hk] at hok haliases
  rw [hk'] at hsview'
  cases hok
  cases hsview'
  exact ⟨schema, s, s', k, k', sql₀, hs, hs', hbare, hk, hk', hjoins, haliases, herases, herases'⟩

end QueryExpr
