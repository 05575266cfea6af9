import QueryExpr.Expr.Resolve
import QueryExpr.Proofs.Schema.Consistency

/-!
# Paths through a schema

A path starts at a variable, and each identifier on it names a field of the group that the field before
it refers to. The fields of a built schema hold references to groups, which may lead in circles; the
definitions hold names only. Following a path through the one and through the other leads to the same
place (`at?_eq`), since every built group has the fields of its definition, and a reference leads to the
group that has the name in the definition (`get?_assembled`).
-/

namespace QueryExpr

/-! ### Following a path -/

/-- The field at the end of a path. -/
def Schema.at? (s : Schema) (var : String) (path : List String) : Option Field :=
  path.foldl (fun field x => field.bind fun f => s.groups.member? f x) (s.vars.get? var)

/-- The definition of the field with this name, or of the one that stands in for it, with its name. -/
def GroupDef.definition? (g : GroupDef) (x : String) : Option (String × FieldDef) :=
  ((g.fields.get? x).map (x, ·)).or ((g.fields.get? Group.wildcard).map (Group.wildcard, ·))

namespace SchemaDef

/-- The definition that an identifier names after a field: one of the group whose name the definition of
the field gives. -/
def member? (d : SchemaDef) (f : FieldDef) (x : String) : Option (String × FieldDef) :=
  (f.ref.bind d.groups.get?).bind (·.definition? x)

/-- The definition at the end of a path, with its name. -/
def at? (d : SchemaDef) (var : String) (path : List String) : Option (String × FieldDef) :=
  path.foldl (fun place x => place.bind fun p => d.member? p.2 x) ((d.vars.get? var).map (var, ·))

end SchemaDef

/-- The expression is a path: a variable with identifiers behind it. -/
inductive Expr.IsPath (var : String) : List String → Expr → Prop
  | name (place : Place) : IsPath var [] (.name place var)
  | attr (place : Place) {path : List String} {obj : Expr} (x : String) (h : IsPath var path obj) :
      IsPath var (path ++ [x]) (.attr place obj x)

/-- The last identifier of a path is looked up last. -/
theorem Schema.at?_concat (s : Schema) (var : String) (path : List String) (x : String) :
    s.at? var (path ++ [x]) = (s.at? var path).bind fun f => s.groups.member? f x :=
  List.foldl_concat ..

/-- The same among the definitions. -/
theorem SchemaDef.at?_concat (d : SchemaDef) (var : String) (path : List String) (x : String) :
    d.at? var (path ++ [x]) = (d.at? var path).bind fun p => d.member? p.2 x :=
  List.foldl_concat ..

/-- An expression that is a path denotes the field at its end. -/
theorem Expr.IsPath.resolve {var : String} {path : List String} {e : Expr} (h : e.IsPath var path)
    (s : Schema) (text : List Char) :
    ∃ t, e.resolve s text = .ok t ∧ t.field? = s.at? var path := by
  induction h with
  | name place => exact ⟨_, by rw [Expr.resolve], rfl⟩
  | attr place x h ih =>
    obtain ⟨parent, hparent, hfield⟩ := ih
    -- the field before the identifier is the one that its term denotes
    rw [Schema.at?_concat, ← hfield, Expr.resolve, hparent]
    change ∃ t, _ = Except.ok t ∧ Term.field? t = Term.member? s.groups parent x
    simp only [bind, Except.bind]
    cases Term.member? s.groups parent x with
    | none => exact ⟨_, rfl, rfl⟩
    | some field => exact ⟨_, rfl, rfl⟩

/-! ### What is built -/

/-- The group that a definition stands for. -/
def GroupDef.group (g : GroupDef) (gs : Groups) : Group :=
  g.fields.entries.foldl (fun group e => group.add (e.2.field gs e.1)) { tableSql := g.tableSql }

/-- A field depends on the groups only through the references to them. -/
theorem FieldDef.field_congr {gs gs' : Groups} (h : gs'.ref? = gs.ref?) (f : FieldDef) :
    f.field gs' = f.field gs := by
  funext identifier
  rw [FieldDef.field, FieldDef.field, h]

/-- A built group is over the table of its definition. -/
theorem GroupDef.tableSql_group (g : GroupDef) (gs : Groups) :
    (g.group gs).tableSql = g.tableSql := by
  have hstep : ∀ (entries : List (String × FieldDef)) (group : Group),
      (entries.foldl (fun group e => group.add (e.2.field gs e.1)) group).tableSql =
        group.tableSql := by
    intro entries
    induction entries with
    | nil => exact fun _ => rfl
    | cons e entries ih => exact fun group => ih _
  exact hstep _ _

/-- A built group has the fields of its definition, and the same one stands in for all others. -/
theorem GroupDef.field?_group (g : GroupDef) (gs : Groups) (x : String) :
    (g.group gs).field? x = (g.definition? x).map fun p => p.2.field gs p.1 := by
  have hfields : ∀ y, (g.group gs).fields.get? y = (g.fields.get? y).map fun f => f.field gs y := by
    intro y
    have hfold := OrderedMap.look_foldl (fun group : Group => group.fields.get?)
      (fun group (e : String × FieldDef) => group.add (e.2.field gs e.1)) (fun k f => f.field gs k)
      (fun group e => OrderedMap.get?_insert group.fields e.1 (e.2.field gs e.1)) g.fields.distinct
      { tableSql := g.tableSql } y
    exact hfold.trans (Option.or_none ..)
  rw [Group.field?, hfields, hfields, definition?, Option.map_or, Option.map_map, Option.map_map]
  rfl

namespace SchemaDef

/-- Filling one group adds the fields to it and leaves all others alone. -/
theorem get?_fill (group : String) (gs : Groups) (entries : List (String × FieldDef))
    (name : String) :
    (fill group gs entries).get? name =
      if name = group then
        (gs.get? name).map fun g => entries.foldl (fun g e => g.add (e.2.field gs e.1)) g
      else gs.get? name := by
  induction entries generalizing gs with
  | nil => simp [fill]
  | cons e entries ih =>
    -- later fields are built against the groups with this one in them, which makes no difference
    have hrefs := gs.ref?_addField group (e.2.field gs e.1)
    rw [fill, List.foldl_cons, ← fill, ih, Groups.get?_addField]
    simp only [FieldDef.field_congr hrefs]
    split
    next => rw [Option.map_map]; rfl
    next => rfl

/-- Filling the groups adds to each the fields of its definition. -/
theorem get?_fillAll {entries : List (String × GroupDef)} (hentries : (entries.map Prod.fst).Nodup)
    (gs : Groups) (name : String) :
    (fillAll gs entries).get? name =
      match OrderedMap.lookup entries name with
      | some d => (gs.get? name).map fun g =>
          d.fields.entries.foldl (fun g e => g.add (e.2.field gs e.1)) g
      | none => gs.get? name := by
  induction entries generalizing gs with
  | nil => rfl
  | cons d entries ih =>
    rw [List.map_cons, List.nodup_cons] at hentries
    rw [fillAll, List.foldl_cons, ← fillAll, ih hentries.2, get?_fill, OrderedMap.lookup_cons]
    simp only [FieldDef.field_congr (ref?_fill d.1 gs d.2.fields.entries)]
    -- each name is defined once, so no later definition fills the same group again
    by_cases hname : d.1 = name
    · subst hname
      rw [OrderedMap.lookup_eq_none_iff.mpr hentries.1]
      simp
    · rw [if_neg hname, if_neg (Ne.symm hname)]

variable {d : SchemaDef}

/-- At first each group has its table and no fields. -/
theorem get?_emptyGroups (d : SchemaDef) (name : String) :
    d.emptyGroups.get? name = (d.groups.get? name).map fun g => { tableSql := g.tableSql } := by
  have hfold := OrderedMap.look_foldl Groups.get? (fun gs e => gs.define e.1 e.2.tableSql)
    (fun _ g => { tableSql := g.tableSql }) (fun gs e => gs.get?_define e.1 e.2.tableSql)
    d.groups.distinct {} name
  exact hfold.trans (Option.or_none ..)

/-- **Every group is built as it is defined.** -/
theorem get?_assembled (d : SchemaDef) (name : String) :
    d.assembled.groups.get? name = (d.groups.get? name).map (·.group d.assembled.groups) := by
  -- the fields were built while the groups were filled, but the references were there from the start
  have hrefs : d.assembled.groups.ref? = d.emptyGroups.ref? := ref?_fillAll _ _
  have hget := get?_fillAll d.groups.distinct d.emptyGroups name
  rw [get?_emptyGroups] at hget
  refine hget.trans ?_
  simp only [GroupDef.group, FieldDef.field_congr hrefs]
  change (match d.groups.get? name with | some _ => _ | none => _) = _
  cases d.groups.get? name <;> rfl

/-- **Every variable is built as it is defined.** -/
theorem get?_vars_assembled (d : SchemaDef) (var : String) :
    d.assembled.vars.get? var = (d.vars.get? var).map fun f => f.field d.assembled.groups var := by
  have hfold := OrderedMap.look_foldl OrderedMap.get?
    (fun vars e => vars.insert e.1 (e.2.field d.assembled.groups e.1))
    (fun k f => f.field d.assembled.groups k) (fun vars e k => OrderedMap.get?_insert ..)
    d.vars.distinct {} var
  exact hfold.trans (Option.or_none ..)

/-! ### The same place -/

/-- A field that is built refers to the group that its definition names. -/
theorem target?_field (gs : Groups) (f : FieldDef) (identifier : String) :
    gs.target? (f.field gs identifier) = f.ref.bind gs.get? := by
  rw [Groups.target?, FieldDef.field, Option.bind_assoc]
  exact congrArg f.ref.bind (funext gs.bind_follow?_ref?)

/-- One step along a path. -/
theorem member?_field (d : SchemaDef) (f : FieldDef) (identifier x : String) :
    d.assembled.groups.member? (f.field d.assembled.groups identifier) x =
      (d.member? f x).map fun p => p.2.field d.assembled.groups p.1 := by
  rw [Groups.member?, target?_field, member?]
  cases f.ref with
  | none => rfl
  | some name =>
    simp only [Option.bind_some, get?_assembled]
    cases d.groups.get? name with
    | none => rfl
    | some g => exact g.field?_group _ x

/-- **A path leads to the same place in the schema and in its definitions.** -/
theorem at?_eq (d : SchemaDef) (var : String) (path : List String) :
    d.assembled.at? var path =
      (d.at? var path).map fun p => p.2.field d.assembled.groups p.1 := by
  -- on the last identifier, since the path to it is followed first
  induction path using List.reverseRecOn with
  | nil =>
    refine (d.get?_vars_assembled var).trans ?_
    change _ = ((d.vars.get? var).map (var, ·)).map _
    rw [Option.map_map]
    rfl
  | append_singleton path x ih =>
    rw [Schema.at?_concat, at?_concat, ih]
    cases d.at? var path with
    | none => rfl
    | some p => exact d.member?_field p.2 p.1 x

/-- What an identifier names in a group is one of its definitions, be it the one that stands in. -/
theorem mem_entries_of_definition? {g : GroupDef} {x : String} {p : String × FieldDef}
    (h : g.definition? x = some p) : p ∈ g.fields.entries := by
  rcases Option.or_eq_some_iff.mp h with h | ⟨-, h⟩
  all_goals
    obtain ⟨f, hf, rfl⟩ := Option.map_eq_some_iff.mp h
    exact OrderedMap.mem_entries_of_get? hf

/-- What a path leads to is one of the definitions. -/
theorem exists_mem_of_at? {var : String} {path : List String} {p : String × FieldDef}
    (h : d.at? var path = some p) : ∃ qualified, (qualified, p.2) ∈ d.definitions := by
  rcases List.eq_nil_or_concat path with rfl | ⟨front, x, rfl⟩
  · -- the definition of a variable
    obtain ⟨f, hf, rfl⟩ := Option.map_eq_some_iff.mp h
    exact ⟨var, List.mem_append_right _ (OrderedMap.mem_entries_of_get? hf)⟩
  · -- a definition in the group that the last step leads to
    rw [List.concat_eq_append, at?_concat] at h
    obtain ⟨q, -, hq⟩ := Option.bind_eq_some_iff.mp h
    obtain ⟨g, hg, hp⟩ := Option.bind_eq_some_iff.mp hq
    obtain ⟨name, -, hname⟩ := Option.bind_eq_some_iff.mp hg
    refine ⟨name ++ "." ++ p.1, List.mem_append_left _ (List.mem_flatMap.mpr ⟨(name, g), ?_, ?_⟩)⟩
    · exact OrderedMap.mem_entries_of_get? hname
    · exact List.mem_map_of_mem (mem_entries_of_definition? hp)

end SchemaDef

/-- The field is the one that the definition describes under this identifier, in a schema built from
`d`. -/
structure FieldDef.Describes (f : FieldDef) (d : SchemaDef) (s : Schema) (identifier : String)
    (field : Field) : Prop where
  identifier : field.identifier = identifier
  type : f.type.toLower = field.dataType.name.toLower
  sql : field.sql = f.sql
  join : field.join = f.join
  ref : field.ref.map GroupRef.name = f.ref
  /-- The group that the field leads to is there, over the table of the group of that name. -/
  target : (s.groups.target? field).map Group.tableSql =
    (f.ref.bind d.groups.get?).map GroupDef.tableSql

namespace SchemaDef

/-- What is built of a consistent definition is what the definition describes. -/
theorem describes_field {d : SchemaDef} {f : FieldDef} (h : f.Consistent d.groups.keys)
    (identifier : String) : f.Describes d d.assembled identifier (f.field d.assembled.groups identifier) where
  identifier := rfl
  type := by
    obtain ⟨type, htype⟩ := h.type
    rw [htype, FieldDef.field, DataType.ofName?_eq_some_iff.mpr htype]
    rfl
  sql := rfl
  join := rfl
  ref := by
    cases href : f.ref with
    | none => simp [FieldDef.field, href]
    | some name =>
      -- the group is there, since the definition is consistent
      obtain ⟨ref, hget⟩ := Option.isSome_iff_exists.mp ((d.has_assembled name).mpr (h.ref name href))
      have hname : ref.name = name := by
        obtain ⟨e, -, rfl⟩ := Option.map_eq_some_iff.mp hget
        rfl
      simp [FieldDef.field, href, hget, hname]
  target := by
    rw [target?_field]
    cases f.ref with
    | none => rfl
    | some name =>
      simp only [Option.bind_some, get?_assembled, Option.map_map]
      exact congrArg (Option.map · _) (funext fun g => g.tableSql_group _)

/-- **A schema is built if and only if all definitions are consistent**, and otherwise the first that is
not decides the error. In the schema every path from a variable leads to the field that is defined there,
or nowhere if nothing is, however often it comes through the same groups; and an expression that is such a
path denotes that field. -/
theorem build_follows_definitions (d : SchemaDef) :
    ((∃ s, d.build = .ok s) ↔ AllConsistent d.groups.keys d.definitions) ∧
    (∀ e, d.build = .error e ↔ FirstFlaw d.groups.keys d.definitions e) ∧
    ∀ s, d.build = .ok s → ∀ var path,
      Option.Rel (fun field p => p.2.Describes d s p.1 field) (s.at? var path) (d.at? var path) ∧
      ∀ (e : Expr) (text : List Char), e.IsPath var path →
        ∃ t, e.resolve s text = .ok t ∧ t.field? = s.at? var path := by
  refine ⟨?_, fun _ => build_eq_error_iff, ?_⟩
  · simp only [build_eq_ok_iff, exists_and_left, exists_eq, and_true]
  · intro s hs var path
    obtain ⟨hall, rfl⟩ := build_eq_ok_iff.mp hs
    refine ⟨?_, fun e text he => he.resolve d.assembled text⟩
    rw [at?_eq]
    cases hp : d.at? var path with
    | none => exact .none
    | some p =>
      obtain ⟨qualified, hmem⟩ := exists_mem_of_at? hp
      exact .some (describes_field (hall _ hmem) p.1)

/-- Two groups that refer to each other, one of them also to itself, and a field that stands in for what
the other lacks. -/
theorem build_follows_definitions_circles :
    ∃ (d : SchemaDef) (s : Schema) (e : Expr) (t : Term) (field : Field), d.build = .ok s ∧
      e.IsPath "p" ["boss", "firm", "owner", "name"] ∧ e.resolve s [] = .ok t ∧ t.field? = some field ∧
      FieldDef.Describes { type := "Str", sql := some "\x7ba\x7d.name" } d s "name" field := by
  let person : GroupDef :=
    { tableSql := some "person"
      fields := .ofList [("boss", { type := "int", ref := some "person" }),
        ("firm", { type := "INT", join := some "\x7bm\x7d.firm = \x7bd\x7d.id", ref := some "firm" }),
        ("name", { type := "Str", sql := some "\x7ba\x7d.name" })] }
  let firm : GroupDef :=
    { tableSql := some "firm", fields := .ofList [("*", { type := "int", ref := some "person" })] }
  let d : SchemaDef :=
    { groups := .ofList [("person", person), ("firm", firm)]
      vars := .ofList [("p", { type := "int", ref := some "person" })] }
  let place : Place := .bare 0 0
  let e : Expr :=
    .attr place (.attr place (.attr place (.attr place (.name place "p") "boss") "firm") "owner") "name"
  have hok : d.build.isOk = true := by decide +kernel
  have he : e.IsPath "p" ["boss", "firm", "owner", "name"] :=
    .attr place "name" (.attr place "owner" (.attr place "firm" (.attr place "boss" (.name place))))
  have hat : d.at? "p" ["boss", "firm", "owner", "name"] =
      some ("name", { type := "Str", sql := some "\x7ba\x7d.name" }) := by decide
  cases hs : d.build with
  | error err => rw [hs] at hok; cases hok
  | ok s =>
    obtain ⟨hrel, hresolve⟩ := (build_follows_definitions d).2.2 s hs "p" _
    obtain ⟨t, ht, hfield⟩ := hresolve e [] he
    rw [hat, ← hfield] at hrel
    cases hrel' : t.field? with
    | none => rw [hrel'] at hrel; cases hrel
    | some field =>
      rw [hrel'] at hrel
      cases hrel with
      | some hdescribes => exact ⟨d, s, e, t, field, hs, he, ht, hrel', hdescribes⟩

end SchemaDef

end QueryExpr
