import QueryExpr.Proofs.OrderedMap
import QueryExpr.Proofs.Text.Case
import QueryExpr.Schema.Build

/-!
# Consistent schemas

Building a schema checks each definition on its own, against the names of the groups: the groups are all
there before the first field is built, and adding fields changes no name (`Groups.ref?_addField`). So a
schema is built if and only if every definition is consistent, and otherwise the error is that of the
first one that is not (`SchemaDef.build_of_firstFlaw`).
-/

namespace QueryExpr

/-! ### Names of types -/

namespace DataType

variable {text : String} {type : DataType}

/-- The names of the types are in upper case. -/
theorem toUpper_name (type : DataType) : type.name.toUpper = type.name := by
  rw [Text.toUpper_eq_iff]
  cases type <;> decide

/-- No two types have the same name, so a name that is found is that of the type. -/
theorem ofExactName?_eq_some_iff : ofExactName? text = some type ↔ text = type.name := by
  constructor
  · intro h
    have hfound := List.find?_some h
    exact (of_decide_eq_true hfound).symm
  · -- the search finds each type by its own name, since no earlier one has that name
    rintro rfl
    cases type <;> rfl

/-- A type is found by its name up to case. -/
theorem ofName?_eq_some_iff : ofName? text = some type ↔ text.toLower = type.name.toLower := by
  rw [ofName?, ofExactName?_eq_some_iff, ← Text.toUpper_eq_toUpper_iff, toUpper_name]

/-- No type is found for a text that differs from all names in more than case. -/
theorem ofName?_eq_none_iff :
    ofName? text = none ↔ ∀ type : DataType, text.toLower ≠ type.name.toLower := by
  simp only [Option.eq_none_iff_forall_ne_some, ne_eq, ofName?_eq_some_iff]

end DataType

/-! ### Groups while they are filled -/

namespace Groups

variable (gs : Groups) (name : String)

/-- A group that is defined is empty, whatever was there under its name. -/
theorem get?_define (tableSql : Option String) (other : String) :
    (gs.define name tableSql).get? other =
      if other = name then some { tableSql } else gs.get? other := by
  rw [get?, define, OrderedMap.get?_insert]
  split <;> rfl

/-- A group that is defined gets a stamp of its own, so references to a group of the same name that was
there before do not lead to it. -/
theorem ref?_define (tableSql : Option String) (other : String) :
    (gs.define name tableSql).ref? other =
      if other = name then some ⟨other, gs.next⟩ else gs.ref? other := by
  rw [ref?, define, OrderedMap.get?_insert]
  split <;> rfl

/-- A field is added to the group of the name, if there is one. -/
theorem get?_addField (field : Field) (other : String) :
    (gs.addField name field).get? other =
      if other = name then (gs.get? other).map (·.add field) else gs.get? other := by
  rw [addField]
  split
  next stamp g hget =>
    rw [get?, OrderedMap.get?_insert]
    split
    next h => rw [h, get?, hget]; rfl
    next => rfl
  next hget =>
    -- there is no group of the name, and no field is added
    split
    next h => rw [h, get?, hget]; rfl
    next => rfl

/-- A field that is added leaves all references as they are. -/
theorem ref?_addField (field : Field) : (gs.addField name field).ref? = gs.ref? := by
  funext other
  rw [addField]
  split
  next stamp g hget =>
    -- the group is put back under its name with the stamp that it had
    rw [ref?, OrderedMap.get?_insert]
    split
    next h => rw [h, ref?, hget]; rfl
    next => rfl
  next => rfl

/-- A reference leads to the group that it was made for. -/
theorem bind_follow?_ref? : (gs.ref? name).bind gs.follow? = gs.get? name := by
  cases hget : gs.entries.get? name with
  | none => simp [ref?, get?, hget]
  | some e => simp [ref?, get?, follow?, hget]

/-- The groups have exactly these names. -/
def Has (names : List String) : Prop := ∀ name, (gs.ref? name).isSome = true ↔ name ∈ names

/-- Which names the groups have can be seen from their references alone. -/
theorem Has.congr {gs gs' : Groups} {names : List String} (h : gs.Has names)
    (href : gs'.ref? = gs.ref?) : gs'.Has names := by
  intro name
  rw [href]
  exact h name

end Groups

/-! ### Definitions of fields -/

namespace FieldDef

/-- What is asked of a definition, given the names of the groups. Names of types are read in any mixture
of upper and lower case. -/
structure Consistent (names : List String) (f : FieldDef) : Prop where
  type : ∃ type : DataType, f.type.toLower = type.name.toLower
  ref : ∀ name ∈ f.ref, name ∈ names
  join : f.join.isSome = true → f.ref.isSome = true

/-- What is wrong with a definition. Only a definition with a known type is checked further. -/
inductive Flawed (names : List String) (qualified : String) (f : FieldDef) : SchemaError → Prop
  | type (hunknown : ∀ type : DataType, f.type.toLower ≠ type.name.toLower) :
      Flawed names qualified f (.unknownType qualified f.type)
  | ref {type : DataType} {name : String} (htype : f.type.toLower = type.name.toLower)
      (href : f.ref = some name) (hunknown : name ∉ names) :
      Flawed names qualified f (.unknownGroup qualified name)
  | join {type : DataType} (htype : f.type.toLower = type.name.toLower) (href : f.ref = none)
      (hjoin : f.join.isSome = true) : Flawed names qualified f (.joinWithoutRef qualified)

/-- The field that a consistent definition stands for. -/
def field (f : FieldDef) (gs : Groups) (identifier : String) : Field where
  identifier
  dataType := (DataType.ofName? f.type).getD .null
  sql := f.sql
  join := f.join
  ref := f.ref.bind gs.ref?

variable {names : List String} {f : FieldDef} {gs : Groups}

/-- A definition is consistent or it has a flaw. The cases are tried in the order in which building a field
checks them: the type first, then the reference, and a join only where there is no reference. -/
theorem consistent_or_flawed (names : List String) (qualified : String) (f : FieldDef) :
    f.Consistent names ∨ ∃ e, f.Flawed names qualified e := by
  cases htype : DataType.ofName? f.type with
  | none => exact .inr ⟨_, .type (DataType.ofName?_eq_none_iff.mp htype)⟩
  | some type =>
    rw [DataType.ofName?_eq_some_iff] at htype
    cases href : f.ref with
    | some name =>
      by_cases hname : name ∈ names
      · -- with a reference there may be a join
        refine .inl ⟨⟨type, htype⟩, ?_, fun _ => by rw [href]; rfl⟩
        intro other hother
        rw [href] at hother
        cases hother
        exact hname
      · exact .inr ⟨_, .ref htype href hname⟩
    | none =>
      by_cases hjoin : f.join.isSome = true
      · exact .inr ⟨_, .join htype href hjoin⟩
      · refine .inl ⟨⟨type, htype⟩, ?_, fun h => absurd h hjoin⟩
        intro other hother
        rw [href] at hother
        cases hother

/-- A consistent definition is built, with its type and its reference. -/
theorem build_of_consistent (hgs : gs.Has names) (h : f.Consistent names)
    (identifier qualified : String) :
    f.build gs identifier qualified = .ok (f.field gs identifier) := by
  obtain ⟨type, htype⟩ := h.type
  rw [← DataType.ofName?_eq_some_iff] at htype
  cases href : f.ref with
  | some name =>
    obtain ⟨ref, hget⟩ := Option.isSome_iff_exists.mp ((hgs name).mpr (h.ref name href))
    simp [build, field, htype, href, hget]
  | none =>
    -- without a reference there is no join either
    have hjoin : f.join = none := by
      cases hjoin : f.join with
      | none => rfl
      | some join => simpa [href] using h.join (by rw [hjoin]; rfl)
    simp [build, field, htype, href, hjoin]

/-- A flaw is the error with which building the field fails. -/
theorem build_of_flawed {qualified : String} {e : SchemaError} (hgs : gs.Has names)
    (h : f.Flawed names qualified e) (identifier : String) :
    f.build gs identifier qualified = .error e := by
  cases h with
  | type hunknown => simp [build, DataType.ofName?_eq_none_iff.mpr hunknown]
  | @ref _ name htype href hunknown =>
    have hget : gs.ref? name = none := by
      rw [← Option.not_isSome_iff_eq_none, hgs name]
      exact hunknown
    simp [build, DataType.ofName?_eq_some_iff.mpr htype, href, hget]
  | join htype href hjoin => simp [build, DataType.ofName?_eq_some_iff.mpr htype, href, hjoin]

end FieldDef

/-! ### Definitions of schemas -/

namespace SchemaDef

/-- The definitions of the fields of a group, by their qualified names. -/
def fieldsOf (group : String) (entries : List (String × FieldDef)) : List (String × FieldDef) :=
  entries.map fun e => (group ++ "." ++ e.1, e.2)

/-- The definitions of the fields of all groups. -/
def fieldsOfAll (entries : List (String × GroupDef)) : List (String × FieldDef) :=
  entries.flatMap fun e => fieldsOf e.1 e.2.fields.entries

/-- All definitions of fields in the order of the schema, those of the groups before the variables. -/
def definitions (d : SchemaDef) : List (String × FieldDef) :=
  fieldsOfAll d.groups.entries ++ d.vars.entries

/-- All definitions are consistent. -/
def AllConsistent (names : List String) (fs : List (String × FieldDef)) : Prop :=
  ∀ f ∈ fs, f.2.Consistent names

/-- The first definition that is not consistent has this flaw. -/
inductive FirstFlaw (names : List String) : List (String × FieldDef) → SchemaError → Prop
  | here {qualified : String} {f : FieldDef} {rest : List (String × FieldDef)} {e : SchemaError}
      (h : f.Flawed names qualified e) : FirstFlaw names ((qualified, f) :: rest) e
  | later {qualified : String} {f : FieldDef} {rest : List (String × FieldDef)} {e : SchemaError}
      (hf : f.Consistent names) (h : FirstFlaw names rest e) :
      FirstFlaw names ((qualified, f) :: rest) e

section

variable {names : List String} {fs fs' : List (String × FieldDef)} {e : SchemaError}

/-- If not all definitions are consistent, there is a first one that is not. -/
theorem allConsistent_or_firstFlaw (names : List String) (fs : List (String × FieldDef)) :
    AllConsistent names fs ∨ ∃ e, FirstFlaw names fs e := by
  induction fs with
  | nil => exact .inl fun f hf => absurd hf List.not_mem_nil
  | cons f fs ih =>
    rcases FieldDef.consistent_or_flawed names f.1 f.2 with hf | ⟨e, hf⟩
    · rcases ih with hall | ⟨e, hflaw⟩
      · exact .inl (List.forall_mem_cons.mpr ⟨hf, hall⟩)
      · exact .inr ⟨e, .later hf hflaw⟩
    · exact .inr ⟨e, .here hf⟩

/-- The first flaw of two parts is that of the first part, or of the second after a first part without
flaws. -/
theorem FirstFlaw.of_append (h : FirstFlaw names (fs ++ fs') e) :
    FirstFlaw names fs e ∨ AllConsistent names fs ∧ FirstFlaw names fs' e := by
  induction fs with
  | nil => exact .inr ⟨fun f hf => absurd hf List.not_mem_nil, h⟩
  | cons f fs ih =>
    cases h with
    | here hf => exact .inl (.here hf)
    | later hf h =>
      rcases ih h with hflaw | ⟨hall, hflaw⟩
      · exact .inl (.later hf hflaw)
      · exact .inr ⟨List.forall_mem_cons.mpr ⟨hf, hall⟩, hflaw⟩

end

/-! ### Building -/

/-- Add the fields that definitions stand for to a group. -/
def fill (group : String) (gs : Groups) (entries : List (String × FieldDef)) : Groups :=
  entries.foldl (fun gs e => gs.addField group (e.2.field gs e.1)) gs

/-- Add the fields that definitions stand for to all groups. -/
def fillAll (gs : Groups) (entries : List (String × GroupDef)) : Groups :=
  entries.foldl (fun gs e => fill e.1 gs e.2.fields.entries) gs

/-- Add the variables that definitions stand for. -/
def fillVars (gs : Groups) (vars : Vars) (entries : List (String × FieldDef)) : Vars :=
  entries.foldl (fun vars e => vars.insert e.1 (e.2.field gs e.1)) vars

/-- Filling a group changes no reference. -/
theorem ref?_fill (group : String) (gs : Groups) (entries : List (String × FieldDef)) :
    (fill group gs entries).ref? = gs.ref? := by
  induction entries generalizing gs with
  | nil => rfl
  | cons e entries ih => exact (ih _).trans (gs.ref?_addField group _)

/-- Filling all groups changes no reference, so every field is built against the same names. -/
theorem ref?_fillAll (gs : Groups) (entries : List (String × GroupDef)) :
    (fillAll gs entries).ref? = gs.ref? := by
  induction entries generalizing gs with
  | nil => rfl
  | cons e entries ih => exact (ih _).trans (ref?_fill e.1 gs _)

section

variable {names : List String} {gs : Groups} {e : SchemaError}

/-- The fields of one group, all consistent. -/
theorem addFields_of_allConsistent (group : String) {entries : List (String × FieldDef)}
    (hgs : gs.Has names) (h : AllConsistent names (fieldsOf group entries)) :
    addFields group gs entries = .ok (fill group gs entries) := by
  induction entries generalizing gs with
  | nil => rfl
  | cons f entries ih =>
    -- the groups grow with each field, but keep their names
    obtain ⟨hf, hrest⟩ := List.forall_mem_cons.mp h
    rw [addFields, FieldDef.build_of_consistent hgs hf]
    exact ih (hgs.congr (gs.ref?_addField group _)) hrest

/-- The fields of one group, up to the first flaw. -/
theorem addFields_of_firstFlaw (group : String) {entries : List (String × FieldDef)}
    (hgs : gs.Has names) (h : FirstFlaw names (fieldsOf group entries) e) :
    addFields group gs entries = .error e := by
  induction entries generalizing gs with
  | nil => cases h
  | cons f entries ih =>
    rw [addFields]
    cases h with
    | here hf => rw [FieldDef.build_of_flawed hgs hf]
    | later hf h =>
      rw [FieldDef.build_of_consistent hgs hf]
      exact ih (hgs.congr (gs.ref?_addField group _)) h

/-- The fields of all groups, all consistent. -/
theorem addAllFields_of_allConsistent {entries : List (String × GroupDef)} (hgs : gs.Has names)
    (h : AllConsistent names (fieldsOfAll entries)) :
    addAllFields gs entries = .ok (fillAll gs entries) := by
  induction entries generalizing gs with
  | nil => rfl
  | cons g entries ih =>
    obtain ⟨hfields, hrest⟩ := List.forall_mem_append.mp h
    rw [addAllFields, addFields_of_allConsistent g.1 hgs hfields]
    exact ih (hgs.congr (ref?_fill g.1 gs _)) hrest

/-- The fields of all groups, up to the first flaw. It is in the first group with a flaw, and the groups
before that one are filled. -/
theorem addAllFields_of_firstFlaw {entries : List (String × GroupDef)} (hgs : gs.Has names)
    (h : FirstFlaw names (fieldsOfAll entries) e) : addAllFields gs entries = .error e := by
  induction entries generalizing gs with
  | nil => cases h
  | cons g entries ih =>
    rw [addAllFields]
    rcases FirstFlaw.of_append h with hfields | ⟨hfields, hrest⟩
    · rw [addFields_of_firstFlaw g.1 hgs hfields]
    · rw [addFields_of_allConsistent g.1 hgs hfields]
      exact ih (hgs.congr (ref?_fill g.1 gs _)) hrest

/-- The variables, all consistent. They are built when all groups are filled, which no longer change. -/
theorem addVars_of_allConsistent (vars : Vars) {entries : List (String × FieldDef)}
    (hgs : gs.Has names) (h : AllConsistent names entries) :
    addVars gs vars entries = .ok (fillVars gs vars entries) := by
  induction entries generalizing vars with
  | nil => rfl
  | cons f entries ih =>
    obtain ⟨hf, hrest⟩ := List.forall_mem_cons.mp h
    rw [addVars, FieldDef.build_of_consistent hgs hf]
    exact ih _ hrest

/-- The variables, up to the first flaw. -/
theorem addVars_of_firstFlaw (vars : Vars) {entries : List (String × FieldDef)} (hgs : gs.Has names)
    (h : FirstFlaw names entries e) : addVars gs vars entries = .error e := by
  induction entries generalizing vars with
  | nil => cases h
  | cons f entries ih =>
    rw [addVars]
    cases h with
    | here hf => rw [FieldDef.build_of_flawed hgs hf]
    | later hf h =>
      rw [FieldDef.build_of_consistent hgs hf]
      exact ih _ h

end

section

variable {d : SchemaDef} {e : SchemaError}

/-- The schema that consistent definitions stand for. -/
def assembled (d : SchemaDef) : Schema where
  groups := fillAll d.emptyGroups d.groups.entries
  vars := fillVars (fillAll d.emptyGroups d.groups.entries) {} d.vars.entries

/-- Defining groups one after the other adds their names. -/
theorem has_foldl_define {gs : Groups} {names : List String} (hgs : gs.Has names)
    (entries : List (String × GroupDef)) :
    (entries.foldl (fun gs e => gs.define e.1 e.2.tableSql) gs).Has
      (entries.map Prod.fst ++ names) := by
  induction entries generalizing gs names with
  | nil => exact hgs
  | cons g entries ih =>
    -- the invariant of one step; the names come out in another order, which `Has` does not see
    have hstep : (gs.define g.1 g.2.tableSql).Has (g.1 :: names) := by
      intro name
      rw [Groups.ref?_define, List.mem_cons]
      split
      next h => exact ⟨fun _ => .inl h, fun _ => rfl⟩
      next h => exact (hgs name).trans (or_iff_right h).symm
    intro name
    refine (ih hstep name).trans ?_
    simp only [List.map_cons, List.cons_append, List.mem_append, List.mem_cons]
    exact or_left_comm

/-- Before any field is built, all groups are there. -/
theorem has_emptyGroups (d : SchemaDef) : d.emptyGroups.Has d.groups.keys := by
  have hnone : Groups.Has {} [] := by
    intro name
    simp [Groups.ref?, OrderedMap.get?, OrderedMap.lookup]
  have hall := has_foldl_define hnone d.groups.entries
  rwa [List.append_nil] at hall

/-- The schema that is built has the groups of its definition. -/
theorem has_assembled (d : SchemaDef) : d.assembled.groups.Has d.groups.keys :=
  d.has_emptyGroups.congr (ref?_fillAll _ _)

/-- **Consistent definitions are built.** -/
theorem build_of_allConsistent (h : AllConsistent d.groups.keys d.definitions) :
    d.build = .ok d.assembled := by
  obtain ⟨hgroups, hvars⟩ := List.forall_mem_append.mp h
  rw [build, addAllFields_of_allConsistent d.has_emptyGroups hgroups]
  -- the variables are checked against the filled groups, which have the same names
  change (addVars d.assembled.groups {} d.vars.entries >>= _) = _
  rw [addVars_of_allConsistent {} d.has_assembled hvars]
  rfl

/-- **The first definition that is not consistent decides the error.** -/
theorem build_of_firstFlaw (h : FirstFlaw d.groups.keys d.definitions e) : d.build = .error e := by
  rw [build]
  rcases FirstFlaw.of_append h with hgroups | ⟨hgroups, hvars⟩
  · rw [addAllFields_of_firstFlaw d.has_emptyGroups hgroups]
    rfl
  · -- the groups are without flaws, so the flaw is in a variable
    rw [addAllFields_of_allConsistent d.has_emptyGroups hgroups]
    change (addVars d.assembled.groups {} d.vars.entries >>= _) = _
    rw [addVars_of_firstFlaw {} d.has_assembled hvars]
    rfl

/-- **Building fails exactly with the first flaw.** -/
theorem build_eq_error_iff : d.build = .error e ↔ FirstFlaw d.groups.keys d.definitions e := by
  -- building gives one answer, and one of the two theorems above tells which
  refine ⟨fun h => ?_, build_of_firstFlaw⟩
  rcases allConsistent_or_firstFlaw d.groups.keys d.definitions with hall | ⟨e', hflaw⟩
  · exact absurd (h.symm.trans (build_of_allConsistent hall)) (by simp)
  · obtain rfl : e = e' := Except.error.inj (h.symm.trans (build_of_firstFlaw hflaw))
    exact hflaw

/-- **Building succeeds exactly on consistent definitions**, with the schema that they stand for. -/
theorem build_eq_ok_iff {s : Schema} :
    d.build = .ok s ↔ AllConsistent d.groups.keys d.definitions ∧ s = d.assembled := by
  constructor
  · intro h
    rcases allConsistent_or_firstFlaw d.groups.keys d.definitions with hall | ⟨e, hflaw⟩
    · exact ⟨hall, Except.ok.inj (h.symm.trans (build_of_allConsistent hall))⟩
    · exact absurd (h.symm.trans (build_of_firstFlaw hflaw)) (by simp)
  · rintro ⟨hall, rfl⟩
    exact build_of_allConsistent hall

end

end SchemaDef

end QueryExpr
