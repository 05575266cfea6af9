import QueryExpr.Proofs.Query.Runs
import QueryExpr.Proofs.Term.Resolved
import QueryExpr.Text.Search

/-!
# Tables and the paths that lead to them

A query numbers its tables in the order in which paths of references first reach them, and remembers
the alias of each path. Tables and paths are kept in two maps with keys of their own, and this module
shows that the maps never drift apart (`Joins.Registered`): the i-th table has the i-th alias, exactly
one path has this alias, the table is the one of the group that the path leads to, and all paths on
the way to a registered path are registered.

The invariant is preserved by registering one path that is new (`Registered.enter`), hence by
registering a reference with all that it goes through (`Registered.register`), and hence by every step
of a query that neither adds tables of its own nor binds a variable anew.
-/

namespace QueryExpr

/-! ### Paths -/

namespace Text

variable {mark : Char}

theorem splitAtChar_ne_nil (mark : Char) (cs : List Char) : splitAtChar mark cs ≠ [] := by
  cases cs with
  | nil => exact List.cons_ne_nil _ _
  | cons c cs =>
    rw [splitAtChar]
    split
    · exact List.cons_ne_nil _ _
    · split <;> exact List.cons_ne_nil _ _

theorem splitAtChar_of_not_mem {cs : List Char} (h : mark ∉ cs) : splitAtChar mark cs = [cs] := by
  induction cs with
  | nil => rfl
  | cons c cs ih =>
    have hc : c ≠ mark := fun hc => h (hc ▸ List.mem_cons_self)
    rw [splitAtChar, if_neg hc, ih fun hmem => h (List.mem_cons_of_mem c hmem)]

theorem splitAtChar_append (xs ys : List Char) :
    splitAtChar mark (xs ++ mark :: ys) = splitAtChar mark xs ++ splitAtChar mark ys := by
  induction xs with
  | nil => exact if_pos rfl
  | cons c cs ih =>
    rw [List.cons_append, splitAtChar, splitAtChar, ih]
    split
    · rfl
    · obtain ⟨part, rest, hcs⟩ := List.exists_cons_of_ne_nil (splitAtChar_ne_nil mark cs)
      rw [hcs]
      rfl

/-- Two ways to cut a text at a mark, the first one at the last mark. -/
theorem eq_or_eq_append_of_append_eq {xs ys xs' ys' : List Char} (hys : mark ∉ ys)
    (h : xs ++ mark :: ys = xs' ++ mark :: ys') :
    (xs' = xs ∧ ys' = ys) ∨ ∃ zs, xs = xs' ++ mark :: zs ∧ ys' = zs ++ mark :: ys := by
  rcases List.append_eq_append_iff.mp h with ⟨zs, rfl, hzs⟩ | ⟨zs, rfl, hzs⟩
  · cases zs with
    | nil =>
      rw [List.append_nil]
      exact .inl ⟨rfl, (List.cons.inj hzs).2.symm⟩
    | cons z zs =>
      -- the second mark would be among the characters after the last one
      obtain ⟨-, rfl⟩ := List.cons.inj hzs
      exact absurd (List.mem_append_right _ List.mem_cons_self) hys
  · cases zs with
    | nil =>
      rw [List.append_nil]
      exact .inl ⟨rfl, (List.cons.inj hzs).2⟩
    | cons z zs =>
      obtain ⟨rfl, rfl⟩ := List.cons.inj hzs
      exact .inr ⟨zs, rfl, rfl⟩

end Text

/-- The field that names lead to: the first one is a variable, and each of the others is a member of
the group that the field before it refers to. -/
def Schema.fieldAlong? (schema : Schema) : List (List Char) → Option Field
  | [] => none
  | root :: names =>
    (schema.vars.get? (String.ofList root)).bind fun field =>
      names.foldlM (fun field name => schema.groups.member? field (String.ofList name)) field

/-- The field that a path leads to, the names of which are separated by dots. -/
def Schema.fieldAt? (schema : Schema) (path : String) : Option Field :=
  schema.fieldAlong? (Text.splitAtChar '.' path.toList)

section Paths

variable {schema : Schema} {name : String}

theorem Token.dot_not_mem_of_isName (h : Token.isName name = true) : '.' ∉ name.toList :=
  Token.not_mem_of_isName h (by decide +kernel)

theorem fieldAt?_of_not_mem (hname : '.' ∉ name.toList) :
    schema.fieldAt? name = schema.vars.get? name := by
  rw [Schema.fieldAt?, Text.splitAtChar_of_not_mem hname, Schema.fieldAlong?, String.ofList_toList]
  cases schema.vars.get? name <;> rfl

theorem fieldAt?_append (path : String) (hname : '.' ∉ name.toList) :
    schema.fieldAt? (path ++ "." ++ name) =
      (schema.fieldAt? path).bind fun field => schema.groups.member? field name := by
  have htext : (path ++ "." ++ name).toList = path.toList ++ '.' :: name.toList := by simp
  obtain ⟨root, names, hpath⟩ :=
    List.exists_cons_of_ne_nil (Text.splitAtChar_ne_nil '.' path.toList)
  rw [Schema.fieldAt?, Schema.fieldAt?, htext, Text.splitAtChar_append,
    Text.splitAtChar_of_not_mem hname, hpath, List.cons_append, Schema.fieldAlong?,
    Schema.fieldAlong?]
  cases schema.vars.get? (String.ofList root) with
  | none => rfl
  | some field =>
    -- the last name is one more step from where the path leads to
    rw [Option.bind_some, Option.bind_some, List.foldlM_append]
    cases names.foldlM (fun field name => schema.groups.member? field (String.ofList name)) field with
    | none => rfl
    | some target =>
      show (schema.groups.member? target (String.ofList name.toList)).bind some =
        schema.groups.member? target name
      rw [String.ofList_toList]
      cases schema.groups.member? target name <;> rfl

/-- Further variables do not matter to a path. -/
theorem fieldAt?_mono {groups : Groups} {vars vars' : Vars} {path : String} {field : Field}
    (hvars : ∀ name field, vars.get? name = some field → vars'.get? name = some field)
    (h : (Schema.mk groups vars).fieldAt? path = some field) :
    (Schema.mk groups vars').fieldAt? path = some field := by
  rw [Schema.fieldAt?] at h ⊢
  cases hpath : Text.splitAtChar '.' path.toList with
  | nil => rw [hpath] at h; cases h
  | cons root names =>
    rw [hpath, Schema.fieldAlong?] at h
    obtain ⟨first, hfirst, hnames⟩ := Option.bind_eq_some_iff.mp h
    rw [Schema.fieldAlong?, hvars _ _ hfirst, Option.bind_some]
    exact hnames

/-- **The path of a resolved reference leads to its field.** -/
theorem fieldAt?_of_resolved {t : Term} (h : Resolved schema t) {path : String} {field : Field}
    (hpath : t.fullIdentifier? = some path) (hfield : t.field? = some field) :
    schema.fieldAt? path = some field := by
  induction h using Resolved.path_induction generalizing path field with
  | root identifier content name =>
    cases hpath
    rw [fieldAt?_of_not_mem (Token.dot_not_mem_of_isName name)]
    exact hfield
  | @member _ _ _ front identifier content name _ _ horigin hmember hfront ih =>
    rw [Term.make, Term.fullIdentifier?, hfront] at hpath
    cases hpath
    rw [Option.getD_some, fieldAt?_append front (Token.dot_not_mem_of_isName name),
      ih hfront horigin, Option.bind_some, hmember]
    exact hfield
  | other t _ hother =>
    rw [fullIdentifier?_of_isField_eq_false hother] at hpath
    cases hpath

end Paths

/-! ### Tables by number -/

/-- The alias of the table with this number, counted from zero. -/
def aliasAt (i : Nat) : String := "t" ++ toString (i + 1)

theorem toList_aliasAt (i : Nat) : (aliasAt i).toList = 't' :: Nat.toDigits 10 (i + 1) := by
  simp [aliasAt]

theorem aliasAt_inj {i i' : Nat} (h : aliasAt i = aliasAt i') : i = i' := by
  have hlists := congrArg String.toList h
  rw [toList_aliasAt, toList_aliasAt] at hlists
  -- the number can be read off its digits
  have hvalues := congrArg (fun ds => Nat.ofDigitChars 10 ds 0) (List.cons.inj hlists).2
  simp only [Nat.ofDigitChars_ten_toDigits] at hvalues
  omega

theorem blank_not_mem_aliasAt (i : Nat) : ' ' ∉ (aliasAt i).toList := by
  rw [toList_aliasAt]
  intro h
  rcases List.mem_cons.mp h with h | h
  · cases h
  · cases Nat.isDigit_of_mem_toDigits (by decide) (by decide) h

/-- Tables with different numbers have different keys, whatever their names are. -/
theorem eq_of_key_eq {table table' : String} {i i' : Nat}
    (h : table ++ " " ++ aliasAt i = table' ++ " " ++ aliasAt i') : i = i' := by
  have hlists : table.toList ++ ' ' :: (aliasAt i).toList =
      table'.toList ++ ' ' :: (aliasAt i').toList := by
    simpa using congrArg String.toList h
  -- neither alias has a blank in it, so both keys are cut at their last blank
  rcases Text.eq_or_eq_append_of_append_eq (blank_not_mem_aliasAt i) hlists with ⟨-, h⟩ | ⟨zs, -, h⟩
  · exact aliasAt_inj (String.toList_inj.mp h.symm)
  · exact absurd (h ▸ List.mem_append_right zs List.mem_cons_self) (blank_not_mem_aliasAt i')

namespace Joins

/-- The alias of a path fits the table that it leads to: it is the one of an entry for this table, or
there is neither. -/
def Matches (j : Joins) (label table : Option String) : Prop :=
  (label = none ∧ table = none) ∨
    ∃ i entry, label = some (aliasAt i) ∧ j.tables.values[i]? = some entry ∧
      table = some entry.name

/-- Tables and paths fit together. -/
structure Registered (schema : Schema) (j : Joins) : Prop where
  /-- Tables have the alias of their number, and are kept by name and alias. -/
  table : ∀ i key entry, j.tables.entries[i]? = some (key, entry) →
    key = entry.name ++ " " ++ aliasAt i ∧ entry.label = some (aliasAt i)
  /-- A registered path leads to a field, and its alias is the one of the table behind the field. -/
  path : ∀ path label, j.aliases.get? path = some label →
    ∃ field, schema.fieldAt? path = some field ∧
      j.Matches label ((schema.groups.target? field).bind Group.tableSql)
  /-- Each table is the one of exactly one path. -/
  once : ∀ i < j.tables.size, ∃! path, j.aliases.get? path = some (some (aliasAt i))
  /-- What a registered path goes through is registered. -/
  closed : ∀ front back, (j.aliases.get? (front ++ "." ++ back)).isSome = true →
    (j.aliases.get? front).isSome = true

section Registered

variable {schema : Schema} {j : Joins}

theorem registered_empty : Registered schema {} where
  table := nofun
  path := nofun
  once := nofun
  closed := nofun

theorem Matches.lt {label table : Option String} (h : j.Matches label table) {i : Nat}
    (hlabel : label = some (aliasAt i)) : i < j.tables.size := by
  rcases h with ⟨hnone, -⟩ | ⟨i', entry, hsome, hentry, -⟩
  · rw [hnone] at hlabel
    cases hlabel
  · rw [hsome] at hlabel
    rw [← aliasAt_inj (Option.some.inj hlabel)]
    have hlt := (List.getElem?_eq_some_iff.mp hentry).1
    rwa [OrderedMap.length_values] at hlt

/-- What fits a table still fits it when further tables come behind. -/
theorem Matches.mono {j' : Joins} {label table : Option String} (h : j.Matches label table)
    (hvalues : ∀ (i : Nat) (entry : Table), j.tables.values[i]? = some entry →
      j'.tables.values[i]? = some entry) : j'.Matches label table := by
  rcases h with hnone | ⟨i, entry, hlabel, hentry, htable⟩
  · exact .inl hnone
  · exact .inr ⟨i, entry, hlabel, hvalues i entry hentry, htable⟩

/-- The i-th table has the i-th alias. -/
theorem Registered.label_of_values (h : j.Registered schema) {i : Nat} {entry : Table}
    (hentry : j.tables.values[i]? = some entry) : entry.label = some (aliasAt i) := by
  rw [OrderedMap.values, List.getElem?_map] at hentry
  obtain ⟨⟨key, value⟩, hget, rfl⟩ := Option.map_eq_some_iff.mp hentry
  exact (h.table i key value hget).2

/-- An alias belongs to one table. -/
theorem Registered.eq_of_label (h : j.Registered schema) {entry : Table}
    (hentry : entry ∈ j.tables.values) {i : Nat} (hlabel : entry.label = some (aliasAt i)) :
    j.tables.values[i]? = some entry := by
  obtain ⟨i', hi'⟩ := List.mem_iff_getElem?.mp hentry
  have heq : some (aliasAt i') = some (aliasAt i) := (h.label_of_values hi').symm.trans hlabel
  rw [← aliasAt_inj (Option.some.inj heq)]
  exact hi'

/-- The table of a path with an alias. -/
theorem Registered.exists_of_get? (h : j.Registered schema) {path label : String}
    (hget : j.aliases.get? path = some (some label)) :
    ∃ i entry field, label = aliasAt i ∧ j.tables.values[i]? = some entry ∧
      schema.fieldAt? path = some field ∧
      (schema.groups.target? field).bind Group.tableSql = some entry.name := by
  obtain ⟨field, hfield, ⟨hnone, -⟩ | ⟨i, entry, hlabel, hentry, htable⟩⟩ := h.path path _ hget
  · cases hnone
  · exact ⟨i, entry, field, Option.some.inj hlabel, hentry, hfield, htable⟩

theorem Matches.eq_none_iff {label table : Option String} (h : j.Matches label table) :
    label = none ↔ table = none := by
  rcases h with ⟨rfl, rfl⟩ | ⟨i, entry, rfl, -, rfl⟩
  · exact Iff.rfl
  · exact ⟨nofun, nofun⟩

/-- The key of the next table is new. -/
theorem Registered.get?_next (h : j.Registered schema) (table : String) :
    j.tables.get? (table ++ " " ++ j.nextAlias) = none := by
  rw [OrderedMap.get?_eq_none_iff]
  intro hmem
  obtain ⟨⟨key, entry⟩, he, hkey⟩ := List.mem_map.mp hmem
  obtain ⟨i, hi⟩ := List.mem_iff_getElem?.mp he
  have hlt := (List.getElem?_eq_some_iff.mp hi).1
  have heq : entry.name ++ " " ++ aliasAt i = table ++ " " ++ aliasAt j.tables.size :=
    (h.table i key entry hi).1.symm.trans hkey
  have hsize := eq_of_key_eq heq
  rw [OrderedMap.size] at hsize
  omega

section Insert

variable {path : String} {field : Field} (h : j.Registered schema)
  (hfree : j.aliases.get? path = none) (hfield : schema.fieldAt? path = some field)
  (hclosed : ∀ front back, path = front ++ "." ++ back → (j.aliases.get? front).isSome = true)

include h hclosed in
/-- With a path whose own paths are registered, the paths are still closed. -/
theorem Registered.closed_insert (label : Option String) (front back : String)
    (hsome : ((j.aliases.insert path label).get? (front ++ "." ++ back)).isSome = true) :
    ((j.aliases.insert path label).get? front).isSome = true := by
  have hfront : (j.aliases.get? front).isSome = true := by
    rw [OrderedMap.get?_insert] at hsome
    split at hsome
    · next heq => exact hclosed front back heq.symm
    · exact h.closed front back hsome
  rw [OrderedMap.get?_insert]
  split
  · rfl
  · exact hfront

include h hfree in
/-- The other tables are still the tables of one path each. -/
theorem Registered.once_insert {label : Option String} {i : Nat} (hi : i < j.tables.size)
    (hne : label ≠ some (aliasAt i)) :
    ∃! path', (j.aliases.insert path label).get? path' = some (some (aliasAt i)) := by
  obtain ⟨path', hpath', huniq⟩ := h.once i hi
  -- the path of the old table is another one, as the new path had no entry
  have hother : path' ≠ path := by
    rintro rfl
    rw [hfree] at hpath'
    cases hpath'
  refine ⟨path', ?_, fun path'' hget => ?_⟩
  · dsimp only
    rw [OrderedMap.get?_insert, if_neg hother, hpath']
  · dsimp only at hget
    rw [OrderedMap.get?_insert] at hget
    -- the entry that was added has the new label, so it is not the one of an old table
    split at hget
    · exact absurd (Option.some.inj hget) hne
    · exact huniq path'' hget

include h in
/-- The next alias is the one of the new path only. -/
theorem Registered.once_next :
    ∃! path', (j.aliases.insert path (some j.nextAlias)).get? path' =
      some (some (aliasAt j.tables.size)) := by
  refine ⟨path, ?_, fun path' hget => ?_⟩
  · dsimp only
    rw [OrderedMap.get?_insert, if_pos rfl]
    rfl
  · dsimp only at hget
    rw [OrderedMap.get?_insert] at hget
    split at hget
    · next heq => exact heq
    · -- a path that was there has the alias of a table that was there
      obtain ⟨field, -, hmatches⟩ := h.path path' _ hget
      exact absurd (hmatches.lt rfl) (Nat.lt_irrefl _)

include h in
/-- The next table has the next alias, and the others have theirs. -/
theorem Registered.table_insert (table : String) (comment : Option String) (i : Nat) (key : String)
    (entry : Table)
    (hget : (j.tables.insert (table ++ " " ++ j.nextAlias)
      ⟨table, comment, some j.nextAlias⟩).entries[i]? = some (key, entry)) :
    key = entry.name ++ " " ++ aliasAt i ∧ entry.label = some (aliasAt i) := by
  rw [OrderedMap.entries_insert_of_get?_eq_none (h.get?_next table), List.getElem?_append] at hget
  split at hget
  · -- an old table keeps its place in front of the new one
    exact h.table i key entry hget
  · next hge =>
    -- only one entry was added, so it stands right behind the old ones and has the next alias
    rw [List.getElem?_singleton] at hget
    split at hget
    · next hzero =>
      have hi : i = j.tables.size := by
        rw [OrderedMap.size]
        omega
      cases hget
      exact ⟨by rw [hi]; rfl, by rw [hi]; rfl⟩
    · cases hget

include h hfree hfield hclosed

/-- A path that leads to no table. -/
theorem Registered.insert_none (hnone : (schema.groups.target? field).bind Group.tableSql = none)
    (conditions : OrderedMap String String) :
    Registered schema ⟨j.tables, conditions, j.aliases.insert path none⟩ where
  table := h.table
  path := by
    intro path' label hget
    rw [OrderedMap.get?_insert] at hget
    split at hget
    · next heq =>
      cases hget
      exact ⟨field, heq ▸ hfield, .inl ⟨rfl, hnone⟩⟩
    · exact h.path path' label hget
  once := fun i hi => h.once_insert hfree hi (by rintro ⟨⟩)
  closed := h.closed_insert hclosed none

/-- A path that leads to a table, which is the next one. -/
theorem Registered.insert_some {table : String}
    (hsome : (schema.groups.target? field).bind Group.tableSql = some table)
    (comment : Option String) (conditions : OrderedMap String String) :
    Registered schema
      ⟨j.tables.insert (table ++ " " ++ j.nextAlias) ⟨table, comment, some j.nextAlias⟩, conditions,
        j.aliases.insert path (some j.nextAlias)⟩ where
  table := h.table_insert table comment
  path := by
    let entry : Table := ⟨table, comment, some j.nextAlias⟩
    have hvalues := OrderedMap.values_insert_of_get?_eq_none (h.get?_next table) entry
    intro path' label hget
    rw [OrderedMap.get?_insert] at hget
    split at hget
    · next heq =>
      cases hget
      refine ⟨field, heq ▸ hfield, .inr ⟨j.tables.size, entry, rfl, ?_, hsome⟩⟩
      rw [hvalues, ← OrderedMap.length_values]
      exact List.getElem?_concat_length
    · obtain ⟨field', hfield', hmatches⟩ := h.path path' label hget
      refine ⟨field', hfield', hmatches.mono fun i entry hentry => ?_⟩
      dsimp only
      rw [hvalues, List.getElem?_append_left (List.getElem?_eq_some_iff.mp hentry).1, hentry]
  once := by
    intro i hi
    dsimp only at hi ⊢
    rw [OrderedMap.size_insert_of_get?_eq_none (h.get?_next table)] at hi
    -- the new alias has a number of its own
    by_cases hlt : i < j.tables.size
    · refine h.once_insert hfree hlt fun heq => ?_
      have hsize : j.tables.size = i := aliasAt_inj (Option.some.inj heq)
      omega
    · obtain rfl : i = j.tables.size := by omega
      exact h.once_next
  closed := h.closed_insert hclosed _

end Insert

/-- **Registering a path that is new**, after what it goes through. -/
theorem Registered.enter (h : j.Registered schema) {path : String} {field : Field}
    (hfree : j.aliases.get? path = none) (hfield : schema.fieldAt? path = some field)
    (hclosed : ∀ front back, path = front ++ "." ++ back → (j.aliases.get? front).isSome = true)
    (comment : String) (master : Option String) :
    (j.enter schema.groups path field comment master).1.Registered schema := by
  obtain ⟨conditions, henter⟩ := exists_enter_eq schema.groups path field comment master j
  rw [henter]
  split
  · next hnone => exact h.insert_none hfree hfield hclosed hnone conditions
  · next table hsome => exact h.insert_some hfree hfield hclosed hsome (some comment) conditions

/-- Other variables that have been bound in the meantime do not matter. -/
theorem Registered.mono {groups : Groups} {vars vars' : Vars}
    (h : j.Registered ⟨groups, vars⟩)
    (hvars : ∀ name field, vars.get? name = some field → vars'.get? name = some field) :
    j.Registered ⟨groups, vars'⟩ where
  table := h.table
  path := by
    intro path label hget
    obtain ⟨field, hfield, hmatches⟩ := h.path path label hget
    exact ⟨field, fieldAt?_mono hvars hfield, hmatches⟩
  once := h.once
  closed := h.closed

/-- The length of the path of a term. -/
def pathLength (t : Term) : Nat := (t.fullIdentifier?.getD "").toList.length

/-- What registering a reference does to the registered paths: longer ones are left alone, and the one
of the term that it is reached from is there. -/
structure Reaches (t : Term) (j j' : Joins) : Prop where
  frame : ∀ path : String, pathLength t ≤ path.toList.length →
    j'.aliases.get? path = j.aliases.get? path
  parent : ∀ parent path, t.head.isField = true → t.slots.head? = some parent →
    parent.fullIdentifier? = some path → (j'.aliases.get? path).isSome = true

theorem get?_aliases_enter (groups : Groups) (path : String) (field : Field) (comment : String)
    (master : Option String) (j : Joins) (path' : String) :
    (j.enter groups path field comment master).1.aliases.get? path' =
      if path' = path then some (j.enter groups path field comment master).2
      else j.aliases.get? path' := by
  obtain ⟨conditions, henter⟩ := exists_enter_eq groups path field comment master j
  rw [henter]
  split <;> exact OrderedMap.get?_insert _ _ _ _

/-- A term that is reached from no other one has nothing to register. -/
theorem reaches_self {t : Term} (h : t.head.isField = true → t.slots.head? = none) (j : Joins) :
    Reaches t j j where
  frame := fun _ _ => rfl
  parent := by
    intro parent path hfield hparent
    rw [h hfield] at hparent
    cases hparent

section Member

variable {groups : Groups} {path : String} {origin : Field} {parent : Term}
  (hpath : parent.fullIdentifier? = some path) (identifier : String) (field : Field)
  (content : List Fragment)

include hpath

theorem length_lt_pathLength_member : path.toList.length <
    pathLength (.make (.field identifier (some field)) content [parent]) := by
  rw [pathLength, Term.make, Term.fullIdentifier?, hpath, Option.getD_some, Option.getD_some]
  simp only [String.toList_append, List.length_append]
  have hone : ".".toList.length = 1 := rfl
  omega

/-- After the path before it a reference has reached all that it goes through. -/
theorem Reaches.enter {j' : Joins} (h : Reaches parent j j') (comment : String)
    (master : Option String) :
    Reaches (.make (.field identifier (some field)) content [parent]) j
      (j'.enter groups path origin comment master).1 where
  frame := by
    -- the path that is entered is shorter than the reference, so a path as long as that one is left
    -- alone
    intro path' hlength
    have hlonger := length_lt_pathLength_member hpath identifier field content
    have hparent : pathLength parent = path.toList.length := by
      rw [pathLength, hpath, Option.getD_some]
    have hne : path' ≠ path := by
      rintro rfl
      omega
    rw [get?_aliases_enter, if_neg hne, h.frame path' (by omega)]
  parent := by
    rintro _ path' - ⟨⟩ hpath'
    rw [get?_aliases_enter, if_pos (Option.some.inj (hpath'.symm.trans hpath))]
    rfl

/-- A reference to a field of a group has the alias of the path before it, which is registered unless
this is done already. -/
theorem register_member_eq (horigin : parent.field? = some origin) (j : Joins) :
    (Term.make (.field identifier (some field)) content [parent]).register groups j =
      match j.aliases.get? path with
      | some label => (j, label)
      | none => (parent.register groups j).1.enter groups path origin parent.source
        (parent.register groups j).2 := by
  have hvalid : (Term.verdictOn .standard (.field identifier (some field)) [parent]).fault = none :=
    rfl
  rw [Term.make, Term.register, hvalid, hpath, horigin]
  dsimp only [Option.isSome_none]
  cases j.aliases.get? path <;> rfl

theorem register_member (horigin : parent.field? = some origin) (j : Joins) :
    ((Term.make (.field identifier (some field)) content [parent]).register groups j).1 =
      if (j.aliases.get? path).isSome then j
      else ((parent.register groups j).1.enter groups path origin parent.source
        (parent.register groups j).2).1 := by
  rw [register_member_eq hpath identifier field content horigin]
  cases j.aliases.get? path <;> rfl

end Member

theorem register_of_isField_eq_false {t : Term} (h : t.head.isField = false) (groups : Groups)
    (j : Joins) : t.register groups j = (j, none) := by
  obtain ⟨head, verdict, content, slots⟩ := t
  cases head with
  | field identifier field => cases h
  | _ => rfl

/-- The path of a reference is a name, or a name after the path that it is reached from. -/
theorem path_cases {t : Term} (h : Resolved schema t) {path : String}
    (hpath : t.fullIdentifier? = some path) :
    '.' ∉ path.toList ∨ ∃ parent front name, t.head.isField = true ∧ t.slots.head? = some parent ∧
      parent.fullIdentifier? = some front ∧ '.' ∉ name.toList ∧ path = front ++ "." ++ name := by
  cases h using Resolved.path_induction with
  | root identifier content name =>
    cases hpath
    exact .inl (Token.dot_not_mem_of_isName name)
  | @member parent _ _ front identifier content name _ _ _ _ hfront =>
    rw [Term.make, Term.fullIdentifier?, hfront] at hpath
    cases hpath
    exact .inr ⟨parent, front, identifier, rfl, rfl, hfront,
      Token.dot_not_mem_of_isName name, rfl⟩
  | other t _ hother =>
    rw [fullIdentifier?_of_isField_eq_false hother] at hpath
    cases hpath

/-- When the path before it is registered, so is all that a path goes through. -/
theorem Registered.closed_of_reaches {origin : Schema} {t : Term} (ht : Resolved origin t)
    {j' : Joins} (h : j'.Registered schema) (hreaches : Reaches t j j') {path : String}
    (hpath : t.fullIdentifier? = some path) (front back : String)
    (heq : path = front ++ "." ++ back) : (j'.aliases.get? front).isSome = true := by
  rcases path_cases ht hpath with hname | ⟨parent, before, name, hfield, hparent, hbefore, hname, hp⟩
  · exact absurd (by simp [heq]) hname
  · have hregistered := hreaches.parent parent before hfield hparent hbefore
    have hlists : before.toList ++ '.' :: name.toList = front.toList ++ '.' :: back.toList := by
      simpa using congrArg String.toList (hp.symm.trans heq)
    -- the cut is at the last dot, or inside the path before it
    rcases Text.eq_or_eq_append_of_append_eq hname hlists with ⟨hfront, -⟩ | ⟨zs, hzs, -⟩
    · rw [String.toList_inj.mp hfront]
      exact hregistered
    · refine h.closed front (String.ofList zs) ?_
      have hsplit : before = front ++ "." ++ String.ofList zs := by
        rw [← String.toList_inj, hzs]
        simp
      rw [← hsplit]
      exact hregistered

/-- **Registering a reference** with all that it goes through. The term may come from a schema with
fewer variables. -/
theorem Registered.register {origin : Schema} {t : Term} (ht : Resolved origin t)
    (hsub : ∀ path field, origin.fieldAt? path = some field → schema.fieldAt? path = some field)
    (h : j.Registered schema) :
    (t.register schema.groups j).1.Registered schema ∧
      Reaches t j (t.register schema.groups j).1 := by
  -- only a member has something to register
  induction ht using Resolved.path_induction generalizing j with
  | root identifier content name => exact ⟨h, reaches_self (fun _ => rfl) j⟩
  | @member parent _ field path identifier content _ _ part hmaster _ hpath ih =>
    rw [register_member hpath identifier field content hmaster]
    by_cases hget : (j.aliases.get? path).isSome = true
    · rw [if_pos hget]
      refine ⟨h, fun _ _ => rfl, ?_⟩
      rintro _ path' - ⟨⟩ hpath'
      rw [← Option.some.inj (hpath.symm.trans hpath')]
      exact hget
    · rw [if_neg hget]
      obtain ⟨hbefore, hreaches⟩ := ih h
      -- what the parent registers is shorter than its own path, which is still new
      have hlength : pathLength parent = path.toList.length := by
        rw [pathLength, hpath, Option.getD_some]
      have hfree : (parent.register schema.groups j).1.aliases.get? path = none := by
        rw [hreaches.frame path (Nat.le_of_eq hlength), Option.not_isSome_iff_eq_none.mp hget]
      exact ⟨hbefore.enter hfree (hsub _ _ (fieldAt?_of_resolved part hpath hmaster))
        (hbefore.closed_of_reaches part hreaches hpath) _ _,
        hreaches.enter hpath identifier field content _ _⟩
  | other t _ hother =>
    rw [register_of_isField_eq_false hother]
    exact ⟨h, reaches_self (by simp [hother]) j⟩

end Registered

end Joins

/-! ### Steps of a query -/

section Refs

variable {schema : Schema}

/-- The references in a resolved term are resolved. -/
theorem resolved_of_mem_fieldRefs {t : Term} (h : Resolved schema t) :
    ∀ ref ∈ t.fieldRefs, Resolved schema ref := by
  induction h with
  | root identifier content name =>
    intro ref href
    obtain rfl := List.mem_singleton.mp href
    exact .root identifier content name
  | member identifier content name known part =>
    intro ref href
    obtain rfl := List.mem_singleton.mp href
    exact .member identifier content name known part
  | const value content unsigned => exact fun ref href => nomatch href
  | malformed kind content => exact fun ref href => nomatch href
  | @node head content slots inner parts ih =>
    -- a reference below a node that is none itself is a reference of one of its parts
    intro ref href
    have hslots : ref ∈ Term.fieldRefsAll slots := by
      cases head with
      | field identifier field => cases inner
      | _ => exact href
    obtain ⟨t, ht, href⟩ := Term.mem_fieldRefsAll.mp hslots
    exact ih t ht ref href

end Refs

namespace Query

/-- The step adds no tables of its own and binds new names only. Terms that it brings with it have been
compiled with variables of the query. -/
def Op.IsOrderly (groups : Groups) (q : Query) : Op → Prop
  | .fromSql _ _ _ | .setVars _ => False
  | .bindVar name _ => q.vars.get? name = none ∧ '.' ∉ name.toList
  | .registerTerm t | .emit t _ =>
    ∃ vars source, (∀ name field, vars.get? name = some field → q.vars.get? name = some field) ∧
      compile ⟨groups, vars⟩ source = .ok t
  | _ => True

/-- The queries that come about by such steps from variables without dots in their names. -/
inductive Grows (groups : Groups) : Query → Prop where
  | start (vars : Vars)
      (dotless : ∀ name field, vars.get? name = some field → '.' ∉ name.toList) :
      Grows groups (.ofVars vars)
  | step {q : Query} (op : Op) (orderly : op.IsOrderly groups q) (before : Grows groups q) :
      Grows groups (op.run groups q)

section Grows

variable {groups : Groups} {q : Query}

/-- Registering the references of a term that is compiled with variables of the query. -/
theorem refsKeep_registered {vars : Vars} {source : String} {t : Term}
    (hvars : ∀ name field, vars.get? name = some field → q.vars.get? name = some field)
    (h : compile ⟨groups, vars⟩ source = .ok t) :
    Term.RefsKeep groups (Joins.Registered ⟨groups, q.vars⟩) t.fieldRefs := by
  intro ref href j hj
  have hresolved := resolved_of_mem_fieldRefs (resolved_of_compile h) ref href
  exact (hj.register hresolved fun _ _ hpath => fieldAt?_mono hvars hpath).1

/-- One step. -/
theorem registered_run (op : Op) (horderly : op.IsOrderly groups q)
    (hdotless : ∀ name field, q.vars.get? name = some field → '.' ∉ name.toList)
    (h : q.joins.Registered ⟨groups, q.vars⟩) :
    (op.run groups q).joins.Registered ⟨groups, (op.run groups q).vars⟩ := by
  have hstable : Stable groups q (Joins.Registered ⟨groups, q.vars⟩) :=
    { condition := fun j sql comment hj => ⟨hj.table, hj.path, hj.once, hj.closed⟩
      compiled := fun source t ht => refsKeep_registered (fun _ _ hname => hname) ht
      root := by
        intro name field j hfield hfree hj
        have hname := hdotless name field hfield
        refine hj.enter hfree ((fieldAt?_of_not_mem hname).trans hfield) ?_ name none
        intro front back heq
        exact absurd (by simp [heq]) hname }
  have hadmits : op.Admits groups (Joins.Registered ⟨groups, q.vars⟩) := by
    cases op with
    | registerTerm t | emit t _ =>
      obtain ⟨vars, source, hvars, hcompile⟩ := horderly
      exact refsKeep_registered hvars hcompile
    | fromSql table comment label => exact absurd horderly id
    | _ => trivial
  -- the step may have bound a variable; it is a new one, so no path loses its field
  rw [op.vars_run]
  refine (op.keeps hstable h hadmits).mono fun name field hfield => ?_
  cases op with
  | bindVar new _ =>
    have hne : name ≠ new := by
      rintro rfl
      rw [horderly.1] at hfield
      cases hfield
    rw [Op.vars, OrderedMap.get?_insert, if_neg hne, hfield]
  | setVars vars => exact absurd horderly id
  | _ => exact hfield

/-- The names of variables stay without dots. -/
theorem dotless_run (op : Op) (horderly : op.IsOrderly groups q)
    (h : ∀ name field, q.vars.get? name = some field → '.' ∉ name.toList) (name : String)
    (field : Field) (hfield : (op.run groups q).vars.get? name = some field) :
    '.' ∉ name.toList := by
  rw [op.vars_run] at hfield
  cases op with
  | bindVar new _ =>
    rw [Op.vars, OrderedMap.get?_insert] at hfield
    split at hfield
    · next heq => exact heq ▸ horderly.2
    · exact h name field hfield
  | setVars vars => exact absurd horderly id
  | _ => exact h name field hfield

/-- All steps. -/
theorem Grows.registered (h : q.Grows groups) :
    (∀ name field, q.vars.get? name = some field → '.' ∉ name.toList) ∧
      q.joins.Registered ⟨groups, q.vars⟩ := by
  induction h with
  | start vars dotless => exact ⟨dotless, Joins.registered_empty⟩
  | step op orderly _ ih =>
    exact ⟨dotless_run op orderly ih.1, registered_run op orderly ih.1 ih.2⟩

/-- **Tables and paths of a query fit together.** In the order of the tables their aliases are `t1`,
`t2` and so on. Paths with an alias and tables correspond one to one by the alias, and the table of a
path is the one of the group that the field at its end refers to. A registered path has no alias
exactly if there is no such group, or the group has no table. What a registered path goes through is
registered. -/
theorem aliases_correspond (h : q.Grows groups) :
    (∀ (i : Nat) (entry : Table), q.joins.tables.values[i]? = some entry →
      entry.label = some ("t" ++ toString (i + 1))) ∧
    (∀ entry ∈ q.joins.tables.values, ∃! path, ∃ label,
      q.joins.aliases.get? path = some (some label) ∧ entry.label = some label) ∧
    (∀ path label, q.joins.aliases.get? path = some (some label) →
      ∃! entry, entry ∈ q.joins.tables.values ∧ entry.label = some label) ∧
    (∀ path label entry, q.joins.aliases.get? path = some (some label) →
      entry ∈ q.joins.tables.values → entry.label = some label →
      ∃ field group, (q.scope groups).fieldAt? path = some field ∧
        groups.target? field = some group ∧ group.tableSql = some entry.name) ∧
    (∀ path label, q.joins.aliases.get? path = some label →
      ∃ field, (q.scope groups).fieldAt? path = some field ∧
        (label = none ↔
          groups.target? field = none ∨
            ∃ group, groups.target? field = some group ∧ group.tableSql = none)) ∧
    (∀ front back, (q.joins.aliases.get? (front ++ "." ++ back)).isSome = true →
      (q.joins.aliases.get? front).isSome = true) := by
  obtain ⟨-, hjoins⟩ := h.registered
  refine ⟨fun i entry hentry => hjoins.label_of_values hentry, ?_, ?_, ?_, ?_, hjoins.closed⟩
  · -- the path of a table
    intro entry hentry
    obtain ⟨i, hi⟩ := List.mem_iff_getElem?.mp hentry
    have hlabel := hjoins.label_of_values hi
    have hlt := (List.getElem?_eq_some_iff.mp hi).1
    rw [OrderedMap.length_values] at hlt
    obtain ⟨path, hpath, huniq⟩ := hjoins.once i hlt
    refine ⟨path, ⟨aliasAt i, hpath, hlabel⟩, ?_⟩
    rintro path' ⟨label, hpath', hlabel'⟩
    rw [← Option.some.inj (hlabel.symm.trans hlabel')] at hpath'
    exact huniq path' hpath'
  · -- the table of a path
    intro path label hget
    obtain ⟨i, entry, -, rfl, hentry, -, -⟩ := hjoins.exists_of_get? hget
    refine ⟨entry, ⟨List.mem_of_getElem? hentry, hjoins.label_of_values hentry⟩, ?_⟩
    rintro entry' ⟨hmem, hlabel⟩
    exact Option.some.inj ((hjoins.eq_of_label hmem hlabel).symm.trans hentry)
  · -- the table is that of the group which the field at the path refers to
    intro path label entry hget hmem hlabel
    obtain ⟨i, entry', field, rfl, hentry', hfield, htable⟩ := hjoins.exists_of_get? hget
    obtain rfl := Option.some.inj ((hjoins.eq_of_label hmem hlabel).symm.trans hentry')
    obtain ⟨group, hgroup, hname⟩ := Option.bind_eq_some_iff.mp htable
    exact ⟨field, group, hfield, hgroup, hname⟩
  · -- without an alias there is no group, or it has no table
    intro path label hget
    obtain ⟨field, hfield, hmatches⟩ := hjoins.path path label hget
    refine ⟨field, hfield, hmatches.eq_none_iff.trans ?_⟩
    cases groups.target? field with
    | none => simp
    | some group => simp

/-- A group that refers to itself is a table of its own for each path, here for two of them, and a
group without a table in between has no alias. -/
theorem aliases_correspond_boss :
    ∃ groups q, Grows groups q ∧
      q.joins.aliases.entries = [("p", some "t1"), ("p.boss", some "t2"), ("p.boss.misc", none)] ∧
      (∃! path, ∃ label, q.joins.aliases.get? path = some (some label) ∧ some "t2" = some label) ∧
      ∃ field, (q.scope groups).fieldAt? "p.boss.misc" = some field ∧
        (groups.target? field = none ∨
          ∃ group, groups.target? field = some group ∧ group.tableSql = none) := by
  let boss : Field := ⟨"boss", .str, some "\x7ba\x7d.boss", some "\x7bm\x7d.boss = \x7bd\x7d.id",
    some ⟨"person", 0⟩⟩
  let misc : Field := ⟨"misc", .null, none, none, some ⟨"misc", 1⟩⟩
  let size : Field := ⟨"size", .int, some "42", none, none⟩
  let groups : Groups := ⟨2, .ofList [
    ("person", 0, ⟨some "person", .ofList [("boss", boss), ("misc", misc)]⟩),
    ("misc", 1, ⟨none, .ofList [("size", size)]⟩)]⟩
  let vars : Vars := .ofList [("p", boss)]
  have hdotless : ∀ name field, vars.get? name = some field → '.' ∉ name.toList := by
    intro name field hget
    obtain rfl : name = "p" := List.mem_singleton.mp (OrderedMap.mem_keys_of_get? hget)
    decide
  let q : Query := Op.run groups (.ofVars vars) (.select "p.boss.misc.size" none none)
  have hgrows : Grows groups q := .step _ trivial (.start vars hdotless)
  have haliases : q.joins.aliases.entries =
      [("p", some "t1"), ("p.boss", some "t2"), ("p.boss.misc", none)] := by decide +kernel
  have hentry : q.joins.tables.values[1]? = some ⟨"person", some "p.boss", some "t2"⟩ := by
    decide +kernel
  have hmisc : q.joins.aliases.get? "p.boss.misc" = some none := by decide +kernel
  obtain ⟨-, hpath, -, -, hnone, -⟩ := aliases_correspond hgrows
  obtain ⟨field, hfield, hiff⟩ := hnone "p.boss.misc" none hmisc
  exact ⟨groups, q, hgrows, haliases, hpath _ (List.mem_of_getElem? hentry), field, hfield,
    hiff.mp rfl⟩

end Grows

end Query

end QueryExpr
