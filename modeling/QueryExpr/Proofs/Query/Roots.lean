import QueryExpr.Proofs.Expr.Phrases
import QueryExpr.Proofs.Query.Repetition
import QueryExpr.Proofs.Term.Source

/-!
# A variable and the fields behind it

The table of a variable comes into a query in two ways: it is asked for by the name of the variable,
or an expression refers to a field behind the variable. The first is a step of the query, the second
goes from the reference back to where it starts. Both of them come down to the same thing
(`Joins.enterRoot`): the path that consists of the variable alone is entered, unless this is done
already.
-/

namespace QueryExpr

open Text

/-- Register the path of a variable, unless it is registered. -/
def Joins.enterRoot (groups : Groups) (name : String) (field : Field) (j : Joins) :
    Joins × Option String :=
  match j.aliases.get? name with
  | some label => (j, label)
  | none => j.enter groups name field name none

/-- Afterwards the variable has the alias that was handed back. -/
theorem Joins.get?_aliases_enterRoot (groups : Groups) (name : String) (field : Field) (j : Joins) :
    (j.enterRoot groups name field).1.aliases.get? name =
      some (j.enterRoot groups name field).2 := by
  unfold enterRoot
  split
  · assumption
  · rw [get?_aliases_enter, if_pos rfl]

/-- A second time there is nothing to do. -/
theorem Joins.enterRoot_enterRoot (groups : Groups) (name : String) (field : Field) (j : Joins) :
    (j.enterRoot groups name field).1.enterRoot groups name field = j.enterRoot groups name field := by
  rw [enterRoot, get?_aliases_enterRoot]

/-! ### By its name -/

/-- Asking for a variable enters its path. -/
theorem Query.register_eq_enterRoot {q : Query} {name : String} {field : Field} (groups : Groups)
    (h : q.vars.get? name = some field) :
    q.register groups name = ({ q with joins := (q.joins.enterRoot groups name field).1 },
      .ok (q.joins.enterRoot groups name field).2) := by
  rw [register, h, Joins.enterRoot]
  dsimp only
  cases q.joins.aliases.get? name <;> rfl

/-! ### By a reference -/

section Reference

variable {schema : Schema} {name identifier : String} {field member : Field}

/-- A name and a member of it are read as an attribute of the name. -/
theorem exists_parse_member (hname : Token.isName name = true)
    (hidentifier : Token.isName identifier = true) :
    ∃ place, Expr.parse (name ++ "." ++ identifier) =
      .ok (.attr place (.name (.bare 0 (byteLength name.toList)) name) identifier) := by
  let p : Phrase := .atom (.ident name) name.toList fun place => .name place name
  have hreads : (p.attr identifier).Reads Phrase.primary :=
    Phrase.reads_attr (Phrase.reads_name hname) hidentifier
  have htext : String.ofList (p.attr identifier).text = name ++ "." ++ identifier :=
    String.toList_injective (by simp [p])
  have hroot : p.expr 0 = .name (.bare 0 (byteLength name.toList)) name := by
    simp [p, Phrase.atom]
  refine ⟨.bare (p.expr 0).outer.start (0 + p.size + 1 + byteLength identifier.toList), ?_⟩
  rw [← htext, hreads.parse, ← hroot]
  rfl

/-- **A reference to a field behind a variable** compiles to a node over the variable, the source of
which is its name. -/
theorem exists_compile_member (hname : Token.isName name = true)
    (hidentifier : Token.isName identifier = true) (hvar : schema.vars.get? name = some field)
    (hmember : schema.groups.member? field identifier = some member) :
    ∃ root content, compile schema (name ++ "." ++ identifier) =
        .ok (.make (.field identifier (some member)) content [root]) ∧
      root.fullIdentifier? = some name ∧ root.field? = some field ∧ root.source = name ∧
      root.slots = [] := by
  obtain ⟨place, hparse⟩ := exists_parse_member hname hidentifier
  let text := (name ++ "." ++ identifier).toList
  let root := Expr.build text ⟨0, byteLength name.toList⟩ (.field name (some field)) [] []
  -- the text up to the point is the name, so this is the source of the root
  have hspan : Expr.textBetween text 0 (byteLength name.toList) = name := by
    have htext : text = [] ++ (name.toList ++ '.' :: identifier.toList) := by simp [text]
    have hslice := slice?_append [] name.toList ('.' :: identifier.toList)
    rw [byteLength_nil, Nat.zero_add, ← htext] at hslice
    rw [Expr.textBetween, hslice, Option.getD_some, String.ofList_toList]
  have hsource : root.source = name := by
    rw [Term.source, show root = .make _ [.text _] [] from rfl, hspan, Term.sourceChars_make]
    simp [Fragment.chars]
  have hfound : Term.member? schema.groups (Expr.build text (Place.bare 0 (byteLength name.toList)).span
      (.field name (some field)) [] []) identifier = some member := hmember
  refine ⟨root, Expr.cutOut text place.span.stop place.span.start 0
    [.name (.bare 0 (byteLength name.toList)) name], ?_, rfl, rfl, hsource, rfl⟩
  rw [compile, hparse]
  dsimp only
  rw [Expr.resolve, Expr.resolve, hvar]
  simp only [bind, Except.bind]
  rw [hfound]
  rfl

/-- Registering a reference to a field behind a variable enters the path of the variable. -/
theorem Term.register_eq_enterRoot {root : Term} (hpath : root.fullIdentifier? = some name)
    (hfield : root.field? = some field) (hsource : root.source = name) (hslots : root.slots = [])
    (content : List Fragment) (groups : Groups) (j : Joins) :
    (Term.make (.field identifier (some member)) content [root]).register groups j =
      j.enterRoot groups name field := by
  -- the variable itself is reached from nothing
  have hroot : root.register groups j = (j, none) := by
    obtain ⟨head, verdict, content, slots⟩ := root
    obtain rfl : slots = [] := hslots
    cases head <;> rfl
  rw [Joins.register_member_eq hpath identifier member content hfield j, hroot, hsource]
  rfl

end Reference

/-! ### Both ways -/

/-- **A variable is registered by its name or by a reference to a field behind it.** The reference
compiles, and refers to the field. Either way the same alias is handed back, and the query is the same
afterwards: its tables with their comments, its conditions and its aliases. What comes second, the name
or the reference, hands back the alias once more and leaves the query as it is. -/
theorem Query.register_eq_register_member {q : Query} {groups : Groups} {name identifier : String}
    {field member : Field} (hname : Token.isName name = true)
    (hidentifier : Token.isName identifier = true) (hvar : q.vars.get? name = some field)
    (hmember : groups.member? field identifier = some member) :
    ∃ t q' label, compile (q.scope groups) (name ++ "." ++ identifier) = .ok t ∧
      t.verdict = .valid member.dataType ∧ t.field? = some member ∧
      q.register groups name = (q', .ok label) ∧
      (Op.registerTerm t).run groups q = q' ∧ (t.register groups q.joins).2 = label ∧
      q'.register groups name = (q', .ok label) ∧
      (Op.registerTerm t).run groups q' = q' ∧ (t.register groups q'.joins).2 = label := by
  obtain ⟨root, content, hcompile, hpath, hfield, hsource, hslots⟩ :=
    exists_compile_member hname hidentifier (show (q.scope groups).vars.get? name = some field from hvar)
      hmember
  have hregister := Query.register_eq_enterRoot groups hvar
  -- to register the member is to register the root that it is reached from
  have hreference : ∀ j, (Term.make (.field identifier (some member)) content [root]).register groups j =
      j.enterRoot groups name field :=
    Term.register_eq_enterRoot hpath hfield hsource hslots content groups
  refine ⟨_, _, _, hcompile, rfl, rfl, hregister, ?_, ?_, repeats_register hregister, ?_, ?_⟩
  · rw [Op.run, hreference]
  · rw [hreference]
  · rw [Op.run, hreference, Joins.enterRoot_enterRoot]
  · rw [hreference, Joins.enterRoot_enterRoot]

/-- A person who is asked for by a name that is not that of the field, with a condition on the table, in
a query that has a table and a condition already. -/
theorem Query.register_eq_register_member_person :
    ∃ groups q t q', Token.isName "p" = true ∧ Token.isName "name" = true ∧
      (∃ field member, q.vars.get? "p" = some field ∧ groups.member? field "name" = some member) ∧
      compile (q.scope groups) "p.name" = .ok t ∧ q.register groups "p" = (q', .ok (some "t2")) ∧
      (Op.registerTerm t).run groups q = q' ∧ (t.register groups q.joins).2 = some "t2" ∧
      q'.joins.tables.keys = ["log", "person t2"] ∧
      q'.joins.conditions.keys = ["1 = 1", "t2.id = 7"] := by
  let key : Field := ⟨"key", .int, none, some "\x7bd\x7d.id = 7", some ⟨"person", 0⟩⟩
  let name : Field := ⟨"name", .str, some "\x7ba\x7d.name", none, none⟩
  let groups : Groups := ⟨1, .ofList [("person", 0, ⟨some "person", .ofList [("name", name)]⟩)]⟩
  let q : Query :=
    (Query.fromSql (.ofVars (.ofList [("p", key)])) "log" none none).1.requireSql "1 = 1" none
  obtain ⟨t, q', label, hcompile, -, -, hregister, hrun, hlabel, -⟩ :=
    register_eq_register_member (show Token.isName "p" = true by decide)
      (show Token.isName "name" = true by decide) (show q.vars.get? "p" = some key from rfl)
      (show groups.member? key "name" = some name from rfl)
  have halias : (q.register groups "p").2 = .ok (some "t2") := by decide +kernel
  have htables : (q.register groups "p").1.joins.tables.keys = ["log", "person t2"] := by
    decide +kernel
  have hconditions : (q.register groups "p").1.joins.conditions.keys = ["1 = 1", "t2.id = 7"] := by
    decide +kernel
  rw [hregister] at halias htables hconditions
  cases halias
  exact ⟨groups, q, t, q', by decide, by decide, ⟨key, name, rfl, rfl⟩, hcompile, hregister, hrun,
    hlabel, htables, hconditions⟩

end QueryExpr
