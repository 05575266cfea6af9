import QueryExpr.Sql.Comment
import QueryExpr.Term.Walk

/-!
# Tables and how they are joined

A reference to a field goes along a path of references, and each group on the way is a table that the
query has to read. A path is registered once: its table gets an alias of its own, and the condition
that joins it is added. Later references along the path share the alias.
-/

namespace QueryExpr

/-- A table that the query reads. -/
structure Table where
  name : String
  comment : Option String
  /-- The alias under which expressions refer to the table. -/
  label : Option String
  deriving DecidableEq, Repr, Inhabited

/-- The table as it stands in the query. -/
def Table.render (t : Table) : String :=
  let named :=
    match t.label with
    | some label => t.name ++ " " ++ label
    | none => t.name
  Sql.withComment named t.comment

/-- The tables of a query and its conditions. -/
structure Joins where
  /-- The tables, by name and alias. -/
  tables : OrderedMap String Table := {}
  /-- The conditions with their comments, by their SQL without comment. -/
  conditions : OrderedMap String String := {}
  /-- The alias of each registered path; a path to a group without a table has none. -/
  aliases : OrderedMap String (Option String) := {}
  deriving DecidableEq, Repr, Inhabited

namespace Joins

/-- Add a condition, unless it is there already. -/
def addCondition (j : Joins) (condition : String) (comment : Option String) : Joins :=
  { j with conditions := j.conditions.insertNew condition (Sql.withComment condition comment) }

/-- The alias of the next table. -/
def nextAlias (j : Joins) : String := "t" ++ toString (j.tables.size + 1)

/-- A join condition with the aliases of the tables on both sides put in. -/
def instantiate (template : String) (master : Option String) (detail : String) : String :=
  let joined :=
    match master with
    | some master => Text.replaceAll "{m}" master template
    | none => template
  Text.replaceAll "{d}" detail joined

/-- Register the path to a field that has been reached over the table `master`. -/
def enter (groups : Groups) (path : String) (field : Field) (comment : String)
    (master : Option String) (j : Joins) : Joins × Option String :=
  let label := j.nextAlias
  let j :=
    match field.join with
    | some template => j.addCondition (instantiate template master label) (some comment)
    | none => j
  match (groups.target? field).bind Group.tableSql with
  | none => ({ j with aliases := j.aliases.insert path none }, none)
  | some table =>
    ({ j with
        aliases := j.aliases.insert path (some label)
        tables := j.tables.insert (table ++ " " ++ label) ⟨table, some comment, some label⟩ },
      some label)

end Joins

/-- Register the tables on the way to the field that a term refers to, and find the alias of the table
that holds it. Variables, invalid references and fields of groups without a table have none. -/
def Term.register (groups : Groups) : Term → Joins → Joins × Option String
  | .node (.field _ _) verdict _ (parent :: _), j =>
    if verdict.fault.isSome then (j, none)
    else
      match parent.fullIdentifier? with
      | none => (j, none)
      | some path =>
        match j.aliases.get? path with
        | some label => (j, label)
        | none =>
          let (j, master) := parent.register groups j
          match parent.field? with
          | none => (j, none)
          | some field => j.enter groups path field parent.source master
  | _, j => (j, none)

end QueryExpr
