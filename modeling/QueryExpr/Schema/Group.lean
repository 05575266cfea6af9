import QueryExpr.DataType
import QueryExpr.OrderedMap

/-!
# Fields and groups

A group describes one table as a set of fields. A field that is a foreign key refers to another group,
so that a path of fields leads from table to table. References may form cycles: they go by the name of
the group, and `Groups` holds the groups that can be reached.

A group that is defined anew under a known name is another group. Each definition therefore gets a
stamp of its own, and a reference leads to its group only as long as that very definition stands.
-/

namespace QueryExpr

/-- A reference to one definition of a group. -/
structure GroupRef where
  name : String
  /-- Tells the definitions of one name apart. -/
  stamp : Nat
  deriving DecidableEq, Repr, Inhabited

/-- One value that can be queried. -/
structure Field where
  identifier : String
  dataType : DataType
  /-- The SQL of the field, with `{a}` for the alias of its table. -/
  sql : Option String := none
  /-- The condition that joins the group referred to, with `{m}` and `{d}` for the aliases of the
  table of the field and of the group referred to. -/
  join : Option String := none
  /-- The group that the field refers to. -/
  ref : Option GroupRef := none
  deriving DecidableEq, Repr, Inhabited

/-- A set of fields, over a table or without one. -/
structure Group where
  /-- The table; a group without one cannot be joined. -/
  tableSql : Option String := none
  fields : OrderedMap String Field := {}
  deriving DecidableEq, Repr, Inhabited

namespace Group

/-- The name of the field that stands in for all that a group lacks. -/
def wildcard : String := "*"

/-- The field with this name, or the one that stands in for it. -/
def field? (g : Group) (identifier : String) : Option Field :=
  (g.fields.get? identifier).or (g.fields.get? wildcard)

/-- Add a field under its identifier. -/
def add (g : Group) (field : Field) : Group :=
  { g with fields := g.fields.insert field.identifier field }

end Group

/-- The groups that references can lead to. -/
structure Groups where
  /-- The stamp of the next definition. -/
  next : Nat := 0
  /-- The groups by name, each with the stamp of its definition. -/
  entries : OrderedMap String (Nat × Group) := {}
  deriving DecidableEq, Repr, Inhabited

namespace Groups

/-- A reference to the group with this name. -/
def ref? (gs : Groups) (name : String) : Option GroupRef :=
  (gs.entries.get? name).map fun e => ⟨name, e.1⟩

/-- The group with this name. -/
def get? (gs : Groups) (name : String) : Option Group := (gs.entries.get? name).map Prod.snd

/-- The group that a reference leads to. -/
def follow? (gs : Groups) (ref : GroupRef) : Option Group :=
  match gs.entries.get? ref.name with
  | some (stamp, g) => if stamp = ref.stamp then some g else none
  | none => none

/-- Define a group without fields. -/
def define (gs : Groups) (name : String) (tableSql : Option String) : Groups :=
  ⟨gs.next + 1, gs.entries.insert name (gs.next, { tableSql })⟩

/-- Add a field to a group. -/
def addField (gs : Groups) (name : String) (field : Field) : Groups :=
  match gs.entries.get? name with
  | some (stamp, g) => { gs with entries := gs.entries.insert name (stamp, g.add field) }
  | none => gs

/-- Remove a group. -/
def drop (gs : Groups) (name : String) : Groups := { gs with entries := gs.entries.erase name }

/-- Remove all groups. -/
def clear (gs : Groups) : Groups := { gs with entries := .empty }

/-- The group that a field refers to. -/
def target? (gs : Groups) (field : Field) : Option Group := field.ref.bind gs.follow?

/-- The field that an identifier names after a field: one of the group referred to. -/
def member? (gs : Groups) (field : Field) (identifier : String) : Option Field :=
  (gs.target? field).bind fun g => g.field? identifier

end Groups

/-- The variables that an expression can start from, by name. -/
abbrev Vars := OrderedMap String Field

end QueryExpr
