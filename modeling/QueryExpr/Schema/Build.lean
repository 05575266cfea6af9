import QueryExpr.Schema.Group

/-!
# Schemas

A schema is written down as definitions of groups and variables. Building it makes every group before
any field, so that fields can refer to any group of the schema. The first definition that is not
consistent decides the error: groups come before variables, and of one field the type is checked
first, then the group referred to, then the join condition.
-/

namespace QueryExpr

/-- A field as written down. -/
structure FieldDef where
  type : String
  sql : Option String := none
  join : Option String := none
  /-- The name of the group that the field refers to. -/
  ref : Option String := none
  deriving DecidableEq, Repr, Inhabited

/-- A group as written down. -/
structure GroupDef where
  tableSql : Option String := none
  fields : OrderedMap String FieldDef := {}
  deriving DecidableEq, Repr, Inhabited

/-- A schema as written down. -/
structure SchemaDef where
  groups : OrderedMap String GroupDef := {}
  vars : OrderedMap String FieldDef := {}
  deriving DecidableEq, Repr, Inhabited

/-- Groups, and the variables to start from. -/
structure Schema where
  groups : Groups := {}
  vars : Vars := {}
  deriving DecidableEq, Repr, Inhabited

/-- What makes a definition inconsistent. -/
inductive SchemaError where
  /-- There is no type of this name. -/
  | unknownType (field type : String)
  /-- There is no group of this name. -/
  | unknownGroup (field group : String)
  /-- A join condition needs a group to join. -/
  | joinWithoutRef (field : String)
  deriving DecidableEq, Repr, Inhabited

/-- What is wrong, in words. -/
def SchemaError.message : SchemaError → String
  | .unknownType field type => "Field '" ++ field ++ "' has unknown type '" ++ type ++ "'"
  | .unknownGroup field group =>
    "Field '" ++ field ++ "' references unknown group '" ++ group ++ "'"
  | .joinWithoutRef field =>
    "Field '" ++ field ++ "' has a join condition but doesn't reference a group"

/-- The field that a definition describes; errors show it by its qualified name. -/
def FieldDef.build (d : FieldDef) (groups : Groups) (identifier qualified : String) :
    Except SchemaError Field :=
  match DataType.ofName? d.type with
  | none => .error (.unknownType qualified d.type)
  | some dataType =>
    match d.ref with
    | some name =>
      match groups.ref? name with
      | none => .error (.unknownGroup qualified name)
      | some ref => .ok { identifier, dataType, sql := d.sql, join := d.join, ref := some ref }
    | none =>
      if d.join.isSome then .error (.joinWithoutRef qualified)
      else .ok { identifier, dataType, sql := d.sql }

namespace SchemaDef

/-- The groups, without their fields. -/
def emptyGroups (d : SchemaDef) : Groups :=
  d.groups.entries.foldl (fun gs e => gs.define e.1 e.2.tableSql) {}

/-- Add the fields of one group. -/
def addFields (group : String) : Groups → List (String × FieldDef) → Except SchemaError Groups
  | gs, [] => .ok gs
  | gs, (identifier, d) :: rest =>
    match d.build gs identifier (group ++ "." ++ identifier) with
    | .error e => .error e
    | .ok field => addFields group (gs.addField group field) rest

/-- Add the fields of all groups. -/
def addAllFields : Groups → List (String × GroupDef) → Except SchemaError Groups
  | gs, [] => .ok gs
  | gs, (name, d) :: rest =>
    match addFields name gs d.fields.entries with
    | .error e => .error e
    | .ok gs => addAllFields gs rest

/-- Add the variables. -/
def addVars (gs : Groups) : Vars → List (String × FieldDef) → Except SchemaError Vars
  | vars, [] => .ok vars
  | vars, (identifier, d) :: rest =>
    match d.build gs identifier identifier with
    | .error e => .error e
    | .ok field => addVars gs (vars.insert identifier field) rest

/-- The schema that the definitions describe. -/
def build (d : SchemaDef) : Except SchemaError Schema := do
  let groups ← addAllFields d.emptyGroups d.groups.entries
  let vars ← addVars groups {} d.vars.entries
  return { groups, vars }

end SchemaDef
end QueryExpr
