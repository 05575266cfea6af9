import QueryExpr.Schema.Build
import QueryExpr.Toml.Document
import QueryExpr.Toml.Record

/-!
# Schemas in configuration files
-/

namespace QueryExpr

open Toml

/-- A field of a schema file. -/
def FieldDef.ofToml? (v : Value) : Option FieldDef := do
  match ← v.record? true ["type", "sql", "join", "ref"] with
  | [some type, sql, join, ref] =>
    return { type := ← type.string?, sql := ← Value.optional? Value.string? sql
             join := ← Value.optional? Value.string? join
             ref := ← Value.optional? Value.string? ref }
  | _ => none

/-- A group of a schema file. -/
def GroupDef.ofToml? (v : Value) : Option GroupDef := do
  match ← v.record? true ["tablesql", "fields"] with
  | [tableSql, fields] =>
    let fields ← Value.optional? (Value.map? FieldDef.ofToml?) fields
    return { tableSql := ← Value.optional? Value.string? tableSql, fields := fields.getD {} }
  | _ => none

/-- A schema file. -/
def SchemaDef.ofToml? (entries : Entries) : Option SchemaDef := do
  match ← (Value.table .explicit entries).record? true ["groups", "vars"] with
  | [groups, vars] =>
    let groups ← Value.optional? (Value.map? GroupDef.ofToml?) groups
    let vars ← Value.optional? (Value.map? FieldDef.ofToml?) vars
    return { groups := groups.getD {}, vars := vars.getD {} }
  | _ => none

/-- Why a text gives no schema. -/
inductive SchemaFileError where
  /-- The text is no schema file. -/
  | malformed
  /-- The definitions are inconsistent. -/
  | inconsistent (error : SchemaError)
  deriving DecidableEq, Repr, Inhabited

/-- Reads a schema file. -/
def Schema.parse (text : String) : Except SchemaFileError Schema :=
  match (Toml.parse? text).bind SchemaDef.ofToml? with
  | none => .error .malformed
  | some d => d.build.mapError .inconsistent

end QueryExpr
