import QueryExpr.Toml.Value

/-!
# Records in configuration files

A record with named fields is written as a table, or as an array that gives its fields in order.
-/

namespace QueryExpr.Toml.Value

/-- The text of a string. -/
def string? : Value → Option String
  | .scalar (.string s) => some s
  | _ => none

/-- The fields of a record. A strict record has no other fields than these; otherwise they are
ignored, and even a date will do for a record that leaves out all its fields. -/
def record? (strict : Bool) (names : List String) : Value → Option (List (Option Value))
  | .table _ entries =>
    if strict && entries.any fun e => !names.contains e.1 then none
    else some (names.map (Entries.get? entries))
  | .array items | .tables items => some (names.mapIdx fun i _ => items[i]?)
  | .scalar (.dateTime _) => if strict then none else some (names.map fun _ => none)
  | .scalar _ => none

/-- A table with values of one kind, in the order of its keys. -/
def map? {α : Type} (read : Value → Option α) : Value → Option (OrderedMap String α)
  | .table _ entries =>
    ((Entries.sorted entries).mapM fun e => (read e.2).map fun a => (e.1, a)).map OrderedMap.ofList
  | _ => none

/-- A field that may be missing. -/
def optional? {α : Type} (read : Value → Option α) : Option Value → Option (Option α)
  | none => some none
  | some v => (read v).map some

end QueryExpr.Toml.Value
