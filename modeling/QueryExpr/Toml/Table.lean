import QueryExpr.Toml.Value

/-!
# Adding to tables

Each key of a table is defined once. A table can be opened by a header only if so far it was no more
than implied by headers, and a dotted key adds only to tables that dotted keys made.
-/

namespace QueryExpr.Toml

/-- A table under construction. -/
structure Table where
  kind : TableKind
  entries : Entries := []

namespace Table

/-- The table as a value. -/
def toValue (t : Table) : Value := .table t.kind t.entries

/-- Add a key that is new. -/
def add? (t : Table) (key : String) (v : Value) : Option Table :=
  if (t.entries.get? key).isSome then none else some { t with entries := t.entries ++ [(key, v)] }

/-- A table may be entered on a path: never one in braces, and by a dotted key only one that is
implied. -/
def canEnter (byDots : Bool) : TableKind → Bool
  | .inline => false
  | .explicit => !byDots
  | .implied | .dotted => true

/-- Change the table at the end of a path. Missing tables are made on the way, and of an array of
tables the last one is entered. -/
def modifyAt? (byDots : Bool) (change : Table → Option Table) : List String → Table → Option Table
  | [], t => change t
  | key :: path, t =>
    match t.entries.get? key with
    | none => do
      let inner ← modifyAt? byDots change path { kind := if byDots then .dotted else .implied }
      t.add? key inner.toValue
    | some (.table kind entries) =>
      if canEnter byDots kind then do
        let inner ← modifyAt? byDots change path { kind, entries }
        some { t with entries := t.entries.set key inner.toValue }
      else none
    | some (.tables items) =>
      match items.getLast? with
      | some (.table kind entries) => do
        let inner ← modifyAt? byDots change path { kind, entries }
        some { t with entries := t.entries.set key (.tables (items.dropLast ++ [inner.toValue])) }
      | _ => none
    | some _ => none

/-- Set the value at a dotted key. -/
def setPath? (path : List String) (key : String) (v : Value) (t : Table) : Option Table :=
  modifyAt? true (fun t => if (t.kind = .dotted) = (path ≠ []) then t.add? key v else none) path t

/-- Open the table with this key by a header. -/
def openTable? (key : String) (t : Table) : Option Table :=
  match t.entries.get? key with
  | none => t.add? key (.table .explicit [])
  | some (.table .implied entries) =>
    some { t with entries := t.entries.set key (.table .explicit entries) }
  | some _ => none

/-- Open the next table of the array with this key by a header. -/
def openElement? (key : String) (t : Table) : Option Table :=
  match t.entries.get? key with
  | none => t.add? key (.tables [.table .explicit []])
  | some (.tables items) =>
    some { t with entries := t.entries.set key (.tables (items ++ [.table .explicit []])) }
  | some _ => none

end Table
end QueryExpr.Toml
