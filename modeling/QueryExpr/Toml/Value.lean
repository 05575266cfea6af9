import QueryExpr.Number.Binary64
import QueryExpr.OrderedMap

/-!
# Values of configuration files

Tables keep how they came about, since that decides whether later lines of a file may add to them.
-/

namespace QueryExpr.Toml

/-- A value without parts. -/
inductive Scalar where
  | string (value : String)
  | integer (value : Int)
  | float (value : Binary64)
  | boolean (value : Bool)
  /-- A date, a time or both, as written. -/
  | dateTime (text : String)
  deriving DecidableEq, Repr, Inhabited

/-- How a table came about. -/
inductive TableKind where
  /-- Written in braces; nothing can be added later. -/
  | inline
  /-- Opened by a header of its own. -/
  | explicit
  /-- Implied by the header of a table inside it. -/
  | implied
  /-- Implied by a dotted key. -/
  | dotted
  deriving DecidableEq, Repr, Inhabited

/-- A value. -/
inductive Value where
  | scalar (scalar : Scalar)
  | array (items : List Value)
  /-- An array of tables, each opened by a header. -/
  | tables (items : List Value)
  | table (kind : TableKind) (entries : List (String × Value))
  deriving Repr, Inhabited

/-- The entries of a table, in the order of the file. -/
abbrev Entries := List (String × Value)

namespace Entries

/-- The value at a key. -/
def get? (es : Entries) (key : String) : Option Value :=
  (es.find? fun e => e.1 = key).map Prod.snd

/-- Change the value at a key. -/
def set (es : Entries) (key : String) (v : Value) : Entries :=
  es.map fun e => if e.1 = key then (key, v) else e

/-- The entries in the order of their keys. -/
def sorted (es : Entries) : Entries := es.mergeSort fun a b => a.1 ≤ b.1

end Entries
end QueryExpr.Toml
