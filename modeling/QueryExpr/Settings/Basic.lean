import QueryExpr.Query.Render
import QueryExpr.Settings.Expand
import QueryExpr.Toml.Document
import QueryExpr.Toml.Record

/-!
# Settings

How queries are written out. Settings files may refer to environment variables anywhere, which are
expanded before the file is read.
-/

namespace QueryExpr

/-- How queries are written out. -/
structure Settings where
  /-- The indentation of the items of a clause; without one a query is one line. -/
  indent : String := Query.defaultIndent
  /-- A comment in front of every query that has none of its own. -/
  comment : Option String := none
  deriving DecidableEq, Repr, Inhabited

/-- Why a text gives no settings. -/
inductive SettingsError where
  /-- The text is no settings file. -/
  | malformed
  /-- The environment variable is not set. -/
  | missingVariable (name : String)
  deriving DecidableEq, Repr, Inhabited

namespace Settings

/-- The text of a query under the settings. -/
def render (s : Settings) (q : Query) : String :=
  match q.comment with
  | some _ => q.render s.indent
  | none => ({ q with comment := s.comment } : Query).render s.indent

open Toml in
/-- The settings for rendering. -/
def ofRender? (v : Value) : Option Settings := do
  match ← v.record? false ["indent", "comment"] with
  | [indent, comment] =>
    let indent ← Value.optional? Value.string? indent
    let comment ← Value.optional? Value.string? comment
    return { indent := indent.getD Query.defaultIndent, comment }
  | _ => none

open Toml in
/-- The settings of a file. -/
def ofToml? (entries : Entries) : Option Settings :=
  match entries.get? "render" with
  | none => some {}
  | some v => ofRender? v

/-- Reads a settings file. -/
def parse (env : Environment) (text : String) : Except SettingsError Settings :=
  match env.expand text with
  | .error name => .error (.missingVariable name)
  | .ok text =>
    match (Toml.parse? text).bind ofToml? with
    | none => .error .malformed
    | some s => .ok s

end Settings
end QueryExpr
