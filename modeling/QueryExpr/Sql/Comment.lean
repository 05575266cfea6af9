import QueryExpr.Text.Search

/-!
# Comments in SQL

A comment may hold any text: a mark inside the text that would open or close a comment is broken up by
a space.
-/

namespace QueryExpr.Sql

/-- The text as a comment. -/
def comment (text : String) : String :=
  "/* " ++ Text.replaceAll "*/" "* /" (Text.replaceAll "/*" "/ *" text) ++ " */"

/-- SQL with a comment after it. SQL that already ends with the very comment stays as it is. -/
def withComment (sql : String) : Option String → String
  | none => sql
  | some text =>
    if (comment text).toList.isSuffixOf sql.toList then sql else sql ++ " " ++ comment text

end QueryExpr.Sql
