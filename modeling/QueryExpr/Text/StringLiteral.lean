import QueryExpr.Color

/-!
# String literals

How a text is written as a literal of the language: between single quotes, or between double quotes if
that saves escaping the single quotes in it. Backslashes, quotes and control characters are escaped.
-/

namespace QueryExpr.Text

/-- The quote to write a text with. -/
def quoteFor (cs : List Char) : Char :=
  if cs.contains '\'' && !cs.contains '"' then '"' else '\''

/-- One character of a literal with the given quote. -/
def escapeChar (quote c : Char) : List Char :=
  if c = '\\' then ['\\', '\\']
  else if c = '\n' then ['\\', 'n']
  else if c = '\r' then ['\\', 'r']
  else if c = '\t' then ['\\', 't']
  else if c = quote then ['\\', c]
  else if c.toNat < 0x20 ∨ c.toNat = 0x7f then '\\' :: 'x' :: Color.hexByte (.ofNat c.toNat)
  else [c]

/-- The literal that denotes a text. -/
def stringLiteral (text : String) : String :=
  let cs := text.toList
  let quote := quoteFor cs
  String.ofList (quote :: cs.flatMap (escapeChar quote) ++ [quote])

end QueryExpr.Text
