import QueryExpr.Text.Printable

/-!
# Texts shown in double quotes

How a message shows a text so that every character can be told: quotes, backslashes and the common
controls are written with a backslash, and what has no visible form of its own is written by its code
point in hexadecimal.
-/

namespace QueryExpr.Text

/-- `\u` with the code point of `c` in braces, in lower-case hexadecimal without leading zeros. -/
def codePointEscape (c : Char) : List Char :=
  "\\u\x7b".toList ++ Nat.toDigits 16 c.toNat ++ "\x7d".toList

/-- One character inside double quotes. -/
def quoteChar (c : Char) : List Char :=
  if c = '\x00' then ['\\', '0']
  else if c = '\t' then ['\\', 't']
  else if c = '\r' then ['\\', 'r']
  else if c = '\n' then ['\\', 'n']
  else if c = '"' || c = '\\' then ['\\', c]
  else if isGraphemeExtend c || !isPrintable c then codePointEscape c
  else [c]

/-- The text between double quotes. -/
def quoted (text : String) : String :=
  String.ofList ('"' :: text.toList.flatMap quoteChar ++ ['"'])

end QueryExpr.Text
