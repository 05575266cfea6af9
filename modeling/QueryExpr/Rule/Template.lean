import QueryExpr.Rule.Spec
import QueryExpr.Text.Numeral

/-!
# SQL templates

A template is SQL with placeholders: `s` and a digit in braces stand for the SQL of an operand, `t`
and a digit for the name of its type. The type names are filled in when a rule is made, since its
operand types are known then; what remains are literal text and operands.
-/

namespace QueryExpr

/-- The name of a type inside the names of SQL functions. Types that are stored alike share a name. -/
def DataType.sqlName : DataType → String
  | .bool => "int"
  | .date => "datetime"
  | .dateList => "datetimelist"
  | .intSet => "intlist"
  | .numberSet => "numberlist"
  | .strSet => "strlist"
  | .dateSet | .dateTimeSet => "datetimelist"
  | .null => "null"
  | .int => "int"
  | .number => "number"
  | .str => "str"
  | .clob => "clob"
  | .color => "color"
  | .geo => "geo"
  | .dateTime => "datetime"
  | .dateDelta => "datedelta"
  | .dateTimeDelta => "datetimedelta"
  | .monthDelta => "monthdelta"
  | .nullList => "nulllist"
  | .intList => "intlist"
  | .numberList => "numberlist"
  | .strList => "strlist"
  | .clobList => "cloblist"
  | .dateTimeList => "datetimelist"
  | .nullSet => "nullset"

namespace Template

/-- A character of the template, or a placeholder. -/
inductive Piece where
  | char (c : Char)
  /-- `isType` tells a type name from an operand. -/
  | placeholder (isType : Bool) (index : Nat)
  deriving DecidableEq, Repr, Inhabited

/-- The index that a digit gives; digits of other scripts give none and count as zero. -/
def digitIndex (c : Char) : Nat := if isAsciiDigit c then c.toNat - '0'.toNat else 0

/-- The placeholder at the front of a text. -/
def placeholder? : List Char → Option Piece
  | '\x7b' :: kind :: digit :: '\x7d' :: _ =>
    if (kind = 's' ∨ kind = 't') ∧ Text.isDecimalDigit digit then
      some (.placeholder (kind = 't') (digitIndex digit))
    else none
  | _ => none

/-- The pieces of a template, after passing over `skip` characters of a placeholder. -/
def piecesFrom : Nat → List Char → List Piece
  | _, [] => []
  | skip + 1, _ :: cs => piecesFrom skip cs
  | 0, c :: cs =>
    match placeholder? (c :: cs) with
    | some p => p :: piecesFrom 3 cs
    | none => .char c :: piecesFrom 0 cs

/-- Text in front of a template, joined with the text that the template begins with. -/
def consText (text : String) : List Part → List Part
  | .literal rest :: parts => .literal (text ++ rest) :: parts
  | parts => if text = "" then parts else .literal text :: parts

/-- The template for operands of the given types. -/
def assemble (signature : List DataType) : List Piece → Except SpecError (List Part)
  | [] => .ok []
  | .char c :: ps => (assemble signature ps).map (consText c.toString)
  | .placeholder isType index :: ps =>
    if index = 0 then .error (.placeholder (if isType then 't' else 's') index signature.length)
    else
      match signature[index - 1]? with
      | none => .error (.placeholder (if isType then 't' else 's') index signature.length)
      | some t =>
        if isType then (assemble signature ps).map (consText t.sqlName)
        else (assemble signature ps).map (.child index :: ·)

/-- Reads a template for operands of the given types. -/
def parse (template : String) (signature : List DataType) : Except SpecError (List Part) :=
  assemble signature (piecesFrom 0 template.toList)

end Template
end QueryExpr
