import QueryExpr.Calendar.Reading
import QueryExpr.Color
import QueryExpr.Fault

/-!
# Literals

The values that literals denote. A literal can be well formed as a token and still denote nothing: an
integer too large for 64 bits, a digit that its radix lacks, a day that the calendar lacks. Such a
literal is kept as malformed.
-/

namespace QueryExpr

/-- What a literal denotes. -/
inductive Literal where
  | none
  | bool (value : Bool)
  | int (value : Int64)
  | float (value : Binary64)
  | str (value : String)
  | date (value : Calendar.Date)
  | dateTime (value : Calendar.DateTime)
  | color (value : Color)
  /-- Written like a literal of the kind, but without a value. -/
  | malformed (kind : LiteralKind)
  deriving DecidableEq, Repr, Inhabited

namespace Literal

/-- The number that the digits denote in the radix, if the radix has them all. -/
def radixValue? (radix : Nat) (digits : List Char) : Option Nat :=
  digits.foldl
    (fun acc c => acc.bind fun n =>
      (Text.hexDigit? c).bind fun d => if d < radix then some (radix * n + d) else .none)
    (some 0)

/-- The radix and the digits of an integer. -/
def radixParts : List Char → Nat × List Char
  | '0' :: mark :: digits =>
    if mark = 'x' ∨ mark = 'X' then (16, digits)
    else if mark = 'o' ∨ mark = 'O' then (8, digits)
    else if mark = 'b' ∨ mark = 'B' then (2, digits)
    else (10, '0' :: mark :: digits)
  | digits => (10, digits)

/-- The value of an integer as written: it has to be below `2 ^ 63`. -/
def ofInt (text : String) : Literal :=
  let (radix, digits) := radixParts text.toList
  match radixValue? radix digits with
  | some n => if n < 0x8000000000000000 then .int (.ofNat n) else .malformed .int
  | .none => .malformed .int

/-- The value of a number as written. -/
def ofFloat (text : String) : Literal :=
  match Binary64.read? text with
  | some x => .float x
  | .none => .malformed .number

/-- The value of a date as written: a moment if there is a `T` in it, and a day otherwise. -/
def ofDate (text : String) : Literal :=
  if text.toList.contains 'T' then
    match Calendar.readDateTime? text.toList with
    | some m => .dateTime m
    | .none => .malformed .dateTime
  else
    match Calendar.readDate? text.toList with
    | some d => .date d
    | .none => .malformed .date

/-- The value of a color as written. -/
def ofColor (text : String) : Literal :=
  match Color.ofDigits? (text.toList.dropWhile (· = '#')) with
  | some c => .color c
  | .none => .malformed .color

end Literal
end QueryExpr
