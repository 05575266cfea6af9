import QueryExpr.Calendar.Date
import QueryExpr.Number.Reading
import QueryExpr.Text.Search
import QueryExpr.Toml.Text
import QueryExpr.Toml.Value

/-!
# Numbers, truth values and dates

Digits may be grouped by single underscores. Integers have to fit into 128 bits, and a number written
in digits must not be too large for a double.
-/

namespace QueryExpr.Toml

/-- Digits with single underscores between them. -/
def isGrouped (isDigit : Char → Bool) (cs : List Char) : Bool :=
  (Text.splitAtChar '_' cs).all fun part => !part.isEmpty && part.all isDigit

/-- The characters without underscores. -/
def ungrouped (cs : List Char) : List Char := cs.filter (· ≠ '_')

/-- Decimal digits without a zero in front of others. -/
def isDecimal (cs : List Char) : Bool :=
  isGrouped isAsciiDigit cs &&
    (match cs with
      | '0' :: _ :: _ => false
      | _ => true)

/-! ### Integers -/

/-- The value of digits in a radix. -/
def radixInteger? (radix : Nat) (cs : List Char) : Option Int := do
  let isDigit (c : Char) : Bool := (Text.hexDigit? c).any (· < radix)
  if isGrouped isDigit cs then
    let digits ← (ungrouped cs).mapM Text.hexDigit?
    some (digits.foldl (fun n d => radix * n + d) 0 : Nat)
  else none

/-- The value of an integer of any size. -/
def unboundedInteger? : List Char → Option Int
  | '0' :: 'x' :: digits => radixInteger? 16 digits
  | '0' :: 'o' :: digits => radixInteger? 8 digits
  | '0' :: 'b' :: digits => radixInteger? 2 digits
  | cs =>
    let (negative, digits) := Binary64.readSign cs
    if isDecimal digits then
      let n := digitsValue (ungrouped digits)
      some (if negative then -(n : Int) else n)
    else none

/-- The value of an integer that fits into 128 bits: it is at least `-2 ^ 127` and below `2 ^ 128`. -/
def integer? (cs : List Char) : Option Int :=
  (unboundedInteger? cs).filter fun n =>
    -0x80000000000000000000000000000000 ≤ n && n < 0x100000000000000000000000000000000

/-! ### Floating-point numbers -/

/-- The exponent of a number: an optional sign, then digits. -/
def isExponent (cs : List Char) : Bool := isGrouped isAsciiDigit (Binary64.readSign cs).2

/-- What stands before and after the first exponent mark. -/
def cutExponent (cs : List Char) : List Char × Option (List Char) :=
  let isMark (c : Char) : Bool := c = 'e' || c = 'E'
  match cs.dropWhile fun c => !isMark c with
  | [] => (cs, none)
  | _ :: exponent => (cs.takeWhile fun c => !isMark c, some exponent)

/-- Digits with a fraction, an exponent or both. -/
def isFloat (cs : List Char) : Bool :=
  let (mantissa, exponent) := cutExponent (Binary64.readSign cs).2
  let exponentOk := exponent.all isExponent
  match Text.cutFirst ['.'] mantissa with
  | some (whole, fraction) => isDecimal whole && isGrouped isAsciiDigit fraction && exponentOk
  | none => isDecimal mantissa && exponent.isSome && exponentOk

/-- The value of a number with a fraction or an exponent, or of a word for a special value. -/
def float? (cs : List Char) : Option Binary64 :=
  let word := (Binary64.readSign cs).2
  if word = "inf".toList ∨ word = "nan".toList then Binary64.read? (String.ofList cs)
  else if isFloat cs then
    (Binary64.read? (String.ofList (ungrouped cs))).filter fun x =>
      match x.value with
      | .finite _ _ _ => true
      | _ => false
  else none

/-! ### Dates and times -/

/-- A number of exactly `count` digits. -/
def digits? (count : Nat) (cs : List Char) : Option (Nat × List Char) :=
  let digits := cs.take count
  if digits.length = count ∧ digits.all isAsciiDigit then some (digitsValue digits, cs.drop count)
  else none

/-- A date at the front of a text; what follows it. -/
def afterDate? (cs : List Char) : Option (List Char) := do
  let (year, cs) ← digits? 4 cs
  match cs with
  | '-' :: cs =>
    let (month, cs) ← digits? 2 cs
    match cs with
    | '-' :: cs =>
      let (day, cs) ← digits? 2 cs
      if 1 ≤ day ∧ day ≤ Calendar.daysInMonth year month then some cs else none
    | _ => none
  | _ => none

/-- A time of day at the front of a text, with or without seconds; what follows it. -/
def afterTime? (cs : List Char) : Option (List Char) := do
  let (hour, cs) ← digits? 2 cs
  match cs with
  | ':' :: cs =>
    let (minute, cs) ← digits? 2 cs
    if 24 ≤ hour ∨ 60 ≤ minute then none
    else
      match cs with
      | ':' :: cs =>
        let (second, cs) ← digits? 2 cs
        if 60 < second then none
        else
          match cs with
          | '.' :: cs =>
            if (cs.takeWhile isAsciiDigit).isEmpty then none else some (cs.dropWhile isAsciiDigit)
          | cs => some cs
      | cs => some cs
  | _ => none

/-- An offset from universal time that takes up the whole text; it may be missing. -/
def isOffset (cs : List Char) : Bool :=
  match cs with
  | [] => true
  | ['Z'] | ['z'] => true
  | sign :: cs =>
    (sign = '+' || sign = '-') &&
      (match digits? 2 cs with
        | some (hour, ':' :: cs) =>
          (match digits? 2 cs with
            | some (minute, []) => hour < 24 && minute < 60
            | _ => false)
        | _ => false)

/-- The text is a date. -/
def isDate (cs : List Char) : Bool := afterDate? cs = some []

/-- The text is a date, a time of day, or a moment. -/
def isDateTime (cs : List Char) : Bool :=
  afterTime? cs = some [] ||
    (match afterDate? cs with
      | some [] => true
      | some (mark :: cs) =>
        (mark = 'T' || mark = 't' || mark = ' ') && (afterTime? cs).any isOffset
      | none => false)

/-! ### Scalars without quotes -/

/-- A character that ends a scalar. -/
def isDelimiter (c : Char) : Bool :=
  isSpace c || c = '\n' || c = '\r' || c = ',' || c = ']' || c = '\x7d' || c = '#'

/-- The value that a scalar without quotes denotes. -/
def scalar? (cs : List Char) : Option Scalar :=
  if cs = "true".toList then some (.boolean true)
  else if cs = "false".toList then some (.boolean false)
  else if isDateTime cs then some (.dateTime (String.ofList cs))
  else ((integer? cs).map .integer).or ((float? cs).map .float)

/-- A scalar without quotes at the front of a text. A blank may stand between a date and a time. -/
def readScalar? (cs : List Char) : Option (Scalar × List Char) :=
  let atom := cs.takeWhile fun c => !isDelimiter c
  let rest := cs.drop atom.length
  match rest with
  | ' ' :: digit :: _ =>
    if isDate atom ∧ isAsciiDigit digit then
      let time := (rest.drop 1).takeWhile fun c => !isDelimiter c
      (scalar? (atom ++ ' ' :: time)).map fun s => (s, rest.drop (1 + time.length))
    else (scalar? atom).map fun s => (s, rest)
  | _ => (scalar? atom).map fun s => (s, rest)

end QueryExpr.Toml
