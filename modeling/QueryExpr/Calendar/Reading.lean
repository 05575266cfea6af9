import QueryExpr.Calendar.Date
import QueryExpr.Number.Reading
import QueryExpr.Text.Blank

/-!
# Reading dates and times

Each field is a number with at most as many digits as its width, and blanks may stand before it. A
year may also be signed and then has any number of digits. Nothing may follow the last field.
-/

namespace QueryExpr.Calendar

/-- A run of one to `width` digits. -/
def readDigits? (width : Nat) (cs : List Char) : Option (Nat × List Char) :=
  let digits := (cs.take width).takeWhile isAsciiDigit
  if digits = [] then none else some (digitsValue digits, cs.drop digits.length)

/-- A field without sign, after any blanks. -/
def readField? (width : Nat) (cs : List Char) : Option (Nat × List Char) :=
  readDigits? width (Text.trimLeft cs)

/-- A year: four digits at most, or signed and of any length. -/
def readYear? (cs : List Char) : Option (Int × List Char) :=
  match Text.trimLeft cs with
  | '-' :: r => (readDigits? r.length r).map fun (n, rest) => (-(n : Int), rest)
  | '+' :: r => (readDigits? r.length r).map fun (n, rest) => ((n : Int), rest)
  | r => (readDigits? 4 r).map fun (n, rest) => ((n : Int), rest)

/-- The rest after the character `mark`. -/
def readMark? (mark : Char) : List Char → Option (List Char)
  | [] => none
  | c :: cs => if c = mark then some cs else none

/-- A date at the front of a text. -/
def readDatePart? (cs : List Char) : Option (Date × List Char) := do
  let (year, cs) ← readYear? cs
  let cs ← readMark? '-' cs
  let (month, cs) ← readField? 2 cs
  let cs ← readMark? '-' cs
  let (day, cs) ← readField? 2 cs
  let date ← Date.ofParts? year month day
  some (date, cs)

/-- A date that takes up the whole text. -/
def readDate? (cs : List Char) : Option Date :=
  match readDatePart? cs with
  | some (date, []) => some date
  | _ => none

/-- The nanoseconds after the point: digits after the ninth are dropped. No point means zero. -/
def readNanos? : List Char → Option (Nat × List Char)
  | '.' :: cs =>
    let digits := cs.takeWhile isAsciiDigit
    if digits = [] then none
    else
      let kept := digits.take 9
      some (digitsValue kept * Nat.pow 10 (9 - kept.length), cs.dropWhile isAsciiDigit)
  | cs => some (0, cs)

/-- The time with second `second`, which is 60 for a leap second. -/
def timeOfFields? (hour minute second nanos : Nat) : Option Time :=
  if second = 60 then Time.ofParts? hour minute 59 (nanosPerSecond + nanos)
  else Time.ofParts? hour minute second nanos

/-- A time of day that takes up the whole text; the seconds may be left out, and so may their
fraction. -/
def readTime? (cs : List Char) : Option Time := do
  let (hour, cs) ← readField? 2 cs
  let cs ← readMark? ':' cs
  let (minute, cs) ← readField? 2 cs
  match cs with
  | [] => timeOfFields? hour minute 0 0
  | ':' :: cs =>
    let (second, cs) ← readField? 2 cs
    let (nanos, cs) ← readNanos? cs
    match cs with
    | [] => timeOfFields? hour minute second nanos
    | _ => none
  | _ => none

/-- A moment that takes up the whole text: a date, the letter `T`, a time of day. -/
def readDateTime? (cs : List Char) : Option DateTime := do
  let (date, cs) ← readDatePart? cs
  let cs ← readMark? 'T' cs
  let time ← readTime? cs
  some ⟨date, time⟩

end QueryExpr.Calendar
