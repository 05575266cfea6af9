import QueryExpr.Calendar.Date

/-!
# Writing dates and times

Years have at least four digits; years after 9999 and before 0 carry a sign. The other fields have
two digits.
-/

namespace QueryExpr.Calendar

/-- A number with zeros in front up to the given width. -/
def padded (width n : Nat) : List Char :=
  let digits := Nat.toDigits 10 n
  List.replicate (width - digits.length) '0' ++ digits

/-- The year, signed if it is negative or has more than four digits. -/
def writeYear (year : Int) : List Char :=
  if year < 0 then '-' :: padded 4 year.natAbs
  else if year ≤ 9999 then padded 4 year.natAbs
  else '+' :: padded 4 year.natAbs

/-- `YYYY-MM-DD`. -/
def Date.write (d : Date) : List Char :=
  writeYear d.year ++ '-' :: padded 2 d.month ++ '-' :: padded 2 d.day

/-- `HH:MM:SS`; a leap second is second 60. -/
def Time.write (t : Time) : List Char :=
  padded 2 t.hour ++ ':' :: padded 2 t.minute ++
    ':' :: padded 2 (t.second + t.nanos / nanosPerSecond)

/-- The part of the second after the point, with three, six or nine digits; nothing for a whole
second. -/
def Time.writeFraction (t : Time) : List Char :=
  let nanos := t.nanos % nanosPerSecond
  if nanos = 0 then []
  else if nanos % 1000000 = 0 then '.' :: padded 3 (nanos / 1000000)
  else if nanos % 1000 = 0 then '.' :: padded 6 (nanos / 1000)
  else '.' :: padded 9 nanos

/-- Day and time of day, to the second, with `separator` between them. -/
def DateTime.write (separator : Char) (m : DateTime) : List Char :=
  m.date.write ++ separator :: m.time.write

end QueryExpr.Calendar
