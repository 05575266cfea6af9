/-!
# Calendar dates and times of day

Dates of the proleptic Gregorian calendar with years from -262143 to 262142, and times of day in
nanoseconds. A leap second is the second 59 of some minute together with a billion nanoseconds or
more. Both types hold valid values only.
-/

namespace QueryExpr.Calendar

/-- Every fourth year, but of the centuries only every fourth. -/
def isLeapYear (year : Int) : Bool := year % 4 = 0 && (year % 100 ≠ 0 || year % 400 = 0)

/-- The number of days of a month; zero if there is no such month. -/
def daysInMonth (year : Int) (month : Nat) : Nat :=
  match month with
  | 1 | 3 | 5 | 7 | 8 | 10 | 12 => 31
  | 4 | 6 | 9 | 11 => 30
  | 2 => if isLeapYear year then 29 else 28
  | _ => 0

/-- The day exists and its year is in range. -/
def isDate (year : Int) (month day : Nat) : Bool :=
  -262143 ≤ year && year ≤ 262142 && 1 ≤ day && day ≤ daysInMonth year month

/-- A day of the calendar. -/
structure Date where
  year : Int
  month : Nat
  day : Nat
  valid : isDate year month day = true
  deriving DecidableEq, Repr

instance : Inhabited Date := ⟨⟨1970, 1, 1, by decide⟩⟩

/-- The day with this year, month and day of the month. -/
def Date.ofParts? (year : Int) (month day : Nat) : Option Date :=
  if h : isDate year month day = true then some ⟨year, month, day, h⟩ else none

/-- Nanoseconds of a second. -/
def nanosPerSecond : Nat := 1000000000

/-- The time exists: only the last second of a minute can be a leap second. -/
def isTime (hour minute second nanos : Nat) : Bool :=
  hour < 24 && minute < 60 && second < 60 &&
    (nanos < nanosPerSecond || (second = 59 && nanos < 2 * nanosPerSecond))

/-- A time of day. -/
structure Time where
  hour : Nat
  minute : Nat
  second : Nat
  /-- Nanoseconds; a billion or more inside a leap second. -/
  nanos : Nat
  valid : isTime hour minute second nanos = true
  deriving DecidableEq, Repr

instance : Inhabited Time := ⟨⟨0, 0, 0, 0, by decide⟩⟩

/-- The time with these parts. -/
def Time.ofParts? (hour minute second nanos : Nat) : Option Time :=
  if h : isTime hour minute second nanos = true then some ⟨hour, minute, second, nanos, h⟩ else none

/-- The time at the start of its second; a leap second goes back to second 59. -/
def Time.wholeSecond (t : Time) : Time :=
  { t with
    nanos := 0
    valid := by
      have h := t.valid
      simp only [isTime, Bool.and_eq_true, decide_eq_true_eq] at h ⊢
      exact ⟨h.1, by simp [nanosPerSecond]⟩ }

/-- A moment: a day and a time of day. -/
structure DateTime where
  date : Date
  time : Time
  deriving DecidableEq, Repr, Inhabited

/-- The moment at the start of its second. -/
def DateTime.wholeSecond (m : DateTime) : DateTime := { m with time := m.time.wholeSecond }

end QueryExpr.Calendar
