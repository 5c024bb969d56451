/-!
The proleptic Gregorian calendar. Days are numbered from 1 January of year 1, which is day 0; a
date's number and the date with a given number are inverse to each other.
-/

namespace GameSheet.Time

structure Date where
  year : Int
  month : Nat
  day : Nat
  deriving DecidableEq, Repr

def isLeap (year : Int) : Bool := year % 4 == 0 && (year % 100 != 0 || year % 400 == 0)

def daysInMonth (leap : Bool) (month : Nat) : Nat :=
  match month with
  | 2 => if leap then 29 else 28
  | 4 | 6 | 9 | 11 => 30
  | _ => 31

def daysBeforeMonth (leap : Bool) : Nat → Nat
  | 0 | 1 => 0
  | month + 2 => daysBeforeMonth leap (month + 1) + daysInMonth leap (month + 1)

def daysBeforeYear (year : Int) : Int :=
  let past := year - 1
  365 * past + past / 4 - past / 100 + past / 400

/-- Finds the month that holds the given day of the year, counted from the first of `month`. -/
def walkMonths (leap : Bool) : Nat → Nat → Nat → Nat × Nat
  | 0, month, day => (month, day + 1)
  | count + 1, month, day =>
    if day < daysInMonth leap month then (month, day + 1)
    else walkMonths leap count (month + 1) (day - daysInMonth leap month)

namespace Date

/-- The first and the last year that a date may have. -/
def years : Int × Int := (-262143, 262142)

def valid (date : Date) : Bool :=
  years.1 ≤ date.year && date.year ≤ years.2 && 1 ≤ date.month && date.month ≤ 12 &&
    1 ≤ date.day && date.day ≤ daysInMonth (isLeap date.year) date.month

def dayNumber (date : Date) : Int :=
  daysBeforeYear date.year + daysBeforeMonth (isLeap date.year) date.month + (date.day - 1 : Nat)

/-- Cycles of 400, 100, 4 years and one year are taken off in turn; the last of four shorter cycles
may be a day longer. -/
def ofDayNumber (number : Int) : Date :=
  let era := number / 146097
  let inEra := number % 146097
  let century := min 3 (inEra / 36524)
  let inCentury := inEra - 36524 * century
  let quad := inCentury / 1461
  let inQuad := inCentury - 1461 * quad
  let yearOfQuad := min 3 (inQuad / 365)
  let year := 400 * era + 100 * century + 4 * quad + yearOfQuad + 1
  let (month, day) := walkMonths (isLeap year) 11 1 (inQuad - 365 * yearOfQuad).toNat
  ⟨year, month, day⟩

end Date

end GameSheet.Time
