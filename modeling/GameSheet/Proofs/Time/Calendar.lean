import GameSheet.Time.Calendar
import Mathlib

/-!
Days and their numbers. Day follows day through months and years of the proleptic Gregorian calendar,
and the numbers count them from 0 at 1 January of year 1. Later dates have greater numbers, every number
has a date, and the two are inverse to each other.
-/

namespace GameSheet.Time

def daysOfYear (leap : Bool) : Nat := if leap then 366 else 365

theorem daysInMonth_pos (leap : Bool) (month : Nat) : 1 ≤ daysInMonth leap month := by
  unfold daysInMonth
  split
  · cases leap <;> decide
  all_goals decide

theorem daysBeforeMonth_succ (leap : Bool) {month : Nat} (first : 1 ≤ month) :
    daysBeforeMonth leap (month + 1) = daysBeforeMonth leap month + daysInMonth leap month := by
  cases month with
  | zero => omega
  | succ month => rfl

theorem daysBeforeMonth_mono (leap : Bool) : Monotone (daysBeforeMonth leap) := by
  apply monotone_nat_of_le_succ
  intro month
  cases month with
  | zero => exact Nat.le_refl 0
  | succ month => exact Nat.le_add_right _ _

theorem daysBeforeMonth_last (leap : Bool) : daysBeforeMonth leap 13 = daysOfYear leap := by
  cases leap <;> rfl

theorem isLeap_iff {year : Int} :
    isLeap year = true ↔ year % 4 = 0 ∧ (year % 100 ≠ 0 ∨ year % 400 = 0) := by
  simp [isLeap]

theorem daysBeforeYear_succ (year : Int) :
    daysBeforeYear (year + 1) = daysBeforeYear year + daysOfYear (isLeap year) := by
  simp only [daysBeforeYear, daysOfYear, isLeap_iff]
  split_ifs with long <;> omega

theorem daysBeforeYear_strictMono : StrictMono daysBeforeYear := by
  apply strictMono_int_of_lt_succ
  intro year
  rw [daysBeforeYear_succ]
  have some : 0 < daysOfYear (isLeap year) := by
    cases isLeap year <;> decide
  omega

theorem daysBeforeYear_range : daysBeforeYear Date.years.1 = -95746130 ∧
    daysBeforeYear (Date.years.2 + 1) = 95745399 := by decide

theorem walkMonths_spec {leap : Bool} {count month day : Nat} (first : 1 ≤ month)
    (inside : daysBeforeMonth leap month + day < daysBeforeMonth leap (month + count + 1)) :
    month ≤ (walkMonths leap count month day).1 ∧
      (walkMonths leap count month day).1 ≤ month + count ∧
      1 ≤ (walkMonths leap count month day).2 ∧
      (walkMonths leap count month day).2 ≤ daysInMonth leap (walkMonths leap count month day).1 ∧
      daysBeforeMonth leap (walkMonths leap count month day).1 +
        ((walkMonths leap count month day).2 - 1) = daysBeforeMonth leap month + day := by
  induction count generalizing month day with
  | zero =>
    rw [Nat.add_zero, daysBeforeMonth_succ leap first] at inside
    simp only [walkMonths]
    omega
  | succ count ih =>
    rw [walkMonths]
    split_ifs with here
    · simp only
      omega
    · have next := daysBeforeMonth_succ leap first
      have later : daysBeforeMonth leap (month + 1) + (day - daysInMonth leap month) <
          daysBeforeMonth leap (month + 1 + count + 1) := by
        have same : month + 1 + count + 1 = month + (count + 1) + 1 := by omega
        rw [same]
        omega
      have found := ih (by omega) later
      omega

/-- The cycles of 400, 100 and 4 years that are over before a year, and the years since the last. -/
structure Cycles where
  era : Int
  century : Int
  quad : Int
  rest : Int
  century_bounds : 0 ≤ century ∧ century ≤ 3
  quad_bounds : 0 ≤ quad ∧ quad ≤ 24
  rest_bounds : 0 ≤ rest ∧ rest ≤ 3

namespace Cycles

def year (cycles : Cycles) : Int :=
  400 * cycles.era + 100 * cycles.century + 4 * cycles.quad + cycles.rest + 1

theorem daysBeforeYear_eq (cycles : Cycles) : daysBeforeYear cycles.year =
    146097 * cycles.era + 36524 * cycles.century + 1461 * cycles.quad + 365 * cycles.rest := by
  obtain ⟨era, century, quad, rest, centuries, quads, rests⟩ := cycles
  have fours : (400 * era + 100 * century + 4 * quad + rest) / 4 =
      100 * era + 25 * century + quad := by omega
  have hundreds : (400 * era + 100 * century + 4 * quad + rest) / 100 = 4 * era + century := by omega
  have eras : (400 * era + 100 * century + 4 * quad + rest) / 400 = era := by omega
  simp only [daysBeforeYear, year, Int.add_sub_cancel, fours, hundreds, eras]
  omega

theorem isLeap_iff (cycles : Cycles) : isLeap cycles.year = true ↔
    cycles.rest = 3 ∧ (cycles.quad < 24 ∨ cycles.century = 3) := by
  obtain ⟨era, century, quad, rest, centuries, quads, rests⟩ := cycles
  rw [Time.isLeap_iff]
  simp only [year]
  omega

end Cycles

namespace Date

structure Proper (date : Date) : Prop where
  month_pos : 1 ≤ date.month
  month_le : date.month ≤ 12
  day_pos : 1 ≤ date.day
  day_le : date.day ≤ daysInMonth (isLeap date.year) date.month

/-- Every number is that of a day of some year, and its date is found among the months of that year. -/
theorem exists_year (number : Int) : ∃ year : Int, ∃ day : Nat,
    daysBeforeYear year + day = number ∧ day < daysOfYear (isLeap year) ∧
      ofDayNumber number = ⟨year, (walkMonths (isLeap year) 11 1 day).1,
        (walkMonths (isLeap year) 11 1 day).2⟩ := by
  generalize eraEq : number / 146097 = era
  generalize inEraEq : number % 146097 = inEra
  generalize centuryEq : min 3 (inEra / 36524) = century
  generalize inCenturyEq : inEra - 36524 * century = inCentury
  generalize quadEq : inCentury / 1461 = quad
  generalize inQuadEq : inCentury - 1461 * quad = inQuad
  generalize restEq : min 3 (inQuad / 365) = rest
  have centuries : 0 ≤ century ∧ century ≤ 3 := by omega
  -- The last century of an era and the last year of four may have a day more than the others.
  have inCentury_bounds : 0 ≤ inCentury ∧ (inCentury < 36524 ∨ inCentury = 36524 ∧ century = 3) := by
    omega
  have quads : 0 ≤ quad ∧ quad ≤ 24 := by omega
  have inQuad_bounds : 0 ≤ inQuad ∧ (inQuad < 1460 ∨ inQuad = 1460 ∧ (quad < 24 ∨ century = 3)) := by
    omega
  have rests : 0 ≤ rest ∧ rest ≤ 3 := by omega
  have day_bounds : 0 ≤ inQuad - 365 * rest ∧ (inQuad - 365 * rest < 365 ∨
      inQuad - 365 * rest = 365 ∧ rest = 3 ∧ (quad < 24 ∨ century = 3)) := by
    omega
  let cycles : Cycles := ⟨era, century, quad, rest, centuries, quads, rests⟩
  refine ⟨cycles.year, (inQuad - 365 * rest).toNat, ?_, ?_, ?_⟩
  · rw [cycles.daysBeforeYear_eq]
    simp only [cycles]
    omega
  · simp only [daysOfYear, cycles.isLeap_iff, cycles]
    split_ifs <;> omega
  · simp only [ofDayNumber, eraEq, inEraEq, centuryEq, inCenturyEq, quadEq, inQuadEq, restEq]
    rfl

theorem ofDayNumber_spec (number : Int) :
    (ofDayNumber number).Proper ∧ (ofDayNumber number).dayNumber = number := by
  obtain ⟨year, day, count, inside, found⟩ := exists_year number
  have january : daysBeforeMonth (isLeap year) 1 = 0 := rfl
  have within : daysBeforeMonth (isLeap year) 1 + day < daysBeforeMonth (isLeap year) (1 + 11 + 1) := by
    rw [january, Nat.zero_add]
    exact inside.trans_eq (daysBeforeMonth_last _).symm
  obtain ⟨low, high, first, last, same⟩ := walkMonths_spec (Nat.le_refl 1) within
  rw [found]
  refine ⟨⟨low, high, first, last⟩, ?_⟩
  simp only [dayNumber]
  omega

theorem Proper.inYear {date : Date} (proper : date.Proper) :
    daysBeforeMonth (isLeap date.year) date.month + (date.day - 1) <
      daysBeforeMonth (isLeap date.year) (date.month + 1) := by
  have next := daysBeforeMonth_succ (isLeap date.year) proper.month_pos
  have first := proper.day_pos
  have last := proper.day_le
  omega

theorem Proper.year_bounds {date : Date} (proper : date.Proper) :
    daysBeforeYear date.year ≤ date.dayNumber ∧ date.dayNumber < daysBeforeYear (date.year + 1) := by
  have inYear := proper.inYear
  have months : daysBeforeMonth (isLeap date.year) (date.month + 1) ≤ daysOfYear (isLeap date.year) := by
    rw [← daysBeforeMonth_last]
    exact daysBeforeMonth_mono _ (Nat.succ_le_succ proper.month_le)
  rw [daysBeforeYear_succ, dayNumber]
  omega

def Before (date other : Date) : Prop :=
  date.year < other.year ∨ date.year = other.year ∧
    (date.month < other.month ∨ date.month = other.month ∧ date.day < other.day)

instance (date other : Date) : Decidable (date.Before other) := inferInstanceAs (Decidable (_ ∨ _))

theorem dayNumber_lt {date other : Date} (proper : date.Proper) (valid : other.Proper)
    (before : date.Before other) : date.dayNumber < other.dayNumber := by
  rcases before with years | ⟨year, months | ⟨month, days⟩⟩
  · have later := daysBeforeYear_strictMono.monotone (Int.add_one_le_of_lt years)
    have past := proper.year_bounds.2
    have start := valid.year_bounds.1
    omega
  · have inYear := proper.inYear
    have later : daysBeforeMonth (isLeap date.year) (date.month + 1) ≤
        daysBeforeMonth (isLeap date.year) other.month := daysBeforeMonth_mono _ months
    rw [dayNumber, dayNumber, ← year]
    omega
  · have first := proper.day_pos
    rw [dayNumber, dayNumber, ← year, ← month]
    omega

theorem before_or_eq (date other : Date) : date.Before other ∨ date = other ∨ other.Before date := by
  obtain ⟨year, month, day⟩ := date
  obtain ⟨year', month', day'⟩ := other
  simp only [Before, mk.injEq]
  omega

theorem ofDayNumber_dayNumber {date : Date} (proper : date.Proper) :
    ofDayNumber date.dayNumber = date := by
  obtain ⟨found, same⟩ := ofDayNumber_spec date.dayNumber
  rcases before_or_eq (ofDayNumber date.dayNumber) date with early | equal | late
  · have less := dayNumber_lt found proper early
    omega
  · exact equal
  · have more := dayNumber_lt proper found late
    omega

def next (date : Date) : Date :=
  if date.day < daysInMonth (isLeap date.year) date.month then { date with day := date.day + 1 }
  else if date.month < 12 then ⟨date.year, date.month + 1, 1⟩
  else ⟨date.year + 1, 1, 1⟩

theorem Proper.next {date : Date} (proper : date.Proper) : date.next.Proper := by
  have first := proper.month_pos
  unfold Date.next
  split_ifs with within months
  · exact ⟨first, proper.month_le, Nat.le_add_left 1 _, within⟩
  · exact ⟨Nat.le_add_left 1 _, months, Nat.le_refl 1, daysInMonth_pos _ _⟩
  · exact ⟨Nat.le_refl 1, Nat.le_add_left 1 11, Nat.le_refl 1, daysInMonth_pos _ _⟩

theorem dayNumber_next {date : Date} (proper : date.Proper) :
    date.next.dayNumber = date.dayNumber + 1 := by
  have first := proper.day_pos
  have last := proper.day_le
  unfold next
  split_ifs with within months
  · simp only [dayNumber]
    omega
  · have step := daysBeforeMonth_succ (isLeap date.year) proper.month_pos
    simp only [dayNumber]
    omega
  · have december : date.month = 12 := Nat.le_antisymm proper.month_le (Nat.le_of_not_lt months)
    have step := daysBeforeMonth_succ (isLeap date.year) proper.month_pos
    rw [december, daysBeforeMonth_last] at step
    have january : daysBeforeMonth (isLeap (date.year + 1)) 1 = 0 := rfl
    simp only [dayNumber, daysBeforeYear_succ, january, december]
    rw [december] at last within
    omega

theorem valid_iff {date : Date} : date.valid = true ↔
    (years.1 ≤ date.year ∧ date.year ≤ years.2) ∧ date.Proper := by
  simp only [valid, Bool.and_eq_true, decide_eq_true_eq]
  constructor
  · rintro ⟨⟨⟨⟨⟨low, high⟩, first⟩, last⟩, start⟩, stop⟩
    exact ⟨⟨low, high⟩, first, last, start, stop⟩
  · rintro ⟨⟨low, high⟩, first, last, start, stop⟩
    exact ⟨⟨⟨⟨⟨low, high⟩, first⟩, last⟩, start⟩, stop⟩

/-- Numbers below those of years that no date may have are numbers of dates. -/
theorem valid_ofDayNumber {number : Int} (low : daysBeforeYear years.1 ≤ number)
    (high : number < daysBeforeYear (years.2 + 1)) : (ofDayNumber number).valid = true := by
  obtain ⟨proper, same⟩ := ofDayNumber_spec number
  have bounds := proper.year_bounds
  rw [same] at bounds
  refine valid_iff.mpr ⟨⟨?_, ?_⟩, proper⟩
  · have early := daysBeforeYear_strictMono.lt_iff_lt.mp (low.trans_lt bounds.2)
    omega
  · have late := daysBeforeYear_strictMono.lt_iff_lt.mp (bounds.1.trans_lt high)
    omega

end Date

end GameSheet.Time
