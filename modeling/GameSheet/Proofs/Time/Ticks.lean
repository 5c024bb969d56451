import GameSheet.Proofs.Time.Calendar
import GameSheet.Proofs.Wire.Patterns
import GameSheet.Time.Ticks

/-!
Ticks and datetimes. A tick count from the start of year 1 on has a datetime that has the count again,
and the datetime of a datetime's ticks is the same but for parts of a tick. Computed in machine words,
where a number that does not fit ends the work, both directions give what they give without bounds.
-/

namespace GameSheet.Time

open Number (IntegerKind Bounded)

theorem ticksAt_eq (seconds : Int) (nanoseconds : Nat) : ticksAt seconds nanoseconds =
    if seconds + (nanoseconds / 1000000000 : Nat) < 0 then none
    else Bounded.ofInt? .long (seconds * ticksPerSecond + (nanoseconds / 100 : Nat)) := by
  have split : (seconds + (nanoseconds / 1000000000 : Nat)) * ticksPerSecond +
      (nanoseconds % 1000000000 / 100 : Nat) = seconds * ticksPerSecond + (nanoseconds / 100 : Nat) := by
    simp only [ticksPerSecond]
    omega
  simp only [ticksAt, split]

theorem ticksAt_nonneg {seconds : Int} {nanoseconds : Nat} {ticks : Ticks}
    (counted : ticksAt seconds nanoseconds = some ticks) : 0 ≤ ticks.toInt := by
  rw [ticksAt_eq] at counted
  split_ifs at counted with early
  rw [Bounded.ofInt?_eq_some_iff.mp counted, ticksPerSecond]
  omega

theorem long_range : IntegerKind.long.least = -9223372036854775808 ∧
    IntegerKind.long.greatest = 9223372036854775807 := by decide

theorem ticks_bounds (ticks : Ticks) :
    -9223372036854775808 ≤ ticks.toInt ∧ ticks.toInt ≤ 9223372036854775807 := by
  rw [← long_range.1, ← long_range.2]
  exact ⟨ticks.least_le, ticks.le_greatest⟩

structure Span where
  seconds : Int
  nanoseconds : Int
  deriving DecidableEq, Repr

def Span.of? (seconds nanoseconds : Int) : Option Span :=
  if (0 ≤ nanoseconds ∧ nanoseconds < 1000000000) ∧
      -IntegerKind.long.greatest * 1000000 ≤ seconds * 1000000000 + nanoseconds ∧
      seconds * 1000000000 + nanoseconds ≤ IntegerKind.long.greatest * 1000000 then
    some ⟨seconds, nanoseconds⟩
  else none

theorem Span.of?_eq_some {seconds nanoseconds : Int}
    (bounds : -1000000000000000 ≤ seconds ∧ seconds ≤ 1000000000000000)
    (part : 0 ≤ nanoseconds ∧ nanoseconds < 1000000000) :
    of? seconds nanoseconds = some ⟨seconds, nanoseconds⟩ := by
  have greatest := long_range.2
  rw [of?, if_pos (by omega)]

namespace DateTime

def ofSeconds (seconds : Int) (nanosecond : Nat) : DateTime :=
  let ofDay := (seconds % 86400).toNat
  ⟨Date.ofDayNumber (seconds / 86400), ofDay / 3600, ofDay / 60 % 60, ofDay % 60, nanosecond⟩

theorem ofTicks_eq (ticks : Ticks) : ofTicks ticks =
    ofSeconds (ticks.toInt / ticksPerSecond) (ticks.toInt % ticksPerSecond * 100).toNat := rfl

structure Plain (datetime : DateTime) : Prop where
  date : datetime.date.valid = true
  hour : datetime.hour < 24
  minute : datetime.minute < 60
  second : datetime.second < 60
  nanosecond : datetime.nanosecond < 1000000000

theorem plain_iff {datetime : DateTime} :
    datetime.Plain ↔ datetime.valid = true ∧ datetime.nanosecond < 1000000000 := by
  simp only [valid, Bool.and_eq_true, decide_eq_true_eq]
  constructor
  · intro plain
    refine ⟨⟨⟨⟨⟨plain.date, plain.hour⟩, plain.minute⟩, plain.second⟩, ?_⟩, plain.nanosecond⟩
    have short := plain.nanosecond
    split_ifs <;> omega
  · rintro ⟨⟨⟨⟨⟨date, hour⟩, minute⟩, second⟩, _⟩, nanosecond⟩
    exact ⟨date, hour, minute, second, nanosecond⟩

theorem seconds_ofSeconds (seconds : Int) (nanosecond : Nat) :
    (ofSeconds seconds nanosecond).seconds = seconds := by
  obtain ⟨_, same⟩ := Date.ofDayNumber_spec (seconds / 86400)
  simp only [DateTime.seconds, ofSeconds, same]
  omega

theorem ofSeconds_seconds {datetime : DateTime} (plain : datetime.Plain) (nanosecond : Nat) :
    ofSeconds datetime.seconds nanosecond = { datetime with nanosecond := nanosecond } := by
  have hours := plain.hour
  have minutes := plain.minute
  have seconds := plain.second
  have found := Date.ofDayNumber_dayNumber (Date.valid_iff.mp plain.date).2
  have days : datetime.seconds / 86400 = datetime.date.dayNumber := by
    simp only [DateTime.seconds]
    omega
  have ofDay : (datetime.seconds % 86400).toNat =
      datetime.hour * 3600 + datetime.minute * 60 + datetime.second := by
    simp only [DateTime.seconds]
    omega
  simp only [ofSeconds, days, ofDay, found, mk.injEq, true_and, and_true]
  omega

def tickCount (datetime : DateTime) : Int :=
  (((datetime.date.dayNumber * 24 + datetime.hour) * 60 + datetime.minute) * 60 + datetime.second) *
    10000000 + (datetime.nanosecond / 100 : Nat)

theorem tickCount_eq (datetime : DateTime) : datetime.tickCount =
    datetime.seconds * ticksPerSecond + (datetime.nanosecond / 100 : Nat) := by
  simp only [tickCount, DateTime.seconds, ticksPerSecond]
  omega

variable {datetime other : DateTime} {ticks : Ticks}

theorem seconds_bounds (plain : datetime.Plain) :
    datetime.date.dayNumber * 86400 ≤ datetime.seconds ∧
      datetime.seconds < (datetime.date.dayNumber + 1) * 86400 := by
  obtain ⟨date, hour, minute, second, nanosecond⟩ := plain
  simp only [DateTime.seconds]
  omega

theorem seconds_neg_iff (plain : datetime.Plain) : datetime.seconds < 0 ↔ datetime.date.year < 1 := by
  have bounds := seconds_bounds plain
  have years := (Date.valid_iff.mp plain.date).2.year_bounds
  have first : daysBeforeYear 1 = 0 := by decide
  constructor
  · intro early
    have before : daysBeforeYear datetime.date.year < daysBeforeYear 1 := by omega
    exact daysBeforeYear_strictMono.lt_iff_lt.mp before
  · intro early
    have before := daysBeforeYear_strictMono.monotone (Int.add_one_le_of_lt early)
    omega

theorem ticks?_eq (plain : datetime.Plain) : datetime.ticks? =
    if datetime.seconds < 0 then none else Bounded.ofInt? .long datetime.tickCount := by
  have whole : datetime.nanosecond / 1000000000 = 0 := Nat.div_eq_of_lt plain.nanosecond
  rw [DateTime.ticks?, ticksAt_eq, whole, ← tickCount_eq, Nat.cast_zero, Int.add_zero]

theorem ticks?_eq_some_iff (plain : datetime.Plain) :
    datetime.ticks? = some ticks ↔ 0 ≤ datetime.seconds ∧ ticks.toInt = datetime.tickCount := by
  rw [ticks?_eq plain]
  by_cases early : datetime.seconds < 0
  · rw [if_pos early]
    exact iff_of_false (Option.some_ne_none ticks).symm (fun given => Int.not_lt.mpr given.1 early)
  · rw [if_neg early, Bounded.ofInt?_eq_some_iff, and_iff_right (Int.not_lt.mp early)]

/-- From year 1 on only a count that is too great for its word is refused. -/
theorem ticks?_eq_none_iff (plain : datetime.Plain) : datetime.ticks? = none ↔
    datetime.date.year < 1 ∨ IntegerKind.long.greatest < datetime.tickCount := by
  rw [ticks?_eq plain, ← seconds_neg_iff plain]
  split_ifs with early
  · exact iff_of_true rfl (Or.inl early)
  · have least : IntegerKind.long.least ≤ 0 := by decide
    rw [Bounded.ofInt?_eq_none_iff, tickCount_eq, ticksPerSecond]
    omega

def Before (datetime other : DateTime) : Prop :=
  datetime.date.Before other.date ∨ datetime.date = other.date ∧
    (datetime.hour < other.hour ∨ datetime.hour = other.hour ∧
      (datetime.minute < other.minute ∨ datetime.minute = other.minute ∧
        (datetime.second < other.second ∨ datetime.second = other.second ∧
          datetime.nanosecond < other.nanosecond)))

instance (datetime other : DateTime) : Decidable (datetime.Before other) :=
  inferInstanceAs (Decidable (_ ∨ _))

theorem tickCount_le_of_before (plain : datetime.Plain) (plain' : other.Plain)
    (before : datetime.Before other) : datetime.tickCount ≤ other.tickCount := by
  have short := plain.nanosecond
  have order : datetime.seconds < other.seconds ∨
      datetime.seconds = other.seconds ∧ datetime.nanosecond < other.nanosecond := by
    rcases before with dates | ⟨date, clock⟩
    · have days := Date.dayNumber_lt (Date.valid_iff.mp plain.date).2
        (Date.valid_iff.mp plain'.date).2 dates
      have bounds := seconds_bounds plain
      have bounds' := seconds_bounds plain'
      omega
    · have minute := plain.minute
      have second := plain.second
      have minute' := plain'.minute
      have second' := plain'.second
      simp only [DateTime.seconds, date]
      omega
  rw [tickCount_eq, tickCount_eq, ticksPerSecond]
  omega

/-- Parts of a tick cut off. -/
def truncated (datetime : DateTime) : DateTime :=
  { datetime with nanosecond := datetime.nanosecond / 100 * 100 }

theorem ofTicks_tickCount (plain : datetime.Plain) (counted : ticks.toInt = datetime.tickCount) :
    ofTicks ticks = datetime.truncated := by
  have short := plain.nanosecond
  have seconds : ticks.toInt / ticksPerSecond = datetime.seconds := by
    rw [counted, tickCount_eq, ticksPerSecond]
    omega
  have rest : (ticks.toInt % ticksPerSecond * 100).toNat = datetime.nanosecond / 100 * 100 := by
    rw [counted, tickCount_eq, ticksPerSecond]
    omega
  rw [ofTicks_eq, seconds, rest, ofSeconds_seconds plain]
  rfl

/-- Counts that fit a word are of years in which there are dates. -/
theorem plain_ofTicks (ticks : Ticks) : (ofTicks ticks).Plain := by
  have bounds := ticks_bounds ticks
  obtain ⟨start, stop⟩ := daysBeforeYear_range
  rw [ofTicks_eq]
  simp only [ofSeconds, ticksPerSecond]
  constructor
  · apply Date.valid_ofDayNumber
    · rw [start]
      omega
    · rw [stop]
      omega
  all_goals
    simp only
    omega

theorem tickCount_ofTicks (ticks : Ticks) : (ofTicks ticks).tickCount = ticks.toInt := by
  rw [tickCount_eq, ofTicks_eq, seconds_ofSeconds]
  simp only [ofSeconds, ticksPerSecond]
  omega

def ofTicks? (ticks : Ticks) : Option DateTime := do
  let seconds ← Bounded.ofInt? .long (ticks.toInt / ticksPerSecond)
  let rest ← Bounded.ofInt? .long (ticks.toInt % ticksPerSecond)
  let scaled ← Bounded.ofInt? .long (rest.toInt * 100)
  let nanoseconds ← Bounded.ofInt? .uint scaled.toInt
  let span ← Span.of? seconds.toInt nanoseconds.toInt
  let datetime := ofSeconds span.seconds span.nanoseconds.toNat
  if datetime.valid then some datetime else none

def countTicks? (datetime : DateTime) : Option Ticks := do
  let span ← Span.of? datetime.seconds datetime.nanosecond
  if span.seconds < 0 then none
  else do
    let whole ← Bounded.ofInt? .long (span.seconds * ticksPerSecond)
    Bounded.ofInt? .long (whole.toInt + span.nanoseconds / 100)

/-- Nothing on the way leaves its word. -/
theorem ofTicks?_eq (ticks : Ticks) : ofTicks? ticks = some (ofTicks ticks) := by
  have whole : -922337203686 ≤ ticks.toInt / ticksPerSecond ∧
      ticks.toInt / ticksPerSecond ≤ 922337203685 := by
    have bounds := ticks_bounds ticks
    simp only [ticksPerSecond]
    omega
  have part : 0 ≤ ticks.toInt % ticksPerSecond ∧ ticks.toInt % ticksPerSecond < 10000000 := by
    simp only [ticksPerSecond]
    omega
  have long := long_range
  have uint : IntegerKind.uint.least = 0 ∧ IntegerKind.uint.greatest = 4294967295 := by decide
  obtain ⟨seconds, secondsFit, secondsEq⟩ :=
    Bounded.exists_ofInt? .long (ticks.toInt / ticksPerSecond) (by omega)
  obtain ⟨rest, restFits, restEq⟩ :=
    Bounded.exists_ofInt? .long (ticks.toInt % ticksPerSecond) (by omega)
  obtain ⟨scaled, scaledFits, scaledEq⟩ := Bounded.exists_ofInt? .long (rest.toInt * 100) (by omega)
  obtain ⟨nanoseconds, nanosecondsFit, nanosecondsEq⟩ :=
    Bounded.exists_ofInt? .uint scaled.toInt (by omega)
  have span : Span.of? seconds.toInt nanoseconds.toInt = some ⟨seconds.toInt, nanoseconds.toInt⟩ :=
    Span.of?_eq_some (by omega) (by omega)
  have same : ofSeconds seconds.toInt nanoseconds.toInt.toNat = ofTicks ticks := by
    rw [ofTicks_eq, secondsEq, nanosecondsEq, scaledEq, restEq]
  have valid := (plain_iff.mp (plain_ofTicks ticks)).1
  simp only [ofTicks?, secondsFit, restFits, scaledFits, nanosecondsFit, span, Option.bind_eq_bind,
    Option.bind_some, same]
  exact if_pos valid

theorem span_eq (plain : datetime.Plain) :
    Span.of? datetime.seconds datetime.nanosecond = some ⟨datetime.seconds, datetime.nanosecond⟩ := by
  obtain ⟨⟨low, high⟩, proper⟩ := Date.valid_iff.mp plain.date
  have short := plain.nanosecond
  have years := proper.year_bounds
  have bounds := seconds_bounds plain
  obtain ⟨start, stop⟩ := daysBeforeYear_range
  have early := daysBeforeYear_strictMono.monotone low
  have late : daysBeforeYear (datetime.date.year + 1) ≤ daysBeforeYear (Date.years.2 + 1) :=
    daysBeforeYear_strictMono.monotone (Int.add_le_add_right high 1)
  exact Span.of?_eq_some (by omega) (by omega)

/-- A count that fits a word is reached by way of numbers that fit. -/
theorem countTicks?_eq (plain : datetime.Plain) : datetime.countTicks? = datetime.ticks? := by
  have least : IntegerKind.long.least ≤ 0 := by decide
  rw [ticks?_eq plain, tickCount_eq, ticksPerSecond]
  simp only [countTicks?, span_eq plain, Option.bind_eq_bind, Option.bind_some, ticksPerSecond]
  by_cases early : datetime.seconds < 0
  · rw [if_pos early, if_pos early]
  · rw [if_neg early, if_neg early]
    apply Option.ext
    intro ticks
    simp only [Option.bind_eq_some_iff, Bounded.ofInt?_eq_some_iff]
    constructor
    · rintro ⟨whole, product, sum⟩
      omega
    · intro count
      have low := ticks.least_le
      have high := ticks.le_greatest
      exact ⟨⟨datetime.seconds * 10000000, by omega, by omega⟩, rfl, by simp only; omega⟩

theorem ticks?_ofTicks (late : 0 ≤ ticks.toInt) : (ofTicks ticks).ticks? = some ticks := by
  have seconds : 0 ≤ (ofTicks ticks).seconds := by
    rw [ofTicks_eq, seconds_ofSeconds, ticksPerSecond]
    omega
  exact (ticks?_eq_some_iff (plain_ofTicks ticks)).mpr ⟨seconds, (tickCount_ofTicks ticks).symm⟩

end DateTime

/-- Days are numbered in the order of the calendar from 1 January of year 1. Every count has a datetime,
computed without leaving a word, and one that is not negative is the count of its datetime. A datetime
outside of leap seconds has no count only before year 1 or where the count does not fit; from its
count it is found again without parts of a tick, and no later datetime has a smaller count. -/
theorem ticks_inverse :
    ((⟨1, 1, 1⟩ : Date).dayNumber = 0 ∧ ∀ date : Date, date.Proper →
      date.next.Proper ∧ date.next.dayNumber = date.dayNumber + 1) ∧
    (∀ ticks : Ticks, DateTime.ofTicks? ticks = some (DateTime.ofTicks ticks) ∧
      (DateTime.ofTicks ticks).valid = true ∧ (DateTime.ofTicks ticks).nanosecond < 1000000000 ∧
      (0 ≤ ticks.toInt → (DateTime.ofTicks ticks).ticks? = some ticks)) ∧
    ∀ datetime : DateTime, datetime.valid = true → datetime.nanosecond < 1000000000 →
      datetime.countTicks? = datetime.ticks? ∧
      (datetime.ticks? = none ↔
        datetime.date.year < 1 ∨ IntegerKind.long.greatest < datetime.tickCount) ∧
      ∀ ticks, datetime.ticks? = some ticks →
        DateTime.ofTicks ticks = datetime.truncated ∧
        ∀ other : DateTime, other.valid = true → other.nanosecond < 1000000000 →
          datetime.Before other → ∀ later, other.ticks? = some later → ticks.toInt ≤ later.toInt := by
  refine ⟨⟨by decide, ?_⟩, ?_, ?_⟩
  · intro date proper
    exact ⟨proper.next, Date.dayNumber_next proper⟩
  · intro ticks
    obtain ⟨valid, short⟩ := DateTime.plain_iff.mp (DateTime.plain_ofTicks ticks)
    exact ⟨DateTime.ofTicks?_eq ticks, valid, short, DateTime.ticks?_ofTicks⟩
  · intro datetime valid short
    have plain := DateTime.plain_iff.mpr ⟨valid, short⟩
    refine ⟨DateTime.countTicks?_eq plain, DateTime.ticks?_eq_none_iff plain, ?_⟩
    intro ticks counted
    obtain ⟨_, count⟩ := (DateTime.ticks?_eq_some_iff plain).mp counted
    refine ⟨DateTime.ofTicks_tickCount plain count, ?_⟩
    intro other valid' short' before later counted'
    have plain' := DateTime.plain_iff.mpr ⟨valid', short'⟩
    obtain ⟨_, count'⟩ := (DateTime.ticks?_eq_some_iff plain').mp counted'
    rw [count, count']
    exact DateTime.tickCount_le_of_before plain plain' before

/-- The year 1900 has no 29 February. The last count ends in the year 29228, and what a datetime in that
tick has beyond it is cut off. -/
theorem ticks_inverse_last :
    (⟨1900, 3, 1⟩ : Date).dayNumber = (⟨1900, 2, 28⟩ : Date).dayNumber + 1 ∧
    ∃ last : Ticks, last.toInt = IntegerKind.long.greatest ∧ (DateTime.ofTicks last).ticks? = some last ∧
      DateTime.ofTicks last = ⟨⟨29228, 9, 14⟩, 2, 48, 5, 477580700⟩ ∧
      ∀ ticks, (⟨⟨29228, 9, 14⟩, 2, 48, 5, 477580599⟩ : DateTime).ticks? = some ticks →
        ticks.toInt ≤ last.toInt := by
  obtain ⟨⟨_, next⟩, count, datetime⟩ := ticks_inverse
  have february : Date.Proper ⟨1900, 2, 28⟩ := ⟨by decide, by decide, by decide, by decide⟩
  let last : Ticks := ⟨IntegerKind.long.greatest, by decide, Int.le_refl _⟩
  let latest : DateTime := ⟨⟨29228, 9, 14⟩, 2, 48, 5, 477580799⟩
  let earlier : DateTime := ⟨⟨29228, 9, 14⟩, 2, 48, 5, 477580599⟩
  have before : earlier.Before latest := by decide
  have counted : latest.ticks? = some last := by decide
  obtain ⟨_, _, cut⟩ := datetime latest (by decide) (by decide)
  obtain ⟨_, _, order⟩ := datetime earlier (by decide) (by decide)
  refine ⟨(next _ february).2, last, rfl, (count last).2.2.2 (by decide), ?_, ?_⟩
  · exact (cut last counted).1.trans (by decide)
  intro ticks counted'
  exact (order ticks counted').2 latest (by decide) (by decide) before last counted

end GameSheet.Time
