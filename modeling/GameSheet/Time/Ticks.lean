import GameSheet.Number.Integer
import GameSheet.Time.Calendar

/-!
Points in time. A datetime column holds ticks of 100 ns since the start of year 1. A calendar
datetime has ticks when it is not before year 1 and its count fits; parts of a tick are cut off. A
leap second is written as second 59 with a billion nanoseconds or more.
-/

namespace GameSheet.Time

abbrev Ticks := Number.Bounded .long

structure DateTime where
  date : Date
  hour : Nat
  minute : Nat
  second : Nat
  nanosecond : Nat
  deriving DecidableEq, Repr

def ticksPerSecond : Int := 10000000

namespace DateTime

/-- A leap second may follow second 59 only. -/
def valid (datetime : DateTime) : Bool :=
  datetime.date.valid && datetime.hour < 24 && datetime.minute < 60 && datetime.second < 60 &&
    datetime.nanosecond < (if datetime.second = 59 then 2000000000 else 1000000000)

def seconds (datetime : DateTime) : Int :=
  datetime.date.dayNumber * 86400 +
    (datetime.hour * 3600 + datetime.minute * 60 + datetime.second : Nat)

end DateTime

/-- The ticks of a moment `nanoseconds` after the given second. -/
def ticksAt (seconds : Int) (nanoseconds : Nat) : Option Ticks :=
  let whole := seconds + (nanoseconds / 1000000000 : Nat)
  if whole < 0 then none
  else Number.Bounded.ofInt? .long (whole * ticksPerSecond + (nanoseconds % 1000000000 / 100 : Nat))

def DateTime.ticks? (datetime : DateTime) : Option Ticks :=
  ticksAt datetime.seconds datetime.nanosecond

def DateTime.ofTicks (ticks : Ticks) : DateTime :=
  let seconds := ticks.toInt / ticksPerSecond
  let ofDay := (seconds % 86400).toNat
  { date := Date.ofDayNumber (seconds / 86400)
    hour := ofDay / 3600
    minute := ofDay / 60 % 60
    second := ofDay % 60
    nanosecond := (ticks.toInt % ticksPerSecond * 100).toNat }

end GameSheet.Time
