import GameSheet.Number.Binary

/-!
The shortest decimal that reads back as a given floating-point value. Grids of ever smaller powers
of ten are tried; the first grid that has a point in the interval of reals that round to the value
wins, and of two such points the one nearer to the value.
-/

namespace GameSheet.Number

/-- The value `coefficient * 10 ^ exponent`. -/
structure Decimal where
  coefficient : Nat
  exponent : Int
  deriving DecidableEq, Repr

/-- The reals that round to a finite positive value, in quarters of its unit in the last place: the
value is `4 * m` of them. The ends belong to the interval when m is even. -/
structure RoundingInterval where
  low : Nat
  value : Nat
  high : Nat
  closed : Bool
  /-- The exponent of one quarter. -/
  exponent : Int

/-- Below a power of two the next value is half as far away. -/
def RoundingInterval.of (format : FloatFormat) (magnitude : Nat) : RoundingInterval :=
  let (m, q) := format.significand magnitude
  let narrow := m = format.exponentUnit ∧ format.leastExponent < q
  { low := if narrow then 4 * m - 1 else 4 * m - 2
    value := 4 * m
    high := 4 * m + 2
    closed := m % 2 == 0
    exponent := q - 2 }

/-- A grid of multiples of a power of ten, with the interval measured in the same unit. -/
structure Grid where
  step : Nat
  low : Nat
  value : Nat
  high : Nat
  closed : Bool

def RoundingInterval.onGrid (interval : RoundingInterval) (exponent : Int) : Grid :=
  let ratio := scale 10 (-exponent) (scale 2 interval.exponent (1, 1))
  { step := ratio.2
    low := interval.low * ratio.1
    value := interval.value * ratio.1
    high := interval.high * ratio.1
    closed := interval.closed }

def Grid.holds (grid : Grid) (index : Nat) : Bool :=
  let point := index * grid.step
  if grid.closed then grid.low ≤ point && point ≤ grid.high
  else grid.low < point && point < grid.high

/-- The better of the two points next to the value, if one lies in the interval. -/
def Grid.pick (grid : Grid) (tieUp : Bool) : Option Nat :=
  let below := grid.value / grid.step
  let twice := 2 * (grid.value % grid.step)
  let up := grid.step < twice || (twice == grid.step && (tieUp || below % 2 == 1))
  match grid.holds below, grid.holds (below + 1) with
  | true, true => some (if up then below + 1 else below)
  | true, false => some below
  | false, true => some (below + 1)
  | false, false => none

/-- Moves the zeros at the end of the coefficient into the exponent. -/
def Decimal.normalize (decimal : Decimal) : Decimal :=
  if ends : 0 < decimal.coefficient ∧ decimal.coefficient % 10 = 0 then
    Decimal.normalize ⟨decimal.coefficient / 10, decimal.exponent + 1⟩
  else decimal
termination_by decimal.coefficient
decreasing_by omega

/-- Tries `count` grids from the given exponent downward. -/
def RoundingInterval.search (interval : RoundingInterval) (tieUp : Bool) : Nat → Int → Decimal
  | 0, exponent => ⟨(interval.onGrid exponent).value / (interval.onGrid exponent).step, exponent⟩
  | count + 1, exponent =>
    match (interval.onGrid exponent).pick tieUp with
    | some coefficient => ⟨coefficient, exponent⟩
    | none => interval.search tieUp count (exponent - 1)

/-- A power of ten that is not below the value's leading digit. -/
def RoundingInterval.topExponent (interval : RoundingInterval) : Int :=
  ((Nat.log2 interval.value : Int) + interval.exponent + 1) * 30103 / 100000 + 1

/-- `tieUp` settles a value halfway between two shortest decimals: away from zero, or else to the
even digit. -/
def FloatFormat.shortest (format : FloatFormat) (tieUp : Bool) (magnitude : Nat) : Decimal :=
  let interval := RoundingInterval.of format magnitude
  (interval.search tieUp (2 * format.precision) interval.topExponent).normalize

end GameSheet.Number
