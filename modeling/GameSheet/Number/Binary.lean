/-!
Binary floating point as bit patterns. A format has a precision and a number of exponent bits; a
finite pattern without its sign stands for m * 2^q. `nearest` gives the pattern closest to a ratio,
where a tie goes to the even significand and a ratio past the largest finite value to infinity.
-/

namespace GameSheet.Number

structure FloatFormat where
  precision : Nat
  exponentBits : Nat
  deriving DecidableEq, Repr

namespace FloatFormat

def single : FloatFormat := ⟨24, 8⟩

def double : FloatFormat := ⟨53, 11⟩

/-- The exponent of the least positive value. -/
def leastExponent (format : FloatFormat) : Int :=
  3 - Nat.pow 2 (format.exponentBits - 1) - format.precision

/-- One step of the exponent field. -/
def exponentUnit (format : FloatFormat) : Nat := Nat.pow 2 (format.precision - 1)

def infinity (format : FloatFormat) : Nat :=
  (Nat.pow 2 format.exponentBits - 1) * format.exponentUnit

def signBit (format : FloatFormat) : Nat :=
  Nat.pow 2 format.exponentBits * format.exponentUnit

def quietNan (format : FloatFormat) : Nat := format.infinity + format.exponentUnit / 2

def isNegative (format : FloatFormat) (bits : Nat) : Bool := format.signBit ≤ bits

def magnitude (format : FloatFormat) (bits : Nat) : Nat := bits % format.signBit

def isNan (format : FloatFormat) (bits : Nat) : Bool := format.infinity < format.magnitude bits

def isInfinite (format : FloatFormat) (bits : Nat) : Bool := format.magnitude bits == format.infinity

/-- The m and q of a finite magnitude. -/
def significand (format : FloatFormat) (magnitude : Nat) : Nat × Int :=
  let field := magnitude / format.exponentUnit
  let fraction := magnitude % format.exponentUnit
  if field = 0 then (fraction, format.leastExponent)
  else (fraction + format.exponentUnit, format.leastExponent + (field - 1))

end FloatFormat

/-- The whole number nearest to a quotient; a half goes to the even neighbour. -/
def roundHalfEven (numerator denominator : Nat) : Nat :=
  let quotient := numerator / denominator
  let twice := 2 * (numerator % denominator)
  if denominator < twice ∨ (twice = denominator ∧ quotient % 2 = 1) then quotient + 1 else quotient

/-- Multiplies a ratio by a power of a base. -/
def scale (base : Nat) (exponent : Int) (ratio : Nat × Nat) : Nat × Nat :=
  if 0 ≤ exponent then (ratio.1 * Nat.pow base exponent.toNat, ratio.2)
  else (ratio.1, ratio.2 * Nat.pow base (-exponent).toNat)

namespace FloatFormat

/-- The exponent at which the ratio's significand has the format's precision. -/
def exponentFor (format : FloatFormat) (ratio : Nat × Nat) : Int :=
  let guess : Int := (Nat.log2 ratio.1 : Int) - Nat.log2 ratio.2 - format.precision
  let scaled := scale 2 (-guess) ratio
  let exact := if scaled.1 < Nat.pow 2 format.precision * scaled.2 then guess else guess + 1
  max exact format.leastExponent

def nearest (format : FloatFormat) (ratio : Nat × Nat) : Nat :=
  if ratio.1 = 0 then 0
  else
    let exponent := format.exponentFor ratio
    let scaled := scale 2 (-exponent) ratio
    let steps := (exponent - format.leastExponent).toNat
    min format.infinity (steps * format.exponentUnit + roundHalfEven scaled.1 scaled.2)

end FloatFormat

end GameSheet.Number
