import GameSheet.Number.Shortest
import GameSheet.Text.Decimal

/-!
The text of floating-point numbers. Reading takes decimal numerals, infinities and NaN, and rounds
once. Writing takes the shortest digits and a style that says where the exponent form begins and
how whole numbers end.
-/

namespace GameSheet.Number

def matchesWord (word : String) (chars : List Char) : Bool :=
  chars.map Char.toLower == word.toList

/-- An optional exponent mark with digits after it; nothing may follow. -/
def readExponent : List Char → Option Int
  | [] => some 0
  | mark :: rest =>
    if mark = 'e' ∨ mark = 'E' then
      let (negative, digits) := match rest with
        | '-' :: digits => (true, digits)
        | '+' :: digits => (false, digits)
        | digits => (false, digits)
      if digits ≠ [] ∧ digits.all Text.isDigit then
        let size : Int := Text.digitsValue digits
        some (if negative then -size else size)
      else none
    else none

/-- Digits with a point among them, before them or after them, and an optional exponent. -/
def readDecimal (chars : List Char) : Option Decimal :=
  let whole := chars.takeWhile Text.isDigit
  let rest := chars.dropWhile Text.isDigit
  let (fraction, rest) := match rest with
    | '.' :: tail => (tail.takeWhile Text.isDigit, tail.dropWhile Text.isDigit)
    | _ => ([], rest)
  if whole ++ fraction = [] then none
  else (readExponent rest).map (fun exponent =>
    ⟨Text.digitsValue (whole ++ fraction), exponent - fraction.length⟩)

namespace FloatFormat

/-- The nearest pattern to a decimal. A decimal with more places than any finite pattern has needs
no arithmetic. -/
def ofDecimal (format : FloatFormat) (decimal : Decimal) : Nat :=
  let places := (Text.natural decimal.coefficient).length + decimal.exponent
  let limit : Int := Nat.pow 2 format.exponentBits
  if decimal.coefficient = 0 ∨ places < -limit then 0
  else if limit < places then format.infinity
  else format.nearest (scale 10 decimal.exponent (decimal.coefficient, 1))

def readMagnitude (format : FloatFormat) (chars : List Char) : Option Nat :=
  if matchesWord "inf" chars || matchesWord "infinity" chars then some format.infinity
  else if matchesWord "nan" chars then some format.quietNan
  else (readDecimal chars).map format.ofDecimal

def read (format : FloatFormat) : List Char → Option Nat
  | '-' :: chars => (format.readMagnitude chars).map (fun bits => format.signBit + bits)
  | '+' :: chars => format.readMagnitude chars
  | chars => format.readMagnitude chars

end FloatFormat

/-- How the digits of a finite number are laid out. Positions are those of the decimal point
relative to the first digit. -/
structure FloatStyle where
  /-- Positions written without an exponent; all of them when absent. -/
  plain : Option (Int × Int)
  /-- What follows a whole number. -/
  wholeEnd : String
  tieUp : Bool

namespace FloatStyle

/-- The text of a cell never has an exponent and marks no whole number. -/
def cell : FloatStyle := ⟨none, "", true⟩

/-- JSON writes an exponent for very small and very large numbers. -/
def json (format : FloatFormat) : FloatStyle :=
  ⟨some (if format = .single then (-5, 13) else (-4, 16)), ".0", false⟩

def zeros (count : Int) : List Char := List.replicate count.toNat '0'

def plainDigits (style : FloatStyle) (digits : List Char) (point : Int) : List Char :=
  if point ≤ 0 then '0' :: '.' :: zeros (-point) ++ digits
  else if digits.length ≤ point then digits ++ zeros (point - digits.length) ++ style.wholeEnd.toList
  else digits.take point.toNat ++ '.' :: digits.drop point.toNat

def exponentDigits (digits : List Char) (point : Int) : List Char :=
  let mantissa := match digits with
    | [] => []
    | [digit] => [digit]
    | digit :: rest => digit :: '.' :: rest
  let exponent := point - 1
  mantissa ++ 'e' :: (if exponent < 0 then '-' else '+') :: Text.natural exponent.natAbs

def finite (style : FloatStyle) (format : FloatFormat) (magnitude : Nat) : List Char :=
  if magnitude = 0 then '0' :: style.wholeEnd.toList
  else
    let decimal := format.shortest style.tieUp magnitude
    let digits := Text.natural decimal.coefficient
    let point := digits.length + decimal.exponent
    match style.plain with
    | none => style.plainDigits digits point
    | some (least, greatest) =>
      if least ≤ point ∧ point ≤ greatest then style.plainDigits digits point
      else exponentDigits digits point

end FloatStyle

namespace FloatFormat

/-- A finite or infinite pattern with its sign; NaN shows neither sign nor payload. -/
def text (format : FloatFormat) (style : FloatStyle) (bits : Nat) : List Char :=
  let magnitude := format.magnitude bits
  let unsigned := if format.isInfinite bits then "inf".toList else style.finite format magnitude
  if format.isNan bits then "NaN".toList
  else if format.isNegative bits then '-' :: unsigned
  else unsigned

end FloatFormat

end GameSheet.Number
