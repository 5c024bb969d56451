import GameSheet.Number.FloatText
import GameSheet.Text.Front
import GameSheet.Time.Calendar
import GameSheet.Toml.Lexeme

/-!
Truth values, floats, dates and times. No setting is one of these, so only the text behind them is
told.
-/

namespace GameSheet.Toml

abbrev Skipper := List Char → Option (List Char)

def skipWord (word : String) : Skipper := Text.behind? word.toList

/-! Dates and times -/

/-- A number that is written with exactly so many digits. -/
def field? (count : Nat) : Reader Nat := fun text =>
  let digits := text.take count
  if digits.length = count && digits.all (isDigitOf 10) then
    some (valueOf 10 digits, text.drop count)
  else none

/-- A field of two digits that does not pass a limit. -/
def skipField (limit : Nat) : Skipper := fun text =>
  match field? 2 text with
  | some (n, rest) => if n ≤ limit then some rest else none
  | none => none

def skipDate : Skipper := fun text => do
  let (year, rest) ← field? 4 text
  let (month, rest) ← field? 2 (← skipWord "-" rest)
  let (day, rest) ← field? 2 (← skipWord "-" rest)
  if (Time.Date.mk year month day).valid then return rest else none

def skipFraction : List Char → List Char
  | '.' :: c :: rest =>
    if isDigitOf 10 c then rest.dropWhile (isDigitOf 10) else '.' :: c :: rest
  | text => text

/-- Second 60 is a leap second, which any minute may have. -/
def skipTime : Skipper := fun text => do
  let rest ← skipWord ":" (← skipField 23 text)
  let rest ← skipWord ":" (← skipField 59 rest)
  return skipFraction (← skipField 60 rest)

def skipDistance : Skipper := fun text => do
  skipField 59 (← skipWord ":" (← skipField 23 text))

def skipOffset (text : List Char) : List Char :=
  match text with
  | [] => []
  | c :: rest =>
    if c = 'Z' || c = 'z' then rest
    else if c = '+' || c = '-' then (skipDistance rest).getD text
    else text

def isDateEnd (c : Char) : Bool := c == 'T' || c == 't' || c == ' '

def skipTimeOfDate (text : List Char) : List Char :=
  match text with
  | [] => []
  | c :: rest => if isDateEnd c then ((skipTime rest).map skipOffset).getD text else text

/-- A date with or without a time, or a time alone. -/
def skipMoment : Skipper := fun text => (skipDate text).map skipTimeOfDate <|> skipTime text

/-! Floats -/

def isSign (c : Char) : Bool := c == '+' || c == '-'

def skipSign (text : List Char) : List Char :=
  match text with
  | [] => []
  | c :: rest => if isSign c then rest else text

def skipExponent : Skipper
  | [] => none
  | c :: rest =>
    if c = 'e' || c = 'E' then (numeral? 10 (skipSign rest)).map Prod.snd else none

/-- A fraction with or without an exponent, or an exponent alone. -/
def skipFloatEnd : Skipper
  | '.' :: rest =>
    (numeral? 10 rest).map (fun (_, behind) => (skipExponent behind).getD behind)
  | text => skipExponent text

/-- The numeral does not denote a number above all finite ones. -/
def isFinite (numeral : List Char) : Bool :=
  Number.FloatFormat.double.read (numeral.filter (· != '_')) !=
    some Number.FloatFormat.double.infinity

/-- A numeral that is no integer. Only a positive one can be too large. -/
def skipNumeral : Skipper := fun text => do
  let (_, behind) ← decimal? (skipSign text)
  let rest ← skipFloatEnd behind
  if isFinite (text.take (text.length - rest.length)) then return rest else none

def skipFloat : Skipper := fun text =>
  skipNumeral text <|> skipWord "inf" (skipSign text) <|> skipWord "nan" (skipSign text)

def skipScalar : Skipper := fun text =>
  skipWord "true" text <|> skipWord "false" text <|> skipMoment text <|> skipFloat text

end GameSheet.Toml
