import GameSheet.Text.Blank
import GameSheet.Time.Ticks

/-!
Calendar text. An RFC 3339 timestamp has fields of fixed width and an offset from UTC. The plain
forms have a date, or a date and a time after a space or a `T`; their fields may be short and may
have blanks in front of them.
-/

namespace GameSheet.Time

/-- Takes characters from the front of a text. -/
abbrev Scanner := StateT (List Char) Option

namespace Scanner

def number (least most : Nat) : Scanner Nat := fun chars =>
  let digits := (chars.take most).takeWhile Text.isDigit
  if digits.length < least then none else some (Text.digitsValue digits, chars.drop digits.length)

def digits : Scanner Nat := fun chars =>
  let digits := chars.takeWhile Text.isDigit
  if digits = [] then none else some (Text.digitsValue digits, chars.drop digits.length)

def literal (expected : Char) : Scanner Unit
  | c :: rest => if c = expected then some ((), rest) else none
  | [] => none

def oneOf (expected : List Char) : Scanner Char
  | c :: rest => if c ∈ expected then some (c, rest) else none
  | [] => none

def blanks : Scanner Unit := fun chars => some ((), Text.skipBlank chars)

def all {α : Type} (scanner : Scanner α) (chars : List Char) : Option α :=
  match scanner chars with
  | some (value, []) => some value
  | _ => none

end Scanner

open Scanner

/-- Second 60 is the leap second after second 59. -/
def clock (date : Date) (hour minute second nanosecond : Nat) : Option DateTime :=
  let datetime : DateTime :=
    if second = 60 then ⟨date, hour, minute, 59, 1000000000 + nanosecond⟩
    else ⟨date, hour, minute, second, nanosecond⟩
  if datetime.valid then some datetime else none

/-- One to nine digits count, more are dropped. -/
def fraction : Scanner Nat := do
  let chars ← get
  let digits := chars.takeWhile Text.isDigit
  if digits = [] then failure
  set (chars.dropWhile Text.isDigit)
  let kept := digits.take 9
  return Text.digitsValue kept * Nat.pow 10 (9 - kept.length)

/-- Seconds east of UTC. -/
def offset : Scanner Int := do
  let sign ← oneOf ['Z', 'z', '+', '-', '\u2212']
  if sign = 'Z' ∨ sign = 'z' then return 0
  let hours ← number 2 2
  literal ':'
  let minutes ← number 2 2
  if 24 ≤ hours ∨ 60 ≤ minutes then failure
  let size : Int := hours * 3600 + minutes * 60
  return if sign = '+' then size else -size

def rfc3339 : Scanner (DateTime × Int) := do
  let year ← number 4 4
  literal '-'
  let month ← number 2 2
  literal '-'
  let day ← number 2 2
  let _ ← oneOf ['T', 't', ' ']
  let hour ← number 2 2
  literal ':'
  let minute ← number 2 2
  literal ':'
  let second ← number 2 2
  let nanosecond ← match ← get with
    | '.' :: rest => do
      set rest
      fraction
    | _ => pure 0
  let east ← offset
  let datetime ← clock ⟨year, month, day⟩ hour minute second nanosecond
  return (datetime, east)

def shortField : Scanner Nat := do
  blanks
  number 1 2

/-- Up to four digits, or a sign and any number of them. -/
def yearField : Scanner Int := do
  blanks
  match ← get with
  | '-' :: rest => do
    set rest
    let size ← digits
    return -(size : Int)
  | '+' :: rest => do
    set rest
    let size ← digits
    return (size : Int)
  | _ => do
    let size ← number 1 4
    return (size : Int)

def dateFields : Scanner Date := do
  let year ← yearField
  literal '-'
  let month ← shortField
  literal '-'
  let day ← shortField
  return ⟨year, month, day⟩

def timeFields (date : Date) : Scanner DateTime := do
  let hour ← shortField
  literal ':'
  let minute ← shortField
  literal ':'
  let second ← shortField
  clock date hour minute second 0

def spacedDateTime : Scanner DateTime := do
  let date ← dateFields
  blanks
  timeFields date

def joinedDateTime : Scanner DateTime := do
  let date ← dateFields
  literal 'T'
  timeFields date

def bareDate : Scanner DateTime := do
  let date ← dateFields
  clock date 0 0 0 0

/-- The moment that a calendar text names in UTC: whole seconds and nanoseconds after them. -/
def readMoment (chars : List Char) : Option (Int × Nat) :=
  let plain (datetime : DateTime) := (datetime.seconds, datetime.nanosecond)
  ((rfc3339.all chars).map (fun (datetime, east) =>
      (datetime.seconds - east, datetime.nanosecond))) <|>
    (spacedDateTime.all chars).map plain <|>
    (joinedDateTime.all chars).map plain <|>
    (bareDate.all chars).map plain

end GameSheet.Time
