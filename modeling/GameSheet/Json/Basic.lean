import GameSheet.Text.Decimal

/-!
JSON and its layout over lines. Fields keep their order; every item and field has a line of its own,
two spaces further in than the brackets around it, and empty brackets stay together.
-/

namespace GameSheet

inductive Json where
  | null
  | bool (flag : Bool)
  /-- A number by its digits. -/
  | number (text : List Char)
  | string (text : String)
  | array (items : List Json)
  | object (fields : List (String × Json))

namespace Json

def ofNat (n : Nat) : Json := number (Text.natural n)

def ofInt (n : Int) : Json := number (Text.integer n)

/-! Strings -/

def hexDigit (n : Nat) : Char := (Nat.digitChar n)

/-- Quotation marks, backslashes and the controls below the space are escaped. -/
def escape (c : Char) : List Char :=
  if c = '"' then ['\\', '"']
  else if c = '\\' then ['\\', '\\']
  else if c = '\x08' then ['\\', 'b']
  else if c = '\t' then ['\\', 't']
  else if c = '\n' then ['\\', 'n']
  else if c = '\x0c' then ['\\', 'f']
  else if c = '\r' then ['\\', 'r']
  else if c.toNat < 32 then
    ['\\', 'u', '0', '0', hexDigit (c.toNat / 16), hexDigit (c.toNat % 16)]
  else [c]

def quoted (text : String) : String := String.ofList ('"' :: text.toList.flatMap escape ++ ['"'])

/-! Layout -/

def newLine (depth : Nat) : String := "\n" ++ String.ofList (List.replicate (2 * depth) ' ')

mutual

/-- Writes behind `done` a value whose brackets stand at some depth. -/
def write (depth : Nat) (done : String) : Json → String
  | null => done ++ "null"
  | bool true => done ++ "true"
  | bool false => done ++ "false"
  | number text => done ++ String.ofList text
  | string text => done ++ quoted text
  | array [] => done ++ "[]"
  | array (first :: rest) =>
    writeItems depth (write (depth + 1) (done ++ "[" ++ newLine (depth + 1)) first) rest ++
      newLine depth ++ "]"
  | object [] => done ++ "\x7b\x7d"
  | object ((name, first) :: rest) =>
    let start := done ++ "\x7b" ++ newLine (depth + 1) ++ quoted name ++ ": "
    writeFields depth (write (depth + 1) start first) rest ++ newLine depth ++ "\x7d"

def writeItems (depth : Nat) (done : String) : List Json → String
  | [] => done
  | item :: rest =>
    writeItems depth (write (depth + 1) (done ++ "," ++ newLine (depth + 1)) item) rest

def writeFields (depth : Nat) (done : String) : List (String × Json) → String
  | [] => done
  | (name, value) :: rest =>
    let start := done ++ "," ++ newLine (depth + 1) ++ quoted name ++ ": "
    writeFields depth (write (depth + 1) start value) rest

end

def text (json : Json) : String := write 0 "" json

end Json

end GameSheet
