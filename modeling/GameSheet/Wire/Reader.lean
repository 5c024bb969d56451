import GameSheet.Severity
import GameSheet.Text.Utf8
import GameSheet.Wire.Hex
import GameSheet.Wire.LittleEndian
import GameSheet.Wire.Varint

/-!
Reading values from the bytes of a row. A reader takes a cursor and answers with a value or an
error and with the cursor it leaves; a read that lacks bytes leaves the cursor where it was, one
that dislikes the bytes it took leaves it behind them. Offsets in errors count from the start of
the row.
-/

namespace GameSheet.Wire

structure Cursor where
  /-- The bytes that were read. -/
  position : Nat
  /-- The bytes that were not. -/
  unread : List UInt8
  deriving DecidableEq, Repr

namespace Cursor

def start (bytes : List UInt8) : Cursor := ⟨0, bytes⟩

def remaining (cursor : Cursor) : Nat := cursor.unread.length

def atEnd (cursor : Cursor) : Bool := cursor.unread.isEmpty

def advance (cursor : Cursor) (count : Nat) : Cursor :=
  ⟨cursor.position + count, cursor.unread.drop count⟩

end Cursor

inductive ReadError where
  | unexpectedEnd (offset needed remaining : Nat)
  | varint (offset : Nat) (fault : VarintError)
  | invalidUtf8 (offset : Nat)
  | invalidBool (offset : Nat) (byte : UInt8)
  | notDecodable (keyword : String)
  deriving DecidableEq, Repr

namespace ReadError

def code : ReadError → String
  | unexpectedEnd .. => "UNEXPECTED_END"
  | varint .. => "BAD_VARINT"
  | invalidUtf8 .. => "INVALID_UTF8"
  | invalidBool .. => "INVALID_BOOL"
  | notDecodable .. => "NOT_DECODABLE"

def hexByte (byte : UInt8) : String :=
  String.ofList ['0', 'x', Hex.digit (byte.toNat / 16), Hex.digit (byte.toNat % 16)]

def message : ReadError → String
  | unexpectedEnd offset needed remaining =>
    s!"read of {needed} bytes at offset {offset} with {remaining} left"
  | varint offset fault => s!"bad varint at offset {offset}: {fault.message}"
  | invalidUtf8 offset => s!"invalid UTF-8 at offset {offset}"
  | invalidBool offset byte => s!"invalid boolean byte {hexByte byte} at offset {offset}"
  | notDecodable keyword => s!"{keyword} columns cannot be decoded"

def causes : ReadError → List String
  | varint _ fault => [fault.message]
  | _ => []

instance : Diagnostic ReadError where
  severity _ := .fatal
  code := code
  message := message
  causes := causes

end ReadError

/-- A reader keeps the cursor also when it fails. -/
abbrev Reader := EStateM ReadError Cursor

namespace Reader

/-- Takes `count` bytes, or none when there are fewer. -/
def bytes (count : Nat) : Reader (List UInt8) := fun cursor =>
  let taken := cursor.unread.take count
  if taken.length < count then
    .error (.unexpectedEnd cursor.position count cursor.remaining) cursor
  else .ok taken (cursor.advance count)

def fixed (width : Nat) : Reader Nat := return LittleEndian.decode (← bytes width)

def varint (width : VarintWidth) : Reader Nat := fun cursor =>
  match Varint.decode width cursor.unread with
  | .error fault => .error (.varint cursor.position fault) cursor
  | .ok (value, read) => .ok value (cursor.advance read)

/-- The flag of a byte that was taken at `offset`. -/
def flag (offset : Nat) : List UInt8 → Reader Bool
  | [0] => return false
  | [1] => return true
  | byte :: _ => throw (.invalidBool offset byte)
  | [] => return false

def bool : Reader Bool := do
  let offset := (← get).position
  flag offset (← bytes 1)

/-- The text of bytes that were taken at `offset`. -/
def text (offset : Nat) (taken : List UInt8) : Reader String :=
  match Text.Utf8.decode? taken with
  | some chars => return String.ofList chars
  | none => throw (.invalidUtf8 offset)

def sizedText (size : Nat) : Reader String := do
  let offset := (← get).position
  text offset (← bytes size)

/-- A length in bytes and then that many bytes of UTF-8. -/
def string : Reader String := do
  sizedText (← varint .narrow)

/-- The scalar value of bytes that were taken at `offset`. -/
def scalar (offset : Nat) (taken : List UInt8) : Reader Char :=
  match Text.Utf8.scalar? taken with
  | some c => return c
  | none => throw (.invalidUtf8 offset)

/-- One scalar value; its lead byte says how many bytes are taken. -/
def char : Reader Char := do
  let cursor ← get
  match cursor.unread with
  | [] => throw (.unexpectedEnd cursor.position 1 0)
  | lead :: _ =>
    match Text.Utf8.width? lead with
    | none => throw (.invalidUtf8 cursor.position)
    | some width => scalar cursor.position (← bytes width)

end Reader

end GameSheet.Wire
