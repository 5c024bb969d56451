import GameSheet.Schema.Basic
import GameSheet.Table.BlobFormat
import GameSheet.Table.Frame
import GameSheet.Table.Record

/-!
Decoding rows, from a blob or straight from a sheet. Every byte of a row belongs to a field, and
the first row that does not decode gives up the table. From a sheet there are no defaults: a cell
that does not parse is an error.
-/

namespace GameSheet

inductive DecodeError where
  | frame (fault : FrameError)
  | trailingBytes (row unread : Nat)
  | field (row : Nat) (name : String) (cause : Wire.ReadError)
  | invalidIdentifier (row : Nat) (found : Option Kind)
  | missingHeader
  | fingerprintMismatch (expected found : Fingerprint)
  | layoutMismatch (expected found : Fingerprint)
  | textCell (row : Nat) (name : String) (cause : ParseError)
  deriving DecidableEq

namespace DecodeError

def ofHeader : HeaderError → DecodeError
  | .missing => missingHeader
  | .mismatch expected found => fingerprintMismatch expected found

def code : DecodeError → String
  | frame (.badLength ..) => "BAD_VARINT"
  | frame (.overrun ..) => "ROW_OVERRUN"
  | trailingBytes .. => "TRAILING_BYTES"
  | field _ _ cause => cause.code
  | invalidIdentifier .. => "INVALID_IDENTIFIER"
  | missingHeader => "MISSING_HEADER"
  | fingerprintMismatch .. => "FINGERPRINT_MISMATCH"
  | layoutMismatch .. => "LAYOUT_MISMATCH"
  | textCell .. => "TEXT_CELL"

def kindText : Option Kind → String
  | some kind => kind.name
  | none => "nothing"

def message : DecodeError → String
  | frame (.badLength offset fault) => s!"bad varint at offset {offset}: {fault.message}"
  | frame (.overrun row offset length remaining) =>
    s!"row {row} at offset {offset} declares {length} bytes, {remaining} left in blob"
  | trailingBytes row unread => s!"row {row} leaves {unread} bytes unread"
  | field row name cause => s!"row {row}, field '{name}': {cause.message}"
  | invalidIdentifier row found =>
    s!"row {row}: identifier decoded as {kindText found}, expected int"
  | missingHeader => "blob has no DTB1 fingerprint header"
  | fingerprintMismatch expected found =>
    s!"blob fingerprint {found.text} does not match row layout {expected.text}"
  | layoutMismatch expected found =>
    s!"source columns (fingerprint {found.text}) do not match row layout {expected.text}"
  | textCell row name cause => s!"row {row}, field '{name}': {cause.message}"

def causes : DecodeError → List String
  | frame (.badLength _ fault) => [fault.message]
  | field _ _ cause => cause.message :: cause.causes
  | textCell _ _ cause => [cause.message]
  | _ => []

instance : Diagnostic DecodeError where
  severity _ := .fatal
  code := code
  message := message
  causes := causes

end DecodeError

namespace RowLayout

/-- The record of a row with these values; its identifier must be an `int`. -/
def record (layout : RowLayout) (row : Nat) (values : List Value) : Except DecodeError Record :=
  match values[layout.identifier]? with
  | some (.integer .int id) => .ok ⟨id, layout.names, values⟩
  | some other => .error (.invalidIdentifier row (some other.kind))
  | none => .error (.invalidIdentifier row none)

/-- Reads the fields in order from a cursor. -/
def readFields (row : Nat) :
    List Field → Wire.Cursor → Except DecodeError (List Value × Wire.Cursor)
  | [], cursor => .ok ([], cursor)
  | field :: rest, cursor =>
    match field.codec.read cursor with
    | .error cause _ => .error (.field row field.name cause)
    | .ok value next => (readFields row rest next).map (fun (values, last) => (value :: values, last))

def decodeRow (layout : RowLayout) (row : Nat) (bytes : List UInt8) : Except DecodeError Record := do
  let (values, cursor) ← readFields row layout.fields (Wire.Cursor.start bytes)
  if cursor.atEnd then layout.record row values
  else throw (.trailingBytes row cursor.remaining)

def decodeFrame (layout : RowLayout) (frame : Except FrameError (Nat × List UInt8)) :
    Except DecodeError Record := do
  let (row, bytes) ← frame.mapError .frame
  layout.decodeRow row bytes

def decode (layout : RowLayout) (format : BlobFormat) (blob : List UInt8) :
    Except DecodeError (List Record) := do
  let rows ← (format.splitHeader layout.fingerprint blob).mapError DecodeError.ofHeader
  (Frame.decode rows).mapM layout.decodeFrame

def parseField (row : Nat) (cells : List String) (field : Field) : Except DecodeError Value :=
  (field.codec.parse (cells.getD field.column "")).mapError (.textCell row field.name)

end RowLayout

/-- The records of a sheet, for code that expects the given layout. -/
def Schema.records (schema : Schema) (sheet : Sheet) (expected : RowLayout) :
    Except DecodeError (List Record) :=
  if schema.fingerprint = expected.fingerprint then
    (sheet.contentRows schema.layout.contentStart).mapM (fun (row, cells) => do
      let values ← schema.rowLayout.fields.mapM (RowLayout.parseField row cells)
      expected.record row values)
  else .error (.layoutMismatch expected.fingerprint schema.fingerprint)

end GameSheet
