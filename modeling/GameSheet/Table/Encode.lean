import GameSheet.Schema.Basic
import GameSheet.Table.BlobFormat
import GameSheet.Table.Frame

/-!
Encoding a sheet. Each encoded column contributes the bytes of its cell. Where the cell cannot be
encoded, the column's default takes its place and a notice records that; a failed attempt leaves no
bytes. An identifier has no default. The first row that cannot be encoded gives up the table.
-/

namespace GameSheet

inductive CellFailure where
  | parse (reason : ParseError)
  | write (reason : WriteError)
  deriving DecidableEq, Repr

namespace CellFailure

def code : CellFailure → String
  | parse reason => reason.code
  | write reason => reason.code

def message : CellFailure → String
  | parse reason => reason.message
  | write reason => reason.message

end CellFailure

structure CellSite where
  row : Nat
  column : Nat
  name : String
  typeKeyword : String
  rawText : String
  deriving DecidableEq, Repr

structure FallbackNotice where
  site : CellSite
  defaultText : String
  reason : CellFailure
  deriving DecidableEq, Repr

inductive EncodeError where
  | invalidCell (site : CellSite) (reason : CellFailure)
  | invalidDefault (site : CellSite) (defaultText : String) (reason : CellFailure)
  | rowWidth (row expected found : Nat)
  | rowTooLarge (row length : Nat)
  deriving DecidableEq, Repr

namespace EncodeError

def code : EncodeError → String
  | invalidCell .. => "INVALID_CELL"
  | invalidDefault .. => "INVALID_DEFAULT"
  | rowWidth .. => "ROW_WIDTH"
  | rowTooLarge .. => "ROW_TOO_LARGE"

def siteText (site : CellSite) : String :=
  s!"row {site.row}, column {site.column} '{site.name}' ({site.typeKeyword}): " ++
    s!"cannot encode '{site.rawText}'"

def message : EncodeError → String
  | invalidCell site reason => s!"{siteText site}: {reason.message}"
  | invalidDefault site defaultText reason =>
    s!"{siteText site}, and default '{defaultText}' failed too: {reason.message}"
  | rowWidth row expected found => s!"row {row} has {found} cells, schema expects {expected}"
  | rowTooLarge row length => s!"row {row} encodes to {length} bytes, above the u32 length prefix"

def causes : EncodeError → List String
  | invalidCell _ reason => [reason.message]
  | invalidDefault _ _ reason => [reason.message]
  | _ => []

instance : Diagnostic EncodeError where
  severity _ := .fatal
  code := code
  message := message
  causes := causes

end EncodeError

/-- The notices of a row that were taken before it ended, and how it ended. -/
structure RowOutcome where
  notices : List FallbackNotice
  result : Except EncodeError (List UInt8)

structure RowProgress where
  sink : List UInt8
  notices : List FallbackNotice

namespace Encode

/-- Writes a cell behind the bytes of a sink; a failed write leaves there what it had put down. -/
def cell (codec : Codec) (text : String) (sink : List UInt8) : List UInt8 × Option CellFailure :=
  match codec.parse text with
  | .error reason => (sink, some (.parse reason))
  | .ok value =>
    match codec.write value with
    | .error failed => (sink ++ failed.left, some (.write failed.reason))
    | .ok bytes => (sink ++ bytes, none)

/-- A column's turn. The sink is cut back to where the turn began before a default is written. -/
def column (row : Nat) (column : Column) (text : String) (progress : RowProgress) :
    Except EncodeError RowProgress :=
  let site : CellSite := ⟨row, column.index, column.name, column.typeKeyword, text⟩
  match cell column.codec text progress.sink with
  | (sink, none) => .ok { progress with sink := sink }
  | (sink, some reason) =>
    match column.isIdentifier, column.default with
    | false, some defaultText =>
      match cell column.codec defaultText (sink.take progress.sink.length) with
      | (sink, none) => .ok ⟨sink, progress.notices ++ [⟨site, defaultText, reason⟩]⟩
      | (_, some again) => .error (.invalidDefault site defaultText again)
    | _, _ => .error (.invalidCell site reason)

/-- Columns in order, each with its cell; the first error ends the row. -/
def columns (row : Nat) : List (Column × String) → RowProgress → RowOutcome
  | [], progress => ⟨progress.notices, .ok progress.sink⟩
  | (head, text) :: rest, progress =>
    match column row head text progress with
    | .error fault => ⟨progress.notices, .error fault⟩
    | .ok next => columns row rest next

/-- The encoded columns of a schema with the cells of a row. -/
def pairs (schema : Schema) (cells : List String) : List (Column × String) :=
  (schema.columns.zip cells).filter (fun (column, _) => !column.isComment)

def row (schema : Schema) (index : Nat) (cells : List String) : RowOutcome :=
  if cells.length = schema.columns.length then columns index (pairs schema cells) ⟨[], []⟩
  else ⟨[], .error (.rowWidth index schema.columns.length cells.length)⟩

def framed (schema : Schema) (index : Nat) (cells : List String) :
    Except EncodeError (List UInt8 × List FallbackNotice) := do
  let outcome := row schema index cells
  let bytes ← outcome.result
  if bytes.length < Number.IntegerKind.uint.count then return (Frame.encode bytes, outcome.notices)
  else throw (.rowTooLarge index bytes.length)

end Encode

structure EncodedTable where
  blob : List UInt8
  rows : Nat
  fallbacks : List FallbackNotice
  format : BlobFormat
  fingerprint : Fingerprint

/-- Every content row of a sheet, framed, behind the header of the format. -/
def Schema.encode (schema : Schema) (sheet : Sheet) (format : BlobFormat) :
    Except EncodeError EncodedTable := do
  let rows ← (sheet.contentRows schema.layout.contentStart).mapM
    (fun (index, cells) => Encode.framed schema index cells)
  return {
    blob := format.header schema.fingerprint ++ rows.flatMap Prod.fst
    rows := rows.length
    fallbacks := rows.flatMap Prod.snd
    format := format
    fingerprint := schema.fingerprint }

end GameSheet
