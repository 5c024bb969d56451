import GameSheet.Command.Tables
import GameSheet.Text.ByteSize
import GameSheet.Text.Quoted

/-!
Results in lines for people to read. Numbers stand at the right end of their columns, names at the
left end.
-/

namespace GameSheet

open Text (alignLeft alignRight)

def unlines (lines : List String) : String := String.join (lines.map (fun line => line ++ "\n"))

def FallbackNotice.summary (notice : FallbackNotice) : String :=
  s!"    fallback row {notice.site.row} '{notice.site.name}': '{notice.site.rawText}' " ++
    s!"→ default '{notice.defaultText}'"

namespace TableReport

def summary (report : TableReport) : String :=
  let name := alignLeft 16 report.name.text
  let rows := alignRight 5 s!"{report.rows}"
  let size := alignRight 12 (Text.ByteSize.text report.bytes)
  let pool := alignRight 4 s!"{report.poolSize}"
  s!"✓ {name} {rows} rows  {size}  pool {pool}  {report.format.name}"

def lines (report : TableReport) : List String :=
  report.summary :: report.fallbacks.map FallbackNotice.summary

end TableReport

def failureLine (name : TableName) (cause : ContentError) : String :=
  s!"✗ {name.text}: {cause.chain.line}"

namespace BuildResult

def summary (result : BuildResult) : String :=
  unlines ("=== Compiled Tables ===" :: result.reports.flatMap TableReport.lines)

def failureText (result : BuildResult) : String :=
  if result.failures.isEmpty then ""
  else unlines ("" :: result.failures.map (fun (name, cause) => failureLine name cause))

end BuildResult

namespace CheckResult

def line : TableName × Except ContentError Schema → String
  | (name, .ok schema) => s!"✓ {name.text} ({schema.encodedColumns.length} encoded columns)"
  | (name, .error cause) => failureLine name cause

def summary (result : CheckResult) : String := unlines (result.entries.map line)

end CheckResult

def fieldText (field : String × Value) : String := s!"{field.1}={field.2.text}"

/-- The identifier and the fields behind the first one. -/
def Record.summary (record : Record) : String :=
  s!"  {record.id.toInt} " ++ "  ".intercalate ((record.fields.drop 1).map fieldText)

namespace Inspection

/-- What is told of the asset before its rows, with an empty line at the end. -/
def head (inspection : Inspection) : String :=
  unlines [s!"Asset: {inspection.asset.text}", s!"Size: {Text.ByteSize.text inspection.size}",
    s!"Format: {inspection.format.name}", s!"Fingerprint: {inspection.fingerprint.text}", ""]

def summary (inspection : Inspection) : String :=
  unlines (s!"=== {inspection.records.length} rows ===" :: inspection.records.map Record.summary)

end Inspection

namespace StringPool

def line (index : Nat) (entry : String × Nat) : String :=
  let number := alignRight 4 s!"{index}"
  let count := alignRight 4 s!"{entry.2}"
  s!"  {number}  {count}x  " ++ Text.Quoted.text entry.1

def summary (pool : StringPool) (table : TableName) : String :=
  unlines (s!"String pool: {table.text} ({pool.size} strings)" ::
    pool.entries.zipIdx.map (fun (entry, index) => line index entry))

end StringPool

namespace Column

def mark (column : Column) : String :=
  if column.isIdentifier then "id" else if column.isComment then " #" else "  "

def defaultNote (column : Column) : String := (column.default.map (" = " ++ ·)).getD ""

def commentNote (column : Column) : String := (column.comment.map ("  // " ++ ·)).getD ""

def summary (column : Column) : String :=
  let index := alignRight 3 s!"{column.index}"
  let name := alignLeft 24 column.name
  let type := alignLeft 12 column.typeKeyword
  s!"  {index} {column.mark} {name} {type}" ++ column.defaultNote ++ column.commentNote

end Column

/-- Comment columns are shown only if all columns are asked for. -/
def Schema.summary (schema : Schema) (all : Bool) : String :=
  let shown := if all then schema.columns else schema.encodedColumns
  unlines (s!"Fingerprint: {schema.fingerprint.text}" :: "" :: shown.map Column.summary)

end GameSheet
