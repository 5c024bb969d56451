import GameSheet.Command.Failure
import GameSheet.Content.Compile

/-!
What each command does with the tables of a manifest. Building and checking treat every table on its
own, so their results tell of the tables that succeeded as well as of those that failed. An asset is
inspected with the row layout that its source has now.
-/

namespace GameSheet

structure BuildResult where
  reports : List TableReport
  failures : List (TableName × ContentError)

namespace BuildResult

def failure? (entry : TableName × Except ContentError TableReport) :
    Option (TableName × ContentError) :=
  match entry with
  | (_, .ok _) => none
  | (name, .error cause) => some (name, cause)

def ofEntries (entries : List (TableName × Except ContentError TableReport)) : BuildResult where
  reports := entries.filterMap (fun (_, outcome) => outcome.toOption)
  failures := entries.filterMap failure?

def total (result : BuildResult) : Nat := result.reports.length + result.failures.length

def error? (result : BuildResult) : Option CommandError :=
  if result.failures.isEmpty then none
  else some (.failedTables result.failures.length result.total)

end BuildResult

structure CheckResult where
  entries : List (TableName × Except ContentError Schema)

namespace CheckResult

def failed (result : CheckResult) : Nat := result.entries.countP (fun (_, outcome) => !outcome.isOk)

def error? (result : CheckResult) : Option CommandError :=
  if result.failed = 0 then none else some (.failedChecks result.failed result.entries.length)

end CheckResult

structure Inspection where
  asset : Path
  size : Nat
  format : BlobFormat
  fingerprint : Fingerprint
  records : List Record

namespace Inspection

/-- The records with an identifier if one is asked for, and then at least one of them. -/
def pick (table : TableName) (id : Option Int) (records : List Record) :
    Except CommandError (List Record) :=
  match id with
  | none => .ok records
  | some id =>
    let found := records.filter (fun record => record.id.toInt = id)
    if found.isEmpty then .error (.noRow table id) else .ok found

def ofBlob (settings : TableSettings) (schema : Schema) (id : Option Int) (format : BlobFormat)
    (blob : List UInt8) : Except CommandError Inspection := do
  let records ← (schema.rowLayout.decode format blob).mapError (.undecodedAsset settings.output)
  let found ← pick settings.name id records
  return ⟨settings.output, blob.length, format, schema.fingerprint, found⟩

end Inspection

namespace Manifest

/-- The settings of a table that is named on a command line. -/
def named (manifest : Manifest) (text : String) : Except CommandError TableSettings := do
  let name ← (TableName.parse text).mapError (.badTable text)
  (manifest.settings name).mapError .content

def select (manifest : Manifest) (texts : List String) : Except CommandError (List TableSettings) :=
  if texts.isEmpty then manifest.allSettings.mapError .content else texts.mapM manifest.named

variable {m : Type → Type} [Monad m] [FileAccess m]

def build (manifest : Manifest) (texts : List String) : ExceptT CommandError m BuildResult := do
  let tables ← ExceptT.mk (pure (manifest.select texts))
  return .ofEntries (← ExceptT.lift (compileAll .standard tables))

def check (manifest : Manifest) (texts : List String) : ExceptT CommandError m CheckResult := do
  let tables ← ExceptT.mk (pure (manifest.select texts))
  return ⟨← ExceptT.lift (checkAll .standard tables)⟩

def readAsset (settings : TableSettings) : ExceptT CommandError m (List UInt8) := do
  if !(← FileAccess.contains (m := m) settings.output) then
    throw (.noAsset settings.name settings.output)
  match ← FileAccess.read (m := m) settings.output with
  | .ok blob => return blob
  | .error fault => throw (.unreadAsset settings.output fault)

def schemaOf (settings : TableSettings) : ExceptT CommandError m Schema :=
  (settings.check .standard).adapt .content

def inspect (manifest : Manifest) (text : String) (id : Option Int) (format : Option BlobFormat) :
    ExceptT CommandError m Inspection := do
  let settings ← ExceptT.mk (pure (manifest.named text))
  let schema ← schemaOf settings
  let blob ← readAsset settings
  ExceptT.mk (pure (Inspection.ofBlob settings schema id (format.getD settings.format) blob))

def strings (manifest : Manifest) (text : String) :
    ExceptT CommandError m (TableName × StringPool) := do
  let settings ← ExceptT.mk (pure (manifest.named text))
  let compiled ← (settings.compileInMemory .standard).adapt .content
  return (settings.name, compiled.pool)

def schema (manifest : Manifest) (text : String) : ExceptT CommandError m Schema := do
  let settings ← ExceptT.mk (pure (manifest.named text))
  schemaOf settings

end Manifest

end GameSheet
