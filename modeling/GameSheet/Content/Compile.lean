import GameSheet.Content.Manifest
import GameSheet.Table.StringPool

/-!
From source text to asset. A source compiles when its sheet fits the layout, every type is known, the
column names are proper and every row can be encoded. Only then is the asset written, so a table that
fails leaves its asset as it was, and tables succeed or fail one by one.
-/

namespace GameSheet

structure CompiledTable where
  sheet : Sheet
  schema : Schema
  pool : StringPool
  encoded : EncodedTable

/-- The sheet and schema of a source whose names and types are in order. -/
def checkSource (registry : TypeRegistry) (options : CellOptions) (layout : SheetLayout)
    (text : String) : Except SchemaError (Sheet × Schema) := do
  let sheet ← Sheet.load options layout text
  let schema ← Schema.build sheet layout registry
  schema.checkNames
  return (sheet, schema)

def compileSource (registry : TypeRegistry) (options : CellOptions) (layout : SheetLayout)
    (format : BlobFormat) (text : String) : Except CompileError CompiledTable := do
  let (sheet, schema) ← (checkSource registry options layout text).mapError .schema
  let encoded ← (schema.encode sheet format).mapError .encode
  return ⟨sheet, schema, .build sheet schema.columns schema.layout.contentStart, encoded⟩

structure TableReport where
  name : TableName
  output : Path
  rows : Nat
  bytes : Nat
  poolSize : Nat
  format : BlobFormat
  fingerprint : Fingerprint
  fallbacks : List FallbackNotice
  deriving DecidableEq

namespace TableSettings

def compileText (settings : TableSettings) (registry : TypeRegistry) (text : String) :
    Except ContentError CompiledTable :=
  (compileSource registry settings.options settings.layout settings.format text).mapError
    (.uncompiled settings.name)

def checkText (settings : TableSettings) (registry : TypeRegistry) (text : String) :
    Except ContentError Schema :=
  ((checkSource registry settings.options settings.layout text).map Prod.snd).mapError
    (.unchecked settings.name)

def report (settings : TableSettings) (compiled : CompiledTable) : TableReport where
  name := settings.name
  output := settings.output
  rows := compiled.encoded.rows
  bytes := compiled.encoded.blob.length
  poolSize := compiled.pool.size
  format := compiled.encoded.format
  fingerprint := compiled.encoded.fingerprint
  fallbacks := compiled.encoded.fallbacks

end TableSettings

def decodeText (path : Path) (bytes : List UInt8) : Except ContentError String :=
  match Text.Utf8.decode? bytes with
  | some chars => .ok (String.ofList chars)
  | none => .error (.unreadable path .notText)

section Files

variable {m : Type → Type} [Monad m] [FileAccess m]

def readBytes (path : Path) : ExceptT ContentError m (List UInt8) := do
  match ← FileAccess.read (m := m) path with
  | .ok bytes => return bytes
  | .error fault => throw (.unreadable path fault)

def readText (path : Path) : ExceptT ContentError m String := do
  let bytes ← readBytes path
  ExceptT.mk (pure (decodeText path bytes))

namespace Manifest

def parseFile (file : Path) (text : String) : Except ContentError Manifest :=
  match parse? text with
  | some manifest => .ok (manifest.below file)
  | none => .error (.malformedManifest file)

def load (file : Path) : ExceptT ContentError m Manifest := do
  let text ← readText file
  ExceptT.mk (pure (parseFile file text))

end Manifest

namespace TableSettings

def compileInMemory (settings : TableSettings) (registry : TypeRegistry) :
    ExceptT ContentError m CompiledTable := do
  let text ← readText settings.source
  ExceptT.mk (pure (settings.compileText registry text))

def check (settings : TableSettings) (registry : TypeRegistry) : ExceptT ContentError m Schema := do
  let text ← readText settings.source
  ExceptT.mk (pure (settings.checkText registry text))

def write (settings : TableSettings) (blob : List UInt8) : ExceptT ContentError m Unit := do
  match ← FileAccess.write (m := m) settings.output blob with
  | .ok () => return ()
  | .error fault => throw (.unwritten settings.name fault)

def compile (settings : TableSettings) (registry : TypeRegistry) :
    ExceptT ContentError m TableReport := do
  let compiled ← settings.compileInMemory registry
  settings.write compiled.encoded.blob
  return settings.report compiled

end TableSettings

/-- Runs an action on each table in order; one that fails does not keep the others from running. -/
def forEachTable {α : Type} (action : TableSettings → ExceptT ContentError m α)
    (tables : List TableSettings) : m (List (TableName × Except ContentError α)) :=
  tables.mapM (fun settings => do return (settings.name, ← (action settings).run))

def compileAll (registry : TypeRegistry) (tables : List TableSettings) :
    m (List (TableName × Except ContentError TableReport)) :=
  forEachTable (fun settings => settings.compile registry) tables

def checkAll (registry : TypeRegistry) (tables : List TableSettings) :
    m (List (TableName × Except ContentError Schema)) :=
  forEachTable (fun settings => settings.check registry) tables

end Files

end GameSheet
