import GameSheet.Content.Compile

/-!
A library of assets: the directory that holds them and the types that their fields have. Tables are
loaded from their assets, or straight from their sources.
-/

namespace GameSheet

structure AssetLibrary where
  directory : Path
  registry : TypeRegistry

namespace AssetLibrary

def assetPath (library : AssetLibrary) (name : TableName) : Path :=
  library.directory.join ⟨name.assetFile⟩

def layout (library : AssetLibrary) (kind : TableKind) : Except ContentError RowLayout :=
  (kind.layout library.registry).mapError .badRowLayout

def index (name : TableName) (kind : TableKind) (policy : DuplicateIdPolicy)
    (records : List Record) : Except ContentError (DataTable kind.Row) :=
  (kind.build policy records).mapError (.unindexed name)

def records (library : AssetLibrary) (name : TableName) (layout : RowLayout) (format : BlobFormat)
    (blob : List UInt8) : Except ContentError (List Record) :=
  (layout.decode format blob).mapError (.undecoded (library.assetPath name))

/-- A typed table from its source text. A cell that does not parse is an error, whatever its column's
default is. -/
def tableOfText (library : AssetLibrary) (settings : TableSettings) (kind : TableKind)
    (text : String) : Except ContentError (DataTable kind.Row) := do
  let sheet ← (Sheet.load settings.options settings.layout text).mapError (.badSource settings.source)
  let schema ← (Schema.build sheet settings.layout library.registry).mapError
    (.noSchema settings.name)
  let expected ← library.layout kind
  let records ← (schema.records sheet expected).mapError (.unreadText settings.name)
  index settings.name kind settings.duplicateIds records

structure Request where
  name : TableName
  format : BlobFormat
  policy : DuplicateIdPolicy
  deriving DecidableEq, Repr

variable {m : Type → Type} [Monad m] [FileAccess m]

def loadTable (library : AssetLibrary) (kind : TableKind) (request : Request) :
    ExceptT ContentError m (DataTable kind.Row) := do
  let layout ← ExceptT.mk (pure (library.layout kind))
  let blob ← readBytes (library.assetPath request.name)
  ExceptT.mk (pure (do
    let records ← library.records request.name layout request.format blob
    index request.name kind request.policy records))

/-- The table of the kind that its name says. -/
def loadKind (library : AssetLibrary) (request : Request) : ExceptT ContentError m LoadedTable := do
  let kind ← ExceptT.mk (pure (request.name.kind.mapError ContentError.badName))
  let table ← library.loadTable kind request
  return ⟨kind, table⟩

def loadText (library : AssetLibrary) (settings : TableSettings) (kind : TableKind) :
    ExceptT ContentError m (DataTable kind.Row) := do
  let text ← readText settings.source
  ExceptT.mk (pure (library.tableOfText settings kind text))

/-- Loads tables one after another into a catalog. -/
def loadCatalog (library : AssetLibrary) (requests : List Request) :
    ExceptT ContentError m Catalog :=
  requests.foldlM (fun catalog request => do
    let loaded ← library.loadKind request
    match (Catalog.insert request.name loaded).run catalog with
    | .ok _ next => return next
    | .error fault _ => throw (.uncatalogued fault)) .empty

end AssetLibrary

end GameSheet
