import GameSheet.Content.LoadedTable
import GameSheet.Content.TableName

/-!
Every loaded table under its name. A table goes in once, under a name whose type is its kind.
-/

namespace GameSheet

inductive CatalogError where
  | badName (cause : TableNameError)
  | kindMismatch (name : TableName) (expected found : TableKind)
  | alreadyLoaded (name : TableName)
  deriving DecidableEq, Repr

namespace CatalogError

def code : CatalogError → String
  | badName cause => cause.code
  | kindMismatch .. => "KIND_MISMATCH"
  | alreadyLoaded _ => "ALREADY_LOADED"

def message : CatalogError → String
  | badName cause => cause.message
  | kindMismatch name expected found =>
    s!"table {name.text} holds {expected.name} rows, got a {found.name} table"
  | alreadyLoaded name => s!"table {name.text} is already registered"

end CatalogError

structure Catalog where
  tables : OrderedMap TableName LoadedTable

namespace Catalog

def empty : Catalog := ⟨.empty⟩

/-- Puts a table in after the name, the kind and the place have been looked at, in this order. -/
def insert (name : TableName) (loaded : LoadedTable) : EStateM CatalogError Catalog Unit := do
  let expected ← MonadExcept.ofExcept (name.kind.mapError .badName)
  if loaded.kind ≠ expected then throw (.kindMismatch name expected loaded.kind)
  if (← get).tables.contains name then throw (.alreadyLoaded name)
  modify (fun catalog => ⟨catalog.tables.insert name loaded⟩)

/-- Puts in a table whose kind is known. -/
def insertTable {kind : TableKind} (name : TableName) (table : DataTable kind.Row) :
    EStateM CatalogError Catalog Unit :=
  insert name ⟨kind, table⟩

def loaded? (catalog : Catalog) (name : TableName) : Option LoadedTable := catalog.tables.get? name

/-- The table under a name, if it is of the kind that is asked for. -/
def get? (catalog : Catalog) (kind : TableKind) (name : TableName) : Option (DataTable kind.Row) :=
  (catalog.loaded? name).bind (fun loaded => loaded.as? kind)

def table? (catalog : Catalog) (kind : TableKind) : Option (DataTable kind.Row) :=
  catalog.get? kind (TableName.ofKind kind)

def contains (catalog : Catalog) (name : TableName) : Bool := catalog.tables.contains name

def size (catalog : Catalog) : Nat := catalog.tables.size

def names (catalog : Catalog) : List TableName := catalog.tables.keys

end Catalog

end GameSheet
