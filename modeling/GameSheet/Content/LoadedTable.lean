import GameSheet.Content.Rows
import GameSheet.Schema.RowLayout
import GameSheet.Table.DataTable

/-!
Typed tables. Records are indexed before they are converted, so only the rows that stay in the table
can fail to convert.
-/

namespace GameSheet

inductive RowBuildError where
  | index (cause : IndexError)
  | field (cause : FieldError)
  deriving DecidableEq, Repr

namespace TableKind

def layout (kind : TableKind) (registry : TypeRegistry) : Except SchemaError RowLayout :=
  RowLayout.declare registry kind.columns

def build (kind : TableKind) (policy : DuplicateIdPolicy) (records : List Record) :
    Except RowBuildError (DataTable kind.Row) := do
  let indexed ← (DataTable.ofRows (fun record => record.id.toInt) policy records).mapError .index
  (indexed.mapRows kind.rowOfRecord).mapError .field

end TableKind

structure LoadedTable where
  kind : TableKind
  table : DataTable kind.Row

/-- The table, if it is of the kind that is asked for. -/
def LoadedTable.as? (loaded : LoadedTable) (kind : TableKind) : Option (DataTable kind.Row) :=
  if same : loaded.kind = kind then some (same ▸ loaded.table) else none

end GameSheet
