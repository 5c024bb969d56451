import GameSheet.Schema.Error

/-!
Where a sheet keeps its column names, types, defaults and comments, where its content starts and
which column identifies the rows. Indices count from zero.
-/

namespace GameSheet

structure SheetLayout where
  nameRow : Nat
  typeRow : Nat
  defaultRow : Option Nat
  commentRow : Option Nat
  contentStart : Nat
  idColumn : Nat
  deriving DecidableEq, Repr

/-- A layout as people write it, with signed indices. -/
structure SignedLayout where
  nameRow : Int
  typeRow : Int
  defaultRow : Option Int
  commentRow : Option Int
  contentStart : Int
  idColumn : Int
  deriving DecidableEq, Repr

/-- Row 0 and column 0 are left to number signs; names, types and comments follow. -/
def SheetLayout.standard : SheetLayout := ⟨1, 2, none, some 3, 4, 1⟩

namespace SignedLayout

def index (place : Place) (value : Int) : Except SchemaError Nat :=
  if value < 0 then .error (.negativeIndex place value) else .ok value.toNat

def optionalIndex (place : Place) : Option Int → Except SchemaError (Option Nat)
  | none => .ok none
  | some value => (index place value).map some

/-- The first negative index is refused. -/
def check (signed : SignedLayout) : Except SchemaError SheetLayout := do
  let nameRow ← index .nameRow signed.nameRow
  let typeRow ← index .typeRow signed.typeRow
  let defaultRow ← optionalIndex .defaultRow signed.defaultRow
  let commentRow ← optionalIndex .commentRow signed.commentRow
  let contentStart ← index .contentStart signed.contentStart
  let idColumn ← index .idColumn signed.idColumn
  return ⟨nameRow, typeRow, defaultRow, commentRow, contentStart, idColumn⟩

end SignedLayout

namespace SheetLayout

/-- The metadata rows in the order in which they are checked. -/
def metadataRows (layout : SheetLayout) : List (Place × Nat) :=
  [(.nameRow, layout.nameRow), (.typeRow, layout.typeRow)] ++
    (layout.defaultRow.map (Place.defaultRow, ·)).toList ++
    (layout.commentRow.map (Place.commentRow, ·)).toList

def validate (layout : SheetLayout) (sheet : Sheet) : Except SchemaError Unit := do
  match layout.metadataRows.find? (fun (_, row) => sheet.rowCount ≤ row) with
  | some (place, row) => throw (.rowOutOfRange place row sheet.rowCount)
  | none => pure ()
  if sheet.rowCount < layout.contentStart then
    throw (.contentStartOutOfRange layout.contentStart sheet.rowCount)
  if sheet.columnCount ≤ layout.idColumn then
    throw (.columnOutOfRange layout.idColumn sheet.columnCount)

end SheetLayout

/-- A sheet that the layout fits. -/
def Sheet.load (options : CellOptions) (layout : SheetLayout) (text : String) :
    Except SchemaError Sheet := do
  let sheet ← (Sheet.parse options text).mapError .raggedRow
  layout.validate sheet
  return sheet

end GameSheet
