import GameSheet.Schema.RowLayout
import GameSheet.Sheet.Layout

/-!
Schemas: one codec for each column of a sheet. The identifier column is named `Id` and has the
identifier codec whatever its type cell says. A column without a name, or with a comment type, is a
comment: it stays in the schema and is absent from the rows. An unknown type is an error only in a
column with a name.
-/

namespace GameSheet

structure Column where
  index : Nat
  name : String
  codec : Codec
  isIdentifier : Bool
  isComment : Bool
  /-- What stands in for a cell that cannot be encoded; never empty. -/
  default : Option String
  comment : Option String

namespace Column

def typeKeyword (column : Column) : String := column.codec.keyword

def isString (column : Column) : Bool := !column.isComment && column.codec.isString

def field (column : Column) : Field := ⟨column.name, column.index, column.codec⟩

/-- The codec of a column that does not identify the rows. -/
def codecOf (registry : TypeRegistry) (index : Nat) (name keyword : String) :
    Except SchemaError Codec :=
  match registry.resolve keyword with
  | .ok codec => .ok codec
  | .error cause => if name = "" then .ok .comment else .error (.unknownType index name cause)

def note (sheet : Sheet) (row : Option Nat) (index : Nat) : Option String :=
  (row.map (fun row => (sheet.cell? row index).getD "")).filter (fun text => text ≠ "")

def ofSheet (sheet : Sheet) (layout : SheetLayout) (registry : TypeRegistry) (index : Nat) :
    Except SchemaError Column := do
  let isIdentifier := decide (index = layout.idColumn)
  let name := if isIdentifier then identifierName else (sheet.cell? layout.nameRow index).getD ""
  let codec ← if isIdentifier then pure registry.identifier
    else codecOf registry index name ((sheet.cell? layout.typeRow index).getD "")
  return {
    index := index
    name := name
    codec := codec
    isIdentifier := isIdentifier
    isComment := !isIdentifier && (name == "" || codec.isComment)
    default := note sheet layout.defaultRow index
    comment := note sheet layout.commentRow index }

end Column

structure Schema where
  columns : List Column
  rowLayout : RowLayout
  layout : SheetLayout

namespace Schema

def build (sheet : Sheet) (layout : SheetLayout) (registry : TypeRegistry) :
    Except SchemaError Schema := do
  layout.validate sheet
  let columns ← (List.range sheet.columnCount).mapM (Column.ofSheet sheet layout registry)
  let encoded := columns.filter (fun column => !column.isComment)
  let rowLayout ← RowLayout.ofFields (encoded.map Column.field)
  return ⟨columns, rowLayout, layout⟩

/-- The columns that rows are made of, in index order. -/
def encodedColumns (schema : Schema) : List Column :=
  schema.columns.filter (fun column => !column.isComment)

def fingerprint (schema : Schema) : Fingerprint := schema.rowLayout.fingerprint

/-- A capital ASCII letter, then ASCII letters, digits and underscores. -/
def isProperName (name : String) : Bool :=
  match name.toList with
  | first :: rest => first.isUpper && rest.all (fun c => c.isAlphanum || c == '_')
  | [] => false

/-- Checks columns in order against the names that were seen before them. -/
def checkNamesFrom : List (String × Nat) → List Column → Except SchemaError Unit
  | _, [] => .ok ()
  | seen, column :: rest =>
    if isProperName column.name then
      match seen.lookup column.name with
      | some first => .error (.duplicateColumnName column.name first column.index)
      | none => checkNamesFrom ((column.name, column.index) :: seen) rest
    else .error (.invalidColumnName column.index column.name)

/-- Names that code can be generated from: proper ones, each of them once. -/
def checkNames (schema : Schema) : Except SchemaError Unit :=
  checkNamesFrom [] schema.encodedColumns

end Schema

end GameSheet
