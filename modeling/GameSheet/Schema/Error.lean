import GameSheet.Codec.Registry
import GameSheet.Sheet.Basic

/-!
What can be wrong with a sheet's structure. Each of these errors gives up the table before anything
is encoded.
-/

namespace GameSheet

inductive Place where
  | nameRow | typeRow | defaultRow | commentRow | contentStart | idColumn
  deriving DecidableEq, Repr

def Place.label : Place → String
  | nameRow => "name row"
  | typeRow => "type row"
  | defaultRow => "default row"
  | commentRow => "comment row"
  | contentStart => "content start row"
  | idColumn => "id column"

inductive SchemaError where
  | raggedRow (fault : RaggedRow)
  | negativeIndex (place : Place) (value : Int)
  | rowOutOfRange (place : Place) (row rowCount : Nat)
  | contentStartOutOfRange (row rowCount : Nat)
  | columnOutOfRange (column columnCount : Nat)
  | unknownType (column : Nat) (name : String) (cause : LookupError)
  | invalidColumnName (column : Nat) (name : String)
  | duplicateColumnName (name : String) (first second : Nat)
  | identifierCount (found : Nat)
  deriving DecidableEq, Repr

namespace SchemaError

def code : SchemaError → String
  | raggedRow _ => "RAGGED_ROW"
  | negativeIndex .. => "NEGATIVE_INDEX"
  | rowOutOfRange .. => "ROW_OUT_OF_RANGE"
  | contentStartOutOfRange .. => "CONTENT_START_OUT_OF_RANGE"
  | columnOutOfRange .. => "COLUMN_OUT_OF_RANGE"
  | unknownType .. => "UNKNOWN_TYPE"
  | invalidColumnName .. => "INVALID_COLUMN_NAME"
  | duplicateColumnName .. => "DUPLICATE_COLUMN_NAME"
  | identifierCount _ => "IDENTIFIER_COUNT"

def message : SchemaError → String
  | raggedRow fault => s!"row {fault.row} has {fault.found} columns, row 0 has {fault.expected}"
  | negativeIndex place value => s!"{place.label} index {value} is negative"
  | rowOutOfRange place row rowCount =>
    s!"{place.label} {row} is out of range, table has {rowCount} rows"
  | contentStartOutOfRange row rowCount =>
    s!"content start row {row} is past the end of the table ({rowCount} rows)"
  | columnOutOfRange column columnCount =>
    s!"identifier column {column} is out of range, table has {columnCount} columns"
  | unknownType column name cause => s!"column {column} ('{name}'): {cause.message}"
  | invalidColumnName column name => s!"column {column} has invalid name '{name}'"
  | duplicateColumnName name first second =>
    s!"column name '{name}' appears in columns {first} and {second}"
  | identifierCount found => s!"row layout needs exactly one identifier field, found {found}"

def causes : SchemaError → List String
  | unknownType _ _ cause => [cause.message]
  | _ => []

instance : Diagnostic SchemaError where
  severity _ := .fatal
  code := code
  message := message
  causes := causes

end SchemaError

end GameSheet
