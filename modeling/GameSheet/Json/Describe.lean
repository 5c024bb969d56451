import GameSheet.Content.Compile
import GameSheet.Json.Basic

/-!
What tables, schemas and reports look like in JSON. A value stands under the name of its type, a record
is an object of its fields, and an absent default or comment of a column is left out.
-/

namespace GameSheet

open Number (FloatFormat FloatStyle IntegerKind)

namespace Json

/-- A number without a finite value is null. -/
def float (format : FloatFormat) (bits : Nat) : Json :=
  if format.isNan bits || format.isInfinite bits then null
  else number (format.text (.json format) bits)

def single (bits : UInt32) : Json := float .single bits.toNat

def double (bits : UInt64) : Json := float .double bits.toNat

def optional {α : Type} (describe : α → Json) : Option α → Json
  | some value => describe value
  | none => null

/-- A field that is left out when it is absent. -/
def ifPresent (name : String) : Option String → List (String × Json)
  | some text => [(name, string text)]
  | none => []

end Json

def Number.IntegerKind.typeName : IntegerKind → String
  | .byte => "U8"
  | .sbyte => "I8"
  | .short => "I16"
  | .ushort => "U16"
  | .int => "I32"
  | .uint => "U32"
  | .long => "I64"
  | .ulong => "U64"

def FloatShape.typeName : FloatShape → String
  | .vector2 => "Vector2"
  | .vector3 => "Vector3"
  | .vector4 => "Vector4"
  | .quaternion => "Quaternion"
  | .rect => "Rect"
  | .color => "Color"

namespace Value

def typeName : Value → String
  | bool _ => "Bool"
  | integer kind _ => kind.typeName
  | float _ => "F32"
  | double _ => "F64"
  | char _ => "Char"
  | string _ => "String"
  | datetime _ => "Timestamp"
  | tuple shape _ => shape.typeName
  | color32 .. => "Color32"

def content : Value → Json
  | bool flag => .bool flag
  | integer _ n => .ofInt n.toInt
  | float bits => .single bits
  | double bits => .double bits
  | char c => .string c.toString
  | string text => .string text
  | datetime ticks => .object [("ticks", .ofInt ticks.toInt)]
  | tuple shape components => .object (shape.components.zip (components.toList.map Json.single))
  | color32 r g b a =>
    .object [("r", .ofInt r.toInt), ("g", .ofInt g.toInt), ("b", .ofInt b.toInt),
      ("a", .ofInt a.toInt)]

def json (value : Value) : Json := .object [(value.typeName, value.content)]

end Value

def Record.json (record : Record) : Json :=
  .object (record.fields.map (fun (name, value) => (name, value.json)))

def FallbackNotice.json (notice : FallbackNotice) : Json :=
  .object [("row", .ofNat notice.site.row), ("column", .ofNat notice.site.column),
    ("name", .string notice.site.name), ("type_keyword", .string notice.site.typeKeyword),
    ("raw_text", .string notice.site.rawText), ("default_value", .string notice.defaultText),
    ("reason", .string notice.reason.message)]

def TableReport.json (report : TableReport) : Json :=
  .object [("name", .string report.name.text), ("output", .string report.output.text),
    ("rows", .ofNat report.rows), ("bytes", .ofNat report.bytes),
    ("pool_size", .ofNat report.poolSize), ("format", .string report.format.name),
    ("fingerprint", .string report.fingerprint.text),
    ("fallbacks", .array (report.fallbacks.map FallbackNotice.json))]

def StringPool.json (pool : StringPool) : Json :=
  .object [("entries", .array (pool.entries.map (fun (text, count) =>
    .array [.string text, .ofNat count])))]

def Column.json (column : Column) : Json :=
  .object ([("index", .ofNat column.index), ("name", .string column.name),
    ("type_keyword", .string column.typeKeyword), ("is_identifier", .bool column.isIdentifier),
    ("is_comment", .bool column.isComment), ("is_string", .bool column.isString)] ++
    Json.ifPresent "default_value" column.default ++ Json.ifPresent "comment" column.comment)

def SheetLayout.json (layout : SheetLayout) : Json :=
  .object [("name_row", .ofNat layout.nameRow), ("type_row", .ofNat layout.typeRow),
    ("default_row", Json.optional .ofNat layout.defaultRow),
    ("comment_row", Json.optional .ofNat layout.commentRow),
    ("content_start_row", .ofNat layout.contentStart), ("id_column", .ofNat layout.idColumn)]

def Schema.json (schema : Schema) : Json :=
  .object [("columns", .array (schema.columns.map Column.json)), ("layout", schema.layout.json),
    ("fingerprint", .string schema.fingerprint.text)]

end GameSheet
