import GameSheet.Content.Error
import GameSheet.Toml.Document

/-!
Manifests say where tables live and how they are laid out. Every table has the defaults except for
what its own entry sets; a table without an entry has the defaults alone. A manifest holds no names
but the ones below, and a record may be written as a table of its fields or as an array of them in
order.
-/

namespace GameSheet

/-- What tables share unless their entries say otherwise. Indices are signed, so that a negative one
is an error of the layout. -/
structure TableDefaults where
  delimiter : Char
  /-- Each of these characters is trimmed off both ends of a cell. -/
  trim : String
  layout : SignedLayout
  format : BlobFormat
  duplicateIds : DuplicateIdPolicy
  deriving DecidableEq, Repr

def TableDefaults.standard : TableDefaults :=
  ⟨'\t', "\"", ⟨1, 2, none, some 3, 4, 1⟩, .raw, .reject⟩

structure TableEntry where
  name : TableName
  /-- Where the source is, below the directory of sources. -/
  source : Option Path
  delimiter : Option Char
  trim : Option String
  nameRow : Option Int
  typeRow : Option Int
  defaultRow : Option Int
  commentRow : Option Int
  contentStart : Option Int
  idColumn : Option Int
  format : Option BlobFormat
  duplicateIds : Option DuplicateIdPolicy
  deriving DecidableEq, Repr

def TableEntry.plain (name : TableName) : TableEntry :=
  ⟨name, none, none, none, none, none, none, none, none, none, none, none⟩

structure Manifest where
  sourceDir : Path
  outputDir : Path
  defaults : TableDefaults
  tables : List TableEntry
  deriving DecidableEq, Repr

structure TableSettings where
  name : TableName
  source : Path
  output : Path
  options : CellOptions
  layout : SheetLayout
  format : BlobFormat
  duplicateIds : DuplicateIdPolicy
  deriving DecidableEq, Repr

namespace Toml.Datum

def text? : Datum → Option String
  | string text => some text
  | _ => none

def int? : Datum → Option Int
  | integer n => some n.toInt
  | _ => none

def char? : Datum → Option Char
  | string text =>
    match text.toList with
    | [c] => some c
    | _ => none
  | _ => none

def path? (value : Datum) : Option Path := value.text?.map Path.mk

def name? (value : Datum) : Option TableName := do
  match TableName.parse (← value.text?) with
  | .ok name => return name
  | .error _ => none

/-- One of some words, as it is or as the only key of a table with nothing under it. -/
def word? : Datum → Option String
  | string text => some text
  | table [(word, table [])] => some word
  | table [(word, array [])] => some word
  | _ => none

def format? (value : Datum) : Option BlobFormat := do
  let word ← value.word?
  [BlobFormat.raw, .fingerprinted].find? (fun format => format.name = word)

def policy? (value : Datum) : Option DuplicateIdPolicy := do
  let word ← value.word?
  [DuplicateIdPolicy.reject, .override].find? (fun policy => policy.name = word)

/-- The fields of a record with the given names. -/
def fields? (names : List String) : Datum → Option (List (String × Datum))
  | table entries =>
    if entries.all (fun (name, _) => names.contains name) then some entries else none
  | array items => some (names.zip items)
  | _ => none

end Toml.Datum

open Toml (Datum)

/-- Reads a field if it is there; it fails on a value of the wrong form. -/
def readField {α : Type} (fields : List (String × Datum)) (name : String)
    (read : Datum → Option α) : Option (Option α) :=
  match fields.lookup name with
  | none => some none
  | some value => (read value).map some

namespace TableDefaults

def fieldNames : List String :=
  ["delimiter", "trim", "name_row", "type_row", "default_row", "comment_row", "content_start_row",
    "id_column", "format", "duplicate_ids"]

def ofToml? (value : Datum) : Option TableDefaults := do
  let fields ← value.fields? fieldNames
  let usual := TableDefaults.standard
  return {
    delimiter := (← readField fields "delimiter" Datum.char?).getD usual.delimiter
    trim := (← readField fields "trim" Datum.text?).getD usual.trim
    layout := {
      nameRow := (← readField fields "name_row" Datum.int?).getD usual.layout.nameRow
      typeRow := (← readField fields "type_row" Datum.int?).getD usual.layout.typeRow
      defaultRow := (← readField fields "default_row" Datum.int?) <|> usual.layout.defaultRow
      commentRow := (← readField fields "comment_row" Datum.int?) <|> usual.layout.commentRow
      contentStart :=
        (← readField fields "content_start_row" Datum.int?).getD usual.layout.contentStart
      idColumn := (← readField fields "id_column" Datum.int?).getD usual.layout.idColumn }
    format := (← readField fields "format" Datum.format?).getD usual.format
    duplicateIds := (← readField fields "duplicate_ids" Datum.policy?).getD usual.duplicateIds }

end TableDefaults

namespace TableEntry

def fieldNames : List String := "name" :: "source" :: TableDefaults.fieldNames

def ofToml? (value : Datum) : Option TableEntry := do
  let fields ← value.fields? fieldNames
  return {
    name := ← ← readField fields "name" Datum.name?
    source := ← readField fields "source" Datum.path?
    delimiter := ← readField fields "delimiter" Datum.char?
    trim := ← readField fields "trim" Datum.text?
    nameRow := ← readField fields "name_row" Datum.int?
    typeRow := ← readField fields "type_row" Datum.int?
    defaultRow := ← readField fields "default_row" Datum.int?
    commentRow := ← readField fields "comment_row" Datum.int?
    contentStart := ← readField fields "content_start_row" Datum.int?
    idColumn := ← readField fields "id_column" Datum.int?
    format := ← readField fields "format" Datum.format?
    duplicateIds := ← readField fields "duplicate_ids" Datum.policy? }

end TableEntry

namespace Manifest

/-- The file that is looked for when no other is named. -/
def standardFile : Path := ⟨"tables.toml"⟩

def fieldNames : List String := ["source_dir", "output_dir", "defaults", "tables"]

def entriesOfToml? : Datum → Option (List TableEntry)
  | .array items => items.mapM TableEntry.ofToml?
  | _ => none

def parse? (text : String) : Option Manifest := do
  let fields ← (Datum.table (← Toml.parse? text)).fields? fieldNames
  return {
    sourceDir := (← readField fields "source_dir" Datum.path?).getD ⟨"source"⟩
    outputDir := (← readField fields "output_dir" Datum.path?).getD ⟨"bytes"⟩
    defaults := (← readField fields "defaults" TableDefaults.ofToml?).getD .standard
    tables := (← readField fields "tables" entriesOfToml?).getD [] }

/-- The manifest with its directories taken from the directory that it lies in. -/
def below (manifest : Manifest) (file : Path) : Manifest :=
  let base := file.parent?.getD ⟨""⟩
  { manifest with
    sourceDir := base.join manifest.sourceDir
    outputDir := base.join manifest.outputDir }

def overrideDirs (manifest : Manifest) (sourceDir outputDir : Option Path) : Manifest :=
  { manifest with
    sourceDir := sourceDir.getD manifest.sourceDir
    outputDir := outputDir.getD manifest.outputDir }

def entry? (manifest : Manifest) (name : TableName) : Option TableEntry :=
  manifest.tables.find? (fun entry => entry.name = name)

def layoutOf (defaults : SignedLayout) (entry : TableEntry) : SignedLayout where
  nameRow := entry.nameRow.getD defaults.nameRow
  typeRow := entry.typeRow.getD defaults.typeRow
  defaultRow := entry.defaultRow <|> defaults.defaultRow
  commentRow := entry.commentRow <|> defaults.commentRow
  contentStart := entry.contentStart.getD defaults.contentStart
  idColumn := entry.idColumn.getD defaults.idColumn

def resolve (manifest : Manifest) (entry : TableEntry) : Except ContentError TableSettings := do
  let defaults := manifest.defaults
  let layout ← (layoutOf defaults.layout entry).check.mapError (.badLayout entry.name)
  return {
    name := entry.name
    source := manifest.sourceDir.join (entry.source.getD ⟨entry.name.sourceFile⟩)
    output := manifest.outputDir.join ⟨entry.name.assetFile⟩
    options := ⟨entry.delimiter.getD defaults.delimiter, (entry.trim.getD defaults.trim).toList⟩
    layout := layout
    format := entry.format.getD defaults.format
    duplicateIds := entry.duplicateIds.getD defaults.duplicateIds }

def settings (manifest : Manifest) (name : TableName) : Except ContentError TableSettings :=
  manifest.resolve ((manifest.entry? name).getD (.plain name))

def allSettings (manifest : Manifest) : Except ContentError (List TableSettings) :=
  manifest.tables.mapM manifest.resolve

end Manifest

end GameSheet
