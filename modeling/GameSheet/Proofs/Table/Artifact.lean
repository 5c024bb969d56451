import GameSheet.Proofs.Table.RoundTrip
import GameSheet.Table.StringPool

/-!
What an artifact depends on. The blob, its errors and notices, and the string pool are computed once
more from the columns that are no comments, without their places, and from the cells that the content
rows have in them. Every sheet comes to that form up to the numbers of its rows and columns, so two
sheets with the same columns and cells have the same artifact.
-/

namespace GameSheet

def CellSite.unnumbered (site : CellSite) : CellSite := { site with row := 0, column := 0 }

def FallbackNotice.unnumbered (notice : FallbackNotice) : FallbackNotice :=
  { notice with site := notice.site.unnumbered }

namespace EncodeError

/-- The error without the numbers that say where it is. -/
def unnumbered : EncodeError → EncodeError
  | invalidCell site reason => invalidCell site.unnumbered reason
  | invalidDefault site defaultText reason => invalidDefault site.unnumbered defaultText reason
  | rowWidth _ expected found => rowWidth 0 expected found
  | rowTooLarge _ length => rowTooLarge 0 length

end EncodeError

def RowOutcome.unnumbered (outcome : RowOutcome) : RowOutcome :=
  ⟨outcome.notices.map FallbackNotice.unnumbered, outcome.result.mapError EncodeError.unnumbered⟩

def EncodedTable.unnumbered (table : EncodedTable) : EncodedTable :=
  { table with fallbacks := table.fallbacks.map FallbackNotice.unnumbered }

def Encode.unnumbered (result : Except EncodeError EncodedTable) : Except EncodeError EncodedTable :=
  (result.map EncodedTable.unnumbered).mapError EncodeError.unnumbered

namespace Column

def bare (column : Column) : Column :=
  { column with index := 0, isComment := false, comment := none }

structure Agrees (column other : Column) : Prop where
  name : column.name = other.name
  codec : column.codec = other.codec
  default : column.default = other.default
  isIdentifier : column.isIdentifier = other.isIdentifier

theorem bare_eq_iff {column other : Column} : column.bare = other.bare ↔ column.Agrees other := by
  constructor
  · intro same
    simp only [bare, Column.mk.injEq, true_and, and_true] at same
    exact ⟨same.1, same.2.1, same.2.2.2, same.2.2.1⟩
  · intro agrees
    simp only [bare, agrees.name, agrees.codec, agrees.default, agrees.isIdentifier]

end Column

namespace Encode

def unnumberedPart (part : List UInt8 × Option FallbackNotice) :
    List UInt8 × Option FallbackNotice :=
  (part.1, part.2.map FallbackNotice.unnumbered)

theorem contribution_bare (row : Nat) (column : Column) (text : String) :
    contribution 0 column.bare text =
      ((contribution row column text).map unnumberedPart).mapError EncodeError.unnumbered := by
  unfold contribution Column.bare
  simp only
  cases column.codec.wire text with
  | ok bytes => rfl
  | error reason =>
    cases column.isIdentifier with
    | true => rfl
    | false =>
      cases column.default with
      | none => rfl
      | some defaultText =>
        simp only
        cases column.codec.wire defaultText <;> rfl

theorem contributions_bare (row : Nat) (pairs : List (Column × String)) :
    contributions 0 (pairs.map (fun pair => (pair.1.bare, pair.2))) =
      (contributions row pairs).unnumbered := by
  induction pairs with
  | nil => rfl
  | cons pair pairs ih =>
    obtain ⟨head, text⟩ := pair
    simp only [List.map_cons, contributions, ih, contribution_bare row head text]
    cases contribution row head text with
    | error fault => rfl
    | ok part =>
      obtain ⟨bytes, notice⟩ := part
      simp only [RowOutcome.unnumbered, Except.map, Except.mapError, unnumberedPart, List.map_append]
      congr 1
      · cases notice <;> rfl
      · cases (contributions row pairs).result <;> rfl

def frameOf (index : Nat) (outcome : RowOutcome) :
    Except EncodeError (List UInt8 × List FallbackNotice) := do
  let bytes ← outcome.result
  if bytes.length < Number.IntegerKind.uint.count then return (Frame.encode bytes, outcome.notices)
  else throw (.rowTooLarge index bytes.length)

def unnumberedFrame (framed : List UInt8 × List FallbackNotice) :
    List UInt8 × List FallbackNotice :=
  (framed.1, framed.2.map FallbackNotice.unnumbered)

theorem frameOf_unnumbered (index : Nat) (outcome : RowOutcome) :
    frameOf 0 outcome.unnumbered =
      ((frameOf index outcome).map unnumberedFrame).mapError EncodeError.unnumbered := by
  obtain ⟨notices, result⟩ := outcome
  cases result with
  | error fault => rfl
  | ok bytes =>
    change (if bytes.length < Number.IntegerKind.uint.count then _ else _) = Except.mapError _
      (Except.map _ (if bytes.length < Number.IntegerKind.uint.count then _ else _))
    split_ifs <;> rfl

def bareFrame (columns : List Column) (cells : List String) :
    Except EncodeError (List UInt8 × List FallbackNotice) :=
  frameOf 0 (contributions 0 (columns.zip cells))

def bareTable (columns : List Column) (content : List (List String)) (format : BlobFormat) :
    Except EncodeError EncodedTable := do
  let fingerprint := Fingerprint.of (columns.map (fun column => (column.name, column.codec.keyword)))
  let rows ← content.mapM (bareFrame columns)
  return {
    blob := format.header fingerprint ++ rows.flatMap Prod.fst
    rows := rows.length
    fallbacks := rows.flatMap Prod.snd
    format := format
    fingerprint := fingerprint }

end Encode

namespace Schema

variable {sheet : Sheet} {layout : SheetLayout} {registry : TypeRegistry} {schema : Schema}

def bareColumns (schema : Schema) : List Column := schema.encodedColumns.map Column.bare

def shownCells (schema : Schema) (cells : List String) : List String :=
  schema.encodedColumns.map (fun column => cells.getD column.index "")

def content (schema : Schema) (sheet : Sheet) : List (List String) :=
  (sheet.contentRows schema.layout.contentStart).map (fun row => schema.shownCells row.2)

theorem zip_shown (built : build sheet layout registry = .ok schema) {cells : List String}
    (width : cells.length = schema.columns.length) :
    schema.bareColumns.zip (schema.shownCells cells) =
      (Encode.pairs schema cells).map (fun pair => (pair.1.bare, pair.2)) := by
  rw [bareColumns, shownCells, List.zip_map', Encode.pairs_eq built width, List.map_map]
  rfl

theorem bareFrame_shown (built : build sheet layout registry = .ok schema) (row : Nat)
    {cells : List String} (width : cells.length = schema.columns.length) :
    Encode.bareFrame schema.bareColumns (schema.shownCells cells) =
      ((Encode.framed schema row cells).map Encode.unnumberedFrame).mapError
        EncodeError.unnumbered := by
  rw [Encode.bareFrame, zip_shown built width, Encode.contributions_bare row, ← Encode.row_eq width,
    Encode.frameOf_unnumbered row]
  rfl

theorem fingerprint_eq (built : build sheet layout registry = .ok schema) :
    schema.fingerprint = Fingerprint.of
      (schema.bareColumns.map (fun column => (column.name, column.codec.keyword))) := by
  rw [fingerprint, RowLayout.fingerprint, RowLayout.signature, fields_eq built, bareColumns,
    List.map_map, List.map_map]
  rfl

theorem bareFrames_content (built : build sheet layout registry = .ok schema) :
    (schema.content sheet).mapM (Encode.bareFrame schema.bareColumns) =
      (((sheet.contentRows schema.layout.contentStart).mapM
        (fun row => Encode.framed schema row.1 row.2)).map
          (List.map Encode.unnumberedFrame)).mapError EncodeError.unnumbered := by
  rw [content]
  apply Traversal.mapM_renamed
  intro row member
  exact bareFrame_shown built row.1 (contentRows_width built row member)

/-- A table is the table of its bare columns and their cells, up to numbers of rows and columns. -/
theorem encode_unnumbered (built : build sheet layout registry = .ok schema) (format : BlobFormat) :
    Encode.unnumbered (schema.encode sheet format) =
      Encode.bareTable schema.bareColumns (schema.content sheet) format := by
  rw [Encode.bareTable, ← fingerprint_eq built, bareFrames_content built, encode]
  cases (sheet.contentRows schema.layout.contentStart).mapM
      (fun row : Nat × List String => Encode.framed schema row.1 row.2) with
  | error fault => rfl
  | ok rows =>
    have frames : (rows.map Encode.unnumberedFrame).flatMap Prod.fst = rows.flatMap Prod.fst :=
      List.flatMap_map ..
    have notices : (rows.map Encode.unnumberedFrame).flatMap Prod.snd =
        (rows.flatMap Prod.snd).map FallbackNotice.unnumbered := by
      rw [List.flatMap_map, List.map_flatMap]
      rfl
    simp only [Encode.unnumbered, Except.map, Except.mapError, bind, Except.bind, pure, Except.pure,
      EncodedTable.unnumbered, frames, notices, List.length_map]

theorem poolCells_eq (built : build sheet layout registry = .ok schema) :
    StringPool.cells sheet schema.columns schema.layout.contentStart =
      (schema.content sheet).flatMap (fun cells => (schema.bareColumns.zip cells).filterMap
        (fun (column, text) => if column.codec.isString then some text else none)) := by
  rw [StringPool.cells, content, List.flatMap_map]
  apply List.flatMap_congr
  intro row member
  have width := contentRows_width built row member
  rw [zip_shown built width, List.filterMap_map]
  exact Encode.counted_pairs built width

/-- The same table, up to the numbers of rows and columns in its errors and notices, and the same
string pool. -/
structure SameArtifact (schema : Schema) (sheet : Sheet) (other : Schema) (revised : Sheet) :
    Prop where
  fingerprint : schema.fingerprint = other.fingerprint
  encode : ∀ format, Encode.unnumbered (schema.encode sheet format) =
    Encode.unnumbered (other.encode revised format)
  pool : StringPool.build sheet schema.columns schema.layout.contentStart =
    StringPool.build revised other.columns other.layout.contentStart

/-- Schemas with the same bare columns give the same artifact for the same cells. -/
theorem sameArtifact {revised : Sheet} {moved : SheetLayout} {other : Schema}
    (built : build sheet layout registry = .ok schema)
    (rebuilt : build revised moved registry = .ok other)
    (columns : schema.bareColumns = other.bareColumns)
    (cells : schema.content sheet = other.content revised) :
    SameArtifact schema sheet other revised where
  fingerprint := by rw [fingerprint_eq built, fingerprint_eq rebuilt, columns]
  encode format := by rw [encode_unnumbered built, encode_unnumbered rebuilt, columns, cells]
  pool := by
    rw [StringPool.build, StringPool.build, poolCells_eq built, poolCells_eq rebuilt, columns, cells]

end Schema

end GameSheet
