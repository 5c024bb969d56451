import GameSheet.Codec.Standard
import GameSheet.Proofs.Schema.Build
import GameSheet.Table.Decode
import GameSheet.Table.Encode

/-!
Which rows of a sheet become records. Both ways from a sheet to its records go over the rows from
the content start on that are no comments. Nothing else is asked of a row, so a row that the layout
reads names, types, defaults or comments from is content as well when it stands among these.
-/

namespace GameSheet

namespace Sheet

variable {sheet : Sheet} {start : Nat}

def contentNumbers (sheet : Sheet) (start : Nat) : List Nat :=
  (List.range sheet.rowCount).filter (fun row => decide (start ≤ row) && !sheet.isCommentRow row)

def cellsAt (sheet : Sheet) (row : Nat) : List String := sheet.rows.getD row []

theorem getElem?_cellsAt (row column : Nat) :
    (sheet.cellsAt row)[column]? = sheet.cell? row column := by
  rw [cellsAt, cell?, List.getD_eq_getElem?_getD]
  cases sheet.rows[row]? <;> rfl

theorem isCommentRow_of_getElem? {row : Nat} {cells : List String}
    (found : sheet.rows[row]? = some cells) : sheet.isCommentRow row = isComment cells := by
  rw [isCommentRow, found]

theorem mem_contentNumbers {row : Nat} :
    row ∈ sheet.contentNumbers start ↔
      start ≤ row ∧ row < sheet.rowCount ∧ sheet.isCommentRow row = false := by
  simp only [contentNumbers, List.mem_filter, List.mem_range, Bool.and_eq_true, decide_eq_true_eq,
    Bool.not_eq_true']
  tauto

theorem contentNumbers_ascending : (sheet.contentNumbers start).Pairwise (· < ·) :=
  List.pairwise_lt_range.filter _

theorem map_fst_contentRows_ascending :
    ((sheet.contentRows start).map Prod.fst).Pairwise (· < ·) := by
  have kept : ((sheet.contentRows start).map Prod.fst).Sublist
      ((sheet.rows.zipIdx.drop start).map Prod.snd) := by
    rw [contentRows, List.map_map]
    exact List.filter_sublist.map Prod.snd
  have whole : ((sheet.rows.zipIdx.drop start).map Prod.snd).Sublist (List.range sheet.rowCount) := by
    rw [List.map_drop, List.zipIdx_map_snd, ← List.range_eq_range']
    exact List.drop_sublist start _
  exact List.pairwise_lt_range.sublist (kept.trans whole)

theorem map_fst_contentRows :
    (sheet.contentRows start).map Prod.fst = sheet.contentNumbers start := by
  -- Ascending lists are determined by their members.
  apply map_fst_contentRows_ascending.eq_of_mem_iff contentNumbers_ascending
  intro row
  rw [mem_contentNumbers, List.mem_map]
  constructor
  · intro given
    rcases given with ⟨⟨place, cells⟩, member, rfl⟩
    obtain ⟨low, found, plain⟩ := mem_contentRows.mp member
    exact ⟨low, (List.getElem?_eq_some_iff.mp found).1, (isCommentRow_of_getElem? found).trans plain⟩
  · intro given
    rcases given with ⟨low, inside, plain⟩
    have found : sheet.rows[row]? = some sheet.rows[row] := List.getElem?_eq_getElem inside
    rw [isCommentRow_of_getElem? found] at plain
    exact ⟨(row, sheet.rows[row]), mem_contentRows.mpr ⟨low, found, plain⟩, rfl⟩

theorem contentRows_eq_map : sheet.contentRows start =
    (sheet.contentNumbers start).map (fun row => (row, sheet.cellsAt row)) := by
  rw [← map_fst_contentRows, List.map_map]
  have each : ∀ row ∈ sheet.contentRows start, (row.1, sheet.cellsAt row.1) = row := by
    rintro ⟨row, cells⟩ member
    obtain ⟨_, found, _⟩ := mem_contentRows.mp member
    rw [cellsAt, List.getD_eq_getElem?_getD, found, Option.getD_some]
  exact (List.map_id' _).symm.trans (List.map_congr_left (fun row member => (each row member).symm))

theorem validate_of_load {options : CellOptions} {layout : SheetLayout} {text : String}
    (loaded : load options layout text = .ok sheet) : layout.validate sheet = .ok () := by
  obtain ⟨parsed, _, rest⟩ := Traversal.bind_eq_ok.mp loaded
  obtain ⟨_, valid, same⟩ := Traversal.bind_eq_ok.mp rest
  rwa [← Except.ok.inj same]

end Sheet

namespace SheetLayout

variable {sheet : Sheet} {layout : SheetLayout}

def metadataNumbers (layout : SheetLayout) : List Nat := layout.metadataRows.map Prod.snd

theorem metadataNumbers_lt (valid : layout.validate sheet = .ok ()) {row : Nat}
    (metadata : row ∈ layout.metadataNumbers) : row < sheet.rowCount := by
  obtain ⟨place, member, rfl⟩ := List.mem_map.mp metadata
  exact (validate_eq_ok.mp valid).1 place member

end SheetLayout

namespace Schema

variable {sheet : Sheet} {layout : SheetLayout} {registry : TypeRegistry} {schema : Schema}

def frameAt (schema : Schema) (sheet : Sheet) (row : Nat) :
    Except EncodeError (List UInt8 × List FallbackNotice) :=
  Encode.framed schema row (sheet.cellsAt row)

def recordAt (schema : Schema) (sheet : Sheet) (expected : RowLayout) (row : Nat) :
    Except DecodeError Record := do
  let values ← schema.rowLayout.fields.mapM (RowLayout.parseField row (sheet.cellsAt row))
  expected.record row values

def tableOf (schema : Schema) (format : BlobFormat)
    (frames : List (List UInt8 × List FallbackNotice)) : EncodedTable where
  blob := format.header schema.fingerprint ++ frames.flatMap Prod.fst
  rows := frames.length
  fallbacks := frames.flatMap Prod.snd
  format := format
  fingerprint := schema.fingerprint

theorem encode_eq_mapM (schema : Schema) (sheet : Sheet) (format : BlobFormat) :
    schema.encode sheet format =
      ((sheet.contentNumbers schema.layout.contentStart).mapM (schema.frameAt sheet)).map
        (schema.tableOf format) := by
  rw [encode, Sheet.contentRows_eq_map, List.mapM_map]
  rfl

theorem records_eq_mapM (schema : Schema) (sheet : Sheet) (expected : RowLayout) :
    schema.records sheet expected =
      if schema.fingerprint = expected.fingerprint then
        (sheet.contentNumbers schema.layout.contentStart).mapM (schema.recordAt sheet expected)
      else .error (.layoutMismatch expected.fingerprint schema.fingerprint) := by
  rw [records, Sheet.contentRows_eq_map, List.mapM_map]
  rfl

/-- Encoder and text decoder go over the rows from the content start on that are no comments, in
order, and over no others. A row of the layout's own is among them exactly when it is one of these
itself. -/
theorem processes_content_rows {options : CellOptions} {text : String}
    (loaded : Sheet.load options layout text = .ok sheet)
    (built : build sheet layout registry = .ok schema) :
    let rows := sheet.contentNumbers layout.contentStart
    (∀ row, row ∈ rows ↔ layout.contentStart ≤ row ∧ row < sheet.rowCount ∧
        sheet.isCommentRow row = false) ∧
      rows.Pairwise (· < ·) ∧
      (∀ format, schema.encode sheet format =
        (rows.mapM (schema.frameAt sheet)).map (schema.tableOf format)) ∧
      (∀ expected, schema.records sheet expected =
        if schema.fingerprint = expected.fingerprint then
          rows.mapM (schema.recordAt sheet expected)
        else .error (.layoutMismatch expected.fingerprint schema.fingerprint)) ∧
      (∀ row ∈ layout.metadataNumbers,
        row ∉ rows ↔ row < layout.contentStart ∨ sheet.isCommentRow row = true) := by
  intro rows
  have own : schema.layout = layout := (build_eq_ok built).2.2.2
  have valid : layout.validate sheet = .ok () := Sheet.validate_of_load loaded
  refine ⟨fun row => Sheet.mem_contentNumbers, Sheet.contentNumbers_ascending, ?_, ?_, ?_⟩
  · intro format
    rw [encode_eq_mapM, own]
  · intro expected
    rw [records_eq_mapM, own]
  · intro row metadata
    have inside := SheetLayout.metadataNumbers_lt valid metadata
    rw [Sheet.mem_contentNumbers]
    cases sheet.isCommentRow row <;> simp [inside]

def markedLayout : SheetLayout := ⟨0, 1, some 2, none, 1, 1⟩

def markedText : String :=
  "#\tId\tX\n#\tid\tint\n#\t\t5\n\t1\t2\n#\t9\t9\n\t2\tmany\n"

theorem processes_content_rows_marked : ∃ sheet schema,
    Sheet.load .standard markedLayout markedText = .ok sheet ∧
      build sheet markedLayout .standard = .ok schema ∧ sheet.contentNumbers 1 = [3, 5] ∧
      (∀ format, schema.encode sheet format =
        ([3, 5].mapM (schema.frameAt sheet)).map (schema.tableOf format)) ∧
      ∀ row ∈ markedLayout.metadataNumbers, row ∉ [3, 5] := by
  have runs : (Sheet.load .standard markedLayout markedText).toOption.bind (fun sheet =>
      (build sheet markedLayout .standard).toOption.map (fun _ => (sheet.contentNumbers 1,
        decide (∀ row ∈ markedLayout.metadataNumbers,
          row < markedLayout.contentStart ∨ sheet.isCommentRow row = true)))) =
      some ([3, 5], true) := by decide +kernel
  obtain ⟨sheet, loaded, rest⟩ := Traversal.toOption_bind_eq_some.mp runs
  obtain ⟨schema, built, same⟩ := Option.map_eq_some_iff.mp rest
  obtain ⟨numbers, apart⟩ := Prod.mk.inj same
  have built := Traversal.toOption_eq_some.mp built
  obtain ⟨_, _, encodes, _, own⟩ := processes_content_rows loaded built
  rw [show markedLayout.contentStart = 1 from rfl, numbers] at encodes own
  exact ⟨sheet, schema, loaded, built, numbers, encodes,
    fun row member => (own row member).mpr (of_decide_eq_true apart row member)⟩

def earlyLayout : SheetLayout := ⟨0, 1, some 2, none, 2, 0⟩

def earlyText : String := "Id\tX\nid\tint\n7\t5\n1\t2\n"

theorem default_row_is_record : ∃ sheet schema table records,
    Sheet.load .standard earlyLayout earlyText = .ok sheet ∧
      build sheet earlyLayout .standard = .ok schema ∧ 2 ∈ earlyLayout.metadataNumbers ∧
      (sheet.contentNumbers 2).filter (· ∉ earlyLayout.metadataNumbers) = [3] ∧
      schema.encode sheet .raw = .ok table ∧ table.rows = 2 ∧ table.blob = [2, 7, 5, 2, 1, 2] ∧
      schema.records sheet schema.rowLayout = .ok records ∧
      records.map (fun record => record.id.toInt) = [7, 1] := by
  have runs : (Sheet.load .standard earlyLayout earlyText).toOption.bind (fun sheet =>
      (build sheet earlyLayout .standard).toOption.bind (fun schema =>
        (schema.encode sheet .raw).toOption.bind (fun table =>
          (schema.records sheet schema.rowLayout).toOption.map (fun records =>
            ((sheet.contentNumbers 2).filter (· ∉ earlyLayout.metadataNumbers), table.rows,
              table.blob, records.map (fun record => record.id.toInt)))))) =
      some ([3], 2, [2, 7, 5, 2, 1, 2], [7, 1]) := by decide +kernel
  obtain ⟨sheet, loaded, rest⟩ := Traversal.toOption_bind_eq_some.mp runs
  obtain ⟨schema, built, rest⟩ := Traversal.toOption_bind_eq_some.mp rest
  obtain ⟨table, encoded, rest⟩ := Traversal.toOption_bind_eq_some.mp rest
  obtain ⟨records, read, same⟩ := Option.map_eq_some_iff.mp rest
  simp only [Prod.mk.injEq] at same
  exact ⟨sheet, schema, table, records, loaded, built, by decide, same.1, encoded, same.2.1,
    same.2.2.1, Traversal.toOption_eq_some.mp read, same.2.2.2⟩

end Schema

end GameSheet
