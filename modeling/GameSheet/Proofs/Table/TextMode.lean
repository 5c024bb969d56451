import GameSheet.Proofs.Table.RoundTrip

/-!
Reading a sheet without encoding it. Both ways go through the same columns in the same order, and
one has no defaults: it has records exactly where the other took no default, and where a default was
taken it ends at the first. A sheet of another width than its schema's is not encoded, while as text
its missing cells read as empty.
-/

namespace GameSheet

open Wire

/-- A reading without defaults succeeds where there are no notices; otherwise it fails as the first
notice says. -/
def Agrees {α : Type} (result : Except DecodeError α) : List FallbackNotice → Prop
  | [] => ∃ value, result = .ok value
  | notice :: _ => ∃ reason, notice.reason = .parse reason ∧
      result = .error (.textCell notice.site.row notice.site.name reason)

namespace Agrees

variable {α β : Type}

theorem bind {result : Except DecodeError α} {notices : List FallbackNotice}
    {next : α → Except DecodeError β} (agrees : Agrees result notices)
    (goesOn : ∀ value, result = .ok value → ∃ last, next value = .ok last) :
    Agrees (result >>= next) notices := by
  cases notices with
  | nil =>
    obtain ⟨value, done⟩ := agrees
    obtain ⟨last, finished⟩ := goesOn value done
    exact ⟨last, Traversal.bind_eq_ok.mpr ⟨value, done, finished⟩⟩
  | cons notice rest =>
    obtain ⟨reason, same, failed⟩ := agrees
    refine ⟨reason, same, ?_⟩
    rw [failed]
    rfl

theorem mapM {f : α → Except DecodeError β} {items : List α} {notices : List (List FallbackNotice)}
    (each : List.Forall₂ (fun item taken => Agrees (f item) taken) items notices) :
    Agrees (items.mapM f) notices.flatten := by
  induction each with
  | nil => exact ⟨[], rfl⟩
  | @cons item taken items notices first _ ih =>
    rw [List.mapM_cons, List.flatten_cons]
    cases taken with
    | nil =>
      obtain ⟨value, done⟩ := first
      rw [done, List.nil_append]
      exact ih.bind (fun later _ => ⟨value :: later, rfl⟩)
    | cons notice rest =>
      obtain ⟨reason, same, failed⟩ := first
      refine ⟨reason, same, ?_⟩
      rw [failed]
      rfl

end Agrees

namespace Encode

variable {index : Nat} {column : Column} {text : String}

/-- Where a standard codec has a value for a short text, it also has bytes. -/
theorem contribution_of_parsed {type : ColumnType} (known : column.codec = type.codec)
    (short : (Text.Utf8.encode text.toList).length < 2 ^ 32) {value : Value}
    (parsed : column.codec.parse text = .ok value) :
    ∃ bytes, contribution index column text = .ok (bytes, none) ∧
      column.codec.read.Yields bytes value := by
  have standard := parsed
  rw [known] at standard
  obtain ⟨bytes, written⟩ := type.codec_writes short standard
  have faithful := type.codec_faithful
  rw [← known] at written faithful
  refine ⟨bytes, ?_, faithful value bytes written⟩
  rw [contribution, Codec.wire_eq_ok.mpr ⟨value, parsed, written⟩]

theorem contribution_agrees {type : ColumnType} (known : column.codec = type.codec)
    (short : (Text.Utf8.encode text.toList).length < 2 ^ 32)
    {part : List UInt8 × Option FallbackNotice}
    (contributed : contribution index column text = .ok part) :
    Agrees ((column.codec.parse text).mapError (.textCell index column.name)) part.2.toList := by
  cases parsed : column.codec.parse text with
  | ok value =>
    have valued : ∃ bytes, contribution index column text = .ok (bytes, none) ∧
        column.codec.read.Yields bytes value := contribution_of_parsed known short parsed
    obtain ⟨bytes, again, _⟩ := valued
    rw [again] at contributed
    rw [← Except.ok.inj contributed]
    exact ⟨value, rfl⟩
  | error reason =>
    have failed : column.codec.wire text = .error (.parse reason) := by
      rw [Codec.wire, parsed]
      rfl
    cases settles_iff.mpr contributed with
    | cell encoded =>
      rw [failed] at encoded
      simp at encoded
    | fallback refused =>
      rw [failed, Except.error.injEq] at refused
      exact ⟨reason, refused.symm, rfl⟩

end Encode

namespace Column

theorem CodecFrom.standard {codec : Codec} (origin : CodecFrom .standard codec) :
    ∃ type : ColumnType, codec = type.codec := by
  rcases origin with rfl | rfl | ⟨key, member⟩
  · exact ⟨.id, rfl⟩
  · exact ⟨.comment, rfl⟩
  · exact TypeRegistry.standard_codecs member

end Column

namespace Schema

variable {source sheet : Sheet} {layout : SheetLayout} {schema : Schema}

structure Short (schema : Schema) (row : Nat × List String) : Prop where
  strings : ∀ text ∈ row.2, (Text.Utf8.encode text.toList).length < 2 ^ 32
  bytes : ∀ bytes, (Encode.row schema row.1 row.2).result = .ok bytes → bytes.length < 2 ^ 32

instance (schema : Schema) (row : Nat × List String) : Decidable (schema.Short row) :=
  decidable_of_iff ((∀ text ∈ row.2, (Text.Utf8.encode text.toList).length < 2 ^ 32) ∧
      ∀ bytes ∈ (Encode.row schema row.1 row.2).result.toOption, bytes.length < 2 ^ 32) (by
    constructor
    · intro given
      rcases given with ⟨strings, bytes⟩
      exact ⟨strings, fun found encoded => bytes found (by rw [encoded]; rfl)⟩
    · intro given
      rcases given with ⟨strings, bytes⟩
      refine ⟨strings, ?_⟩
      intro found encoded
      cases result : (Encode.row schema row.1 row.2).result with
      | error fault => simp [result, Except.toOption] at encoded
      | ok taken =>
        rw [result] at encoded
        rw [← Option.some.inj encoded]
        exact bytes taken result)

def recordOf (schema : Schema) (row : Nat × List String) : Except DecodeError Record := do
  let values ← schema.rowLayout.fields.mapM (RowLayout.parseField row.1 row.2)
  schema.rowLayout.record row.1 values

theorem records_eq : schema.records sheet schema.rowLayout =
    (sheet.contentRows schema.layout.contentStart).mapM schema.recordOf := by
  rw [records, fingerprint, if_pos rfl]
  rfl

theorem parseFields_eq (built : build source layout .standard = .ok schema) (row : Nat × List String) :
    schema.rowLayout.fields.mapM (RowLayout.parseField row.1 row.2) =
      schema.encodedColumns.mapM (fun column =>
        (column.codec.parse (row.2.getD column.index "")).mapError (.textCell row.1 column.name)) := by
  rw [fields_eq built, List.mapM_map]
  rfl

theorem exists_record (built : build source layout .standard = .ok schema)
    {row : Nat × List String} {values : List Value}
    (parsed : List.Forall₂ (fun column value =>
      column.codec.parse (row.2.getD column.index "") = .ok value) schema.encodedColumns values) :
    ∃ record, schema.rowLayout.record row.1 values = .ok record := by
  obtain ⟨identifier, place, _, _, codec, _⟩ := getElem?_identifier built
  obtain ⟨value, found, read⟩ := Traversal.forall₂_getElem? parsed place
  rw [codec] at read
  obtain ⟨id, _, rfl⟩ := Traversal.map_eq_ok.mp read
  exact ⟨⟨id, schema.rowLayout.names, values⟩, RowLayout.record_eq_ok.mpr ⟨found, rfl, rfl⟩⟩

/-- What the columns of a row of full width and their short cells have in common. -/
theorem standard_cell (built : build source layout .standard = .ok schema) {row : Nat × List String}
    (width : row.2.length = schema.columns.length) (short : schema.Short row) :
    ∀ column ∈ schema.encodedColumns, (∃ type : ColumnType, column.codec = type.codec) ∧
      (Text.Utf8.encode (row.2.getD column.index "").toList).length < 2 ^ 32 := by
  intro column member
  have cell := getElem?_cell built width member
  exact ⟨(codecFrom_of_mem built member).standard, short.strings _ (List.mem_of_getElem? cell)⟩

theorem recordOf_agrees (built : build source layout .standard = .ok schema)
    {row : Nat × List String} (short : schema.Short row) {framed : List UInt8 × List FallbackNotice}
    (done : Encode.framed schema row.1 row.2 = .ok framed) :
    Agrees (schema.recordOf row) framed.2 := by
  obtain ⟨frame, notices⟩ := framed
  obtain ⟨width, parts, related, _, _, rfl⟩ := (Encode.framed_eq_ok built).mp done
  have each : List.Forall₂ (fun column taken => Agrees
      ((column.codec.parse (row.2.getD column.index "")).mapError (.textCell row.1 column.name)) taken)
      schema.encodedColumns (parts.map (fun part => part.2.toList)) := by
    rw [List.forall₂_map_right_iff]
    apply Traversal.forall₂_imp_of_mem related
    intro column member part contributed
    obtain ⟨⟨type, known⟩, small⟩ := standard_cell built width short column member
    exact Encode.contribution_agrees known small contributed
  rw [recordOf, parseFields_eq built, List.flatMap_def]
  apply (Agrees.mapM each).bind
  intro values read
  apply exists_record built
  apply (Traversal.mapM_eq_ok.mp read).imp
  intro column value parsed
  exact Traversal.mapError_eq_ok.mp parsed

theorem framed_of_recordOf (built : build source layout .standard = .ok schema)
    {row : Nat × List String} (width : row.2.length = schema.columns.length)
    (short : schema.Short row) {record : Record} (read : schema.recordOf row = .ok record) :
    ∃ form : Frame.Form, Encode.framed schema row.1 row.2 = .ok (form.bytes, []) ∧
      schema.rowLayout.Decodes form.row record := by
  rw [recordOf, parseFields_eq built] at read
  obtain ⟨values, parsed, made⟩ := Traversal.bind_eq_ok.mp read
  have each : List.Forall₂ (fun column value => ∃ bytes,
      Encode.contribution row.1 column (row.2.getD column.index "") = .ok (bytes, none) ∧
        column.codec.read.Yields bytes value) schema.encodedColumns values := by
    apply Traversal.forall₂_imp_of_mem (Traversal.mapM_eq_ok.mp parsed)
    intro column member value cell
    obtain ⟨⟨type, known⟩, small⟩ := standard_cell built width short column member
    exact Encode.contribution_of_parsed known small (Traversal.mapError_eq_ok.mp cell)
  obtain ⟨chosen, rfl, facts⟩ := Traversal.forall₂_choose each
  let pairs : List ((List UInt8 × Option FallbackNotice) × Value) :=
    chosen.map (fun pair => ((pair.2, none), pair.1))
  have related : List.Forall₂ (fun column part =>
      Encode.contribution row.1 column (row.2.getD column.index "") = .ok part)
      schema.encodedColumns (pairs.map Prod.fst) := by
    rw [List.map_map, List.forall₂_map_right_iff]
    exact facts.imp (fun column pair holds => holds.1)
  have yields : List.Forall₂ (fun column pair => column.codec.read.Yields pair.1.1 pair.2)
      schema.encodedColumns pairs := by
    rw [List.forall₂_map_right_iff]
    exact facts.imp (fun column pair holds => holds.2)
  have values : pairs.map Prod.snd = chosen.map Prod.fst := List.map_map
  have silent : (pairs.map Prod.fst).flatMap (fun part => part.2.toList) = [] := by
    rw [List.flatMap_map, List.flatMap_map]
    exact List.flatMap_eq_nil_iff.mpr (fun pair _ => rfl)
  have encoded := (Encode.row_eq_ok built).mpr ⟨width, _, related, rfl, rfl⟩
  have room := short.bytes _ (by rw [encoded])
  refine ⟨.ofRow _ room, ?_, ?_⟩
  · exact (Encode.framed_eq_ok built).mpr ⟨width, _, related, room, rfl, silent.symm⟩
  · apply decodes_of_contributions built yields
    rw [values]
    exact RowLayout.record_eq_ok.mp made

/-- Content rows of another width than the schema's are not encoded. -/
theorem encode_other_width (other : sheet.columnCount ≠ schema.columns.length)
    {row : Nat × List String} {rest : List (Nat × List String)}
    (content : sheet.contentRows schema.layout.contentStart = row :: rest) (format : BlobFormat) :
    schema.encode sheet format =
      .error (.rowWidth row.1 schema.columns.length sheet.columnCount) := by
  have member : row ∈ sheet.contentRows schema.layout.contentStart := by
    rw [content]
    exact List.mem_cons_self
  have width := Sheet.length_of_contentRows member
  have refused : Encode.framed schema row.1 row.2 =
      .error (.rowWidth row.1 schema.columns.length sheet.columnCount) := by
    rw [Encode.framed, Encode.row, width, if_neg other]
    rfl
  rw [encode, content, List.mapM_cons]
  simp only [refused]
  rfl

def Fits (schema : Schema) (sheet : Sheet) : Prop :=
  sheet.contentRows schema.layout.contentStart = [] ∨ sheet.columnCount = schema.columns.length

theorem fits_of_encode {format : BlobFormat} {table : EncodedTable}
    (encoded : schema.encode sheet format = .ok table) : schema.Fits sheet := by
  cases content : sheet.contentRows schema.layout.contentStart with
  | nil => exact Or.inl content
  | cons row rest =>
    right
    by_contra other
    rw [encode_other_width other content format] at encoded
    cases encoded

theorem Fits.width (fits : schema.Fits sheet) :
    ∀ row ∈ sheet.contentRows schema.layout.contentStart,
      row.2.length = schema.columns.length := by
  intro row member
  rcases fits with empty | same
  · rw [empty] at member
    cases member
  · rw [Sheet.length_of_contentRows member, same]

theorem encode_of_records (built : build source layout .standard = .ok schema)
    {content : List (Nat × List String)} {records : List Record}
    (width : ∀ row ∈ content, row.2.length = schema.columns.length)
    (short : ∀ row ∈ content, schema.Short row)
    (read : List.Forall₂ (fun row record => schema.recordOf row = .ok record) content records) :
    ∃ forms : List Frame.Form,
      List.Forall₂ (fun row framed => Encode.framed schema row.1 row.2 = .ok framed) content
        (forms.map (fun form => (form.bytes, []))) ∧
      List.Forall₂ (fun form record => schema.rowLayout.Decodes form.row record) forms records := by
  induction read with
  | nil => exact ⟨[], List.Forall₂.nil, List.Forall₂.nil⟩
  | @cons row record content records first _ ih =>
    obtain ⟨form, framed, decodes⟩ := framed_of_recordOf built
      (width row List.mem_cons_self) (short row List.mem_cons_self) first
    obtain ⟨forms, rest, decoded⟩ := ih
      (fun other member => width other (List.mem_cons_of_mem row member))
      (fun other member => short other (List.mem_cons_of_mem row member))
    exact ⟨form :: forms, .cons framed rest, .cons decodes decoded⟩

theorem encode_records (built : build source layout .standard = .ok schema)
    (fits : schema.Fits sheet)
    (short : ∀ row ∈ sheet.contentRows schema.layout.contentStart, schema.Short row)
    {records : List Record} (read : schema.records sheet schema.rowLayout = .ok records)
    (format : BlobFormat) :
    ∃ table, schema.encode sheet format = .ok table ∧ table.fallbacks = [] ∧
      schema.rowLayout.decode format table.blob = .ok records := by
  rw [records_eq, Traversal.mapM_eq_ok] at read
  obtain ⟨forms, framed, decoded⟩ :=
    encode_of_records built fits.width short read
  have silent : (forms.map (fun form => (form.bytes, ([] : List FallbackNotice)))).flatMap
      Prod.snd = [] := by
    rw [List.flatMap_map]
    exact List.flatMap_eq_nil_iff.mpr (fun form _ => rfl)
  refine ⟨_, encode_eq_ok.mpr ⟨_, framed, rfl⟩, silent, ?_⟩
  rw [fingerprint, RowLayout.decode_header, List.flatMap_map]
  exact RowLayout.decode_raw_eq_ok.mpr ⟨forms, rfl, decoded⟩

theorem records_agrees (built : build source layout .standard = .ok schema)
    (short : ∀ row ∈ sheet.contentRows schema.layout.contentStart, schema.Short row)
    {format : BlobFormat} {table : EncodedTable} (encoded : schema.encode sheet format = .ok table) :
    Agrees (schema.records sheet schema.rowLayout) table.fallbacks := by
  obtain ⟨rows, framed, rfl⟩ := encode_eq_ok.mp encoded
  rw [records_eq, List.flatMap_def]
  apply Agrees.mapM
  rw [List.forall₂_map_right_iff]
  apply Traversal.forall₂_imp_of_mem framed
  intro row member result done
  exact recordOf_agrees built (short row member) done

/-- Under standard codecs a sheet is encoded with no notice exactly when it has records in text and,
unless it has no content rows, is as wide as its schema; then the blob has the same records. Where
defaults were taken, the text fails at the cell of the first notice and for its reason. A sheet of
another width fails at its first content row. -/
theorem text_matches_blob (built : build source layout .standard = .ok schema)
    (short : ∀ row ∈ sheet.contentRows layout.contentStart, schema.Short row) (format : BlobFormat) :
    ((∃ table, schema.encode sheet format = .ok table ∧ table.fallbacks = []) ↔
        (∃ records, schema.records sheet schema.rowLayout = .ok records) ∧
          (sheet.contentRows layout.contentStart = [] ∨
            sheet.columnCount = schema.columns.length)) ∧
      (∀ records table, schema.records sheet schema.rowLayout = .ok records →
        schema.encode sheet format = .ok table →
        schema.rowLayout.decode format table.blob = .ok records) ∧
      (∀ table notice rest, schema.encode sheet format = .ok table →
        table.fallbacks = notice :: rest → ∃ reason, notice.reason = .parse reason ∧
          schema.records sheet schema.rowLayout =
            .error (.textCell notice.site.row notice.site.name reason)) ∧
      ∀ row rest, sheet.contentRows layout.contentStart = row :: rest →
        sheet.columnCount ≠ schema.columns.length →
        schema.encode sheet format =
          .error (.rowWidth row.1 schema.columns.length sheet.columnCount) := by
  rw [← (build_eq_ok built).2.2.2] at short ⊢
  refine ⟨⟨?_, ?_⟩, ?_, ?_, ?_⟩
  · intro ⟨table, encoded, silent⟩
    have agrees := records_agrees built short encoded
    rw [silent] at agrees
    exact ⟨agrees, fits_of_encode encoded⟩
  · intro ⟨⟨records, read⟩, fits⟩
    obtain ⟨table, encoded, silent, _⟩ := encode_records built fits short read format
    exact ⟨table, encoded, silent⟩
  · intro records table read encoded
    obtain ⟨same, again, _, decoded⟩ :=
      encode_records built (fits_of_encode encoded) short read format
    rw [encoded] at again
    rwa [← Except.ok.inj again] at decoded
  · intro table notice rest encoded taken
    have agrees := records_agrees built short encoded
    rwa [taken] at agrees
  · exact fun row rest content other => encode_other_width other content format

def countSheet : Sheet where
  rows := [["Id", "Count"], ["id", "int"], ["", "0"], ["1", "5"], ["2", "many"]]
  columnCount := 2
  rectangular := by simp

def countLayout : SheetLayout := ⟨0, 1, some 2, none, 3, 0⟩

theorem text_matches_blob_at_default : ∃ schema table,
    build countSheet countLayout .standard = .ok schema ∧
      schema.encode countSheet .fingerprinted = .ok table ∧ table.fallbacks.length = 1 ∧
      schema.records countSheet schema.rowLayout =
        .error (.textCell 4 "Count" (.invalid "int" "many")) := by
  have runs : ((build countSheet countLayout .standard).toOption.bind (fun schema =>
      (schema.encode countSheet .fingerprinted).toOption.map (fun table => (table.fallbacks,
        decide (∀ row ∈ countSheet.contentRows countLayout.contentStart, schema.Short row))))) =
      some ([⟨⟨4, 1, "Count", "int", "many"⟩, "0", .parse (.invalid "int" "many")⟩], true) := by
    decide +kernel
  cases built : build countSheet countLayout .standard with
  | error fault => simp [built, Except.toOption] at runs
  | ok schema =>
    cases encoded : schema.encode countSheet .fingerprinted with
    | error fault => simp [built, encoded, Except.toOption] at runs
    | ok table =>
      simp only [built, encoded, Except.toOption, Option.bind_some, Option.map_some,
        Option.some.injEq, Prod.mk.injEq, decide_eq_true_eq] at runs
      obtain ⟨taken, short⟩ := runs
      obtain ⟨_, _, first, _⟩ := text_matches_blob built short .fingerprinted
      obtain ⟨reason, same, failed⟩ := first table _ [] encoded taken
      rw [← CellFailure.parse.inj same] at failed
      exact ⟨schema, table, rfl, encoded, by rw [taken]; rfl, failed⟩

def labelSheet : Sheet where
  rows := [["Id", "Label"], ["id", "string"]]
  columnCount := 2
  rectangular := by simp

def labelLayout : SheetLayout := ⟨0, 1, none, none, 2, 0⟩

def narrowSheet : Sheet where
  rows := [["Id"], ["id"], ["7"]]
  columnCount := 1
  rectangular := by simp

/-- A missing label reads as an empty one, and no encoding has it. -/
theorem text_without_blob : ∃ schema records,
    build labelSheet labelLayout .standard = .ok schema ∧
      (∀ row ∈ narrowSheet.contentRows labelLayout.contentStart, schema.Short row) ∧
      schema.records narrowSheet schema.rowLayout = .ok records ∧
      records.map (fun record => record.values.map Value.text) = [["7", ""]] ∧
      ∀ format, schema.encode narrowSheet format = .error (.rowWidth 2 2 1) := by
  have runs : (build labelSheet labelLayout .standard).toOption.bind (fun schema =>
      (schema.records narrowSheet schema.rowLayout).toOption.bind (fun records =>
        some (records.map (fun record => record.values.map Value.text),
          schema.columns.length, schema.layout,
          decide (∀ row ∈ narrowSheet.contentRows labelLayout.contentStart, schema.Short row)))) =
      some ([["7", ""]], 2, labelLayout, true) := by decide +kernel
  have content : narrowSheet.contentRows labelLayout.contentStart = [(2, ["7"])] := by
    decide +kernel
  obtain ⟨schema, built, runs⟩ := Traversal.toOption_bind_eq_some.mp runs
  obtain ⟨records, read, runs⟩ := Traversal.toOption_bind_eq_some.mp runs
  simp only [Option.some.injEq, Prod.mk.injEq, decide_eq_true_eq] at runs
  obtain ⟨texts, columns, layout, short⟩ := runs
  refine ⟨schema, records, built, short, read, texts, fun format => ?_⟩
  have other : narrowSheet.columnCount ≠ schema.columns.length := by
    rw [columns]
    decide
  rw [← layout] at content
  rw [encode_other_width other content format, columns]
  rfl

end Schema

end GameSheet
