import GameSheet.Proofs.Codec.Registry
import GameSheet.Proofs.Table.Contribution
import GameSheet.Proofs.Table.Rows

/-!
What was encoded decodes. The records of an encoded sheet are its content rows in order: every field
is the value of its cell, or of the column's default where the cell has no bytes, and the identifier
is the value of the identifier cell.
-/

namespace GameSheet

open Wire

theorem Column.CodecFrom.readsBack {registry : TypeRegistry} {codec : Codec}
    (lawful : registry.Lawful) (origin : CodecFrom registry codec) : codec.ReadsBack := by
  rcases origin with rfl | rfl | ⟨key, member⟩
  · exact (ColumnType.codec_faithful .id).readsBack
  · exact (ColumnType.codec_faithful .comment).readsBack
  · exact lawful key codec member

/-- The value that a column puts into a row for a cell: the cell's own, or the default's where the
cell cannot be encoded. -/
def Column.Ships (column : Column) (text : String) (value : Value) : Prop :=
  (column.codec.Encodes text → column.codec.parse text = .ok value) ∧
    (¬column.codec.Encodes text → ∃ defaultText, column.default = some defaultText ∧
      column.codec.parse defaultText = .ok value)

structure Schema.Ships (schema : Schema) (cells : List String) (record : Record) : Prop where
  names : record.names = schema.encodedColumns.map Column.name
  values : List.Forall₂ (fun column value => ∃ text, cells[column.index]? = some text ∧
    column.Ships text value) schema.encodedColumns record.values
  identifier : ∃ text, cells[schema.layout.idColumn]? = some text ∧
    Codec.id.parse text = .ok (.integer .int record.id)

namespace Encode

variable {index : Nat} {column : Column} {text : String}
  {part : List UInt8 × Option FallbackNotice}

theorem contribution_identifier (identifies : column.isIdentifier = true)
    (contributed : contribution index column text = .ok part) : column.codec.Encodes text := by
  cases settles_iff.mpr contributed with
  | cell encoded => exact Codec.encodes_iff.mpr ⟨_, encoded⟩
  | fallback _ plain => simp [identifies] at plain

theorem contribution_yields (reads : column.codec.ReadsBack)
    (contributed : contribution index column text = .ok part) :
    ∃ value, column.Ships text value ∧ column.codec.read.Yields part.1 value := by
  cases settles_iff.mpr contributed with
  | cell encoded =>
    obtain ⟨value, parsed, written⟩ := Codec.wire_eq_ok.mp encoded
    refine ⟨value, ⟨fun _ => parsed, ?_⟩, reads text value _ parsed written⟩
    intro refused
    exact absurd ⟨value, _, parsed, written⟩ refused
  | @fallback _ defaultText _ failed _ given encoded =>
    have refused := Codec.not_encodes failed
    obtain ⟨value, parsed, written⟩ := Codec.wire_eq_ok.mp encoded
    refine ⟨value, ⟨fun encodes => absurd encodes refused, ?_⟩,
      reads defaultText value _ parsed written⟩
    intro _
    exact ⟨defaultText, given, parsed⟩

end Encode

namespace Schema

variable {source sheet : Sheet} {layout : SheetLayout} {registry : TypeRegistry} {schema : Schema}

theorem decodes_of_contributions (built : build source layout registry = .ok schema)
    {chosen : List ((List UInt8 × Option FallbackNotice) × Value)} {record : Record}
    (yields : List.Forall₂ (fun column pair => column.codec.read.Yields pair.1.1 pair.2)
      schema.encodedColumns chosen)
    (holds : schema.rowLayout.Holds (chosen.map Prod.snd) record) :
    schema.rowLayout.Decodes ((chosen.map Prod.fst).flatMap Prod.fst) record := by
  let parts : List (List UInt8 × Value) := chosen.map (fun pair => (pair.1.1, pair.2))
  have read : List.Forall₂ (fun field part => field.codec.read.Yields part.1 part.2)
      schema.rowLayout.fields parts := by
    rw [fields_eq built, List.forall₂_map_left_iff, List.forall₂_map_right_iff]
    exact yields
  have values : parts.map Prod.snd = chosen.map Prod.snd := List.map_map
  have bytes : parts.flatMap Prod.fst = (chosen.map Prod.fst).flatMap Prod.fst := by
    rw [List.flatMap_map, List.flatMap_map]
  rw [← values] at holds
  rw [← bytes]
  exact RowLayout.decodes_of_yields read holds

theorem contributions_ship (lawful : registry.Lawful)
    (built : build source layout registry = .ok schema) {index : Nat} {cells : List String}
    {parts : List (List UInt8 × Option FallbackNotice)}
    (related : List.Forall₂ (fun column part =>
      Encode.contribution index column (cells.getD column.index "") = .ok part)
      schema.encodedColumns parts) :
    ∃ chosen : List ((List UInt8 × Option FallbackNotice) × Value), chosen.map Prod.fst = parts ∧
      List.Forall₂ (fun column pair =>
        Encode.contribution index column (cells.getD column.index "") = .ok pair.1 ∧
          column.Ships (cells.getD column.index "") pair.2 ∧
          column.codec.read.Yields pair.1.1 pair.2) schema.encodedColumns chosen := by
  have each : List.Forall₂ (fun column part => ∃ value,
      Encode.contribution index column (cells.getD column.index "") = .ok part ∧
        column.Ships (cells.getD column.index "") value ∧ column.codec.read.Yields part.1 value)
      schema.encodedColumns parts := by
    apply Traversal.forall₂_imp_of_mem related
    intro column member part contributed
    have reads := (codecFrom_of_mem built member).readsBack lawful
    obtain ⟨value, ships, yields⟩ := Encode.contribution_yields reads contributed
    exact ⟨value, contributed, ships, yields⟩
  exact Traversal.forall₂_choose each

theorem rowLayout_names (built : build source layout registry = .ok schema) :
    schema.rowLayout.names = schema.encodedColumns.map Column.name := by
  rw [RowLayout.names, fields_eq built, List.map_map]
  rfl

theorem framed_decodes (lawful : registry.Lawful)
    (built : build source layout registry = .ok schema) {index : Nat} {cells : List String}
    {frame : List UInt8} {notices : List FallbackNotice}
    (framed : Encode.framed schema index cells = .ok (frame, notices)) :
    ∃ (form : Frame.Form) (record : Record), frame = form.bytes ∧
      schema.rowLayout.Decodes form.row record ∧ schema.Ships cells record := by
  obtain ⟨width, parts, related, short, rfl, _⟩ := (Encode.framed_eq_ok built).mp framed
  obtain ⟨chosen, rfl, facts⟩ := contributions_ship lawful built related
  -- The identifier has no default, so what it ships is the value of its own cell.
  obtain ⟨identifier, place, located, identifies, codec, _⟩ := getElem?_identifier built
  obtain ⟨⟨part, value⟩, found, contributed, ships, _⟩ := Traversal.forall₂_getElem? facts place
  have parsed := ships.1 (Encode.contribution_identifier identifies contributed)
  rw [codec, located] at parsed
  obtain ⟨id, _, rfl⟩ := Traversal.map_eq_ok.mp parsed
  let record : Record := ⟨id, schema.rowLayout.names, chosen.map Prod.snd⟩
  have holds : schema.rowLayout.Holds (chosen.map Prod.snd) record := by
    refine ⟨?_, rfl, rfl⟩
    rw [List.getElem?_map, found]
    rfl
  refine ⟨.ofRow _ short, record, rfl, ?_, ⟨rowLayout_names built, ?_, ?_⟩⟩
  · exact decodes_of_contributions built (facts.imp (fun column pair given => given.2.2)) holds
  · rw [List.forall₂_map_right_iff]
    apply Traversal.forall₂_imp_of_mem facts
    intro column member pair given
    exact ⟨_, getElem?_cell built width member, given.2.1⟩
  · have cell := getElem?_cell built width (List.mem_of_getElem? place)
    rw [located] at cell
    rw [(build_eq_ok built).2.2.2]
    exact ⟨_, cell, parsed⟩

theorem framed_stream (lawful : registry.Lawful)
    (built : build source layout registry = .ok schema) {content : List (Nat × List String)}
    {rows : List (List UInt8 × List FallbackNotice)}
    (framed : List.Forall₂ (fun row result => Encode.framed schema row.1 row.2 = .ok result)
      content rows) :
    ∃ forms records, rows.flatMap Prod.fst = Frame.stream forms ∧
      List.Forall₂ (fun form record => schema.rowLayout.Decodes form.row record) forms records ∧
      List.Forall₂ (fun row record => schema.Ships row.2 record) content records := by
  induction framed with
  | nil => exact ⟨[], [], rfl, List.Forall₂.nil, List.Forall₂.nil⟩
  | cons first _ ih =>
    obtain ⟨form, record, frame, decodes, ships⟩ := framed_decodes lawful built first
    obtain ⟨forms, records, frames, decoded, shipped⟩ := ih
    refine ⟨form :: forms, record :: records, ?_, .cons decodes decoded, .cons ships shipped⟩
    rw [List.flatMap_cons, frames, Frame.stream_cons, frame]

theorem decode_framed (lawful : registry.Lawful)
    (built : build source layout registry = .ok schema) (format : BlobFormat)
    {content : List (Nat × List String)} {rows : List (List UInt8 × List FallbackNotice)}
    (framed : List.Forall₂ (fun row result => Encode.framed schema row.1 row.2 = .ok result)
      content rows) :
    ∃ records, schema.rowLayout.decode format
        (format.header schema.fingerprint ++ rows.flatMap Prod.fst) = .ok records ∧
      List.Forall₂ (fun row record => schema.Ships row.2 record) content records := by
  obtain ⟨forms, records, frames, decoded, ships⟩ := framed_stream lawful built framed
  refine ⟨records, ?_, ships⟩
  rw [fingerprint, RowLayout.decode_header]
  exact RowLayout.decode_raw_eq_ok.mpr ⟨forms, frames, decoded⟩

/-- The table of a sheet is the header and the frames of its content rows. -/
theorem encode_eq_ok {format : BlobFormat} {table : EncodedTable} :
    schema.encode sheet format = .ok table ↔ ∃ rows,
      List.Forall₂ (fun row framed => Encode.framed schema row.1 row.2 = .ok framed)
        (sheet.contentRows schema.layout.contentStart) rows ∧
      table = ⟨format.header schema.fingerprint ++ rows.flatMap Prod.fst, rows.length,
        rows.flatMap Prod.snd, format, schema.fingerprint⟩ := by
  rw [encode, Traversal.bind_eq_ok]
  constructor
  · intro given
    rcases given with ⟨rows, framed, same⟩
    exact ⟨rows, Traversal.mapM_eq_ok.mp framed, (Except.ok.inj same).symm⟩
  · intro given
    rcases given with ⟨rows, framed, rfl⟩
    exact ⟨rows, Traversal.mapM_eq_ok.mpr framed, rfl⟩

/-- An encoded table decodes in its format: a record for each content row in order, which holds what
the cells of the row ship as. -/
theorem decode_encoded (lawful : registry.Lawful)
    (built : build source layout registry = .ok schema) {format : BlobFormat} {table : EncodedTable}
    (encoded : schema.encode sheet format = .ok table) :
    ∃ records, schema.rowLayout.decode format table.blob = .ok records ∧
      records.length = table.rows ∧
      table.rows = (sheet.contentRows layout.contentStart).length ∧
      List.Forall₂ (fun row record => schema.Ships row.2 record)
        (sheet.contentRows layout.contentStart) records := by
  obtain ⟨rows, framed, rfl⟩ := encode_eq_ok.mp encoded
  rw [(build_eq_ok built).2.2.2] at framed
  obtain ⟨forms, records, frames, decoded, ships⟩ := framed_stream lawful built framed
  refine ⟨records, ?_, ?_, framed.length_eq.symm, ships⟩
  · rw [fingerprint, RowLayout.decode_header]
    exact RowLayout.decode_raw_eq_ok.mpr ⟨forms, frames, decoded⟩
  · rw [← ships.length_eq, framed.length_eq]

/-- An `int` codec whose writes of negative numbers fail behind two bytes. -/
def halting : Codec where
  keyword := "halting"
  parse := Codec.id.parse
  write value := match value with
    | .integer .int n =>
      if n.toInt < 0 then .error ⟨[0xFF, 0xFF], .notEncodable "halting"⟩ else Codec.id.write value
    | other => Codec.mismatch "halting" other
  read := Codec.id.read

theorem halting_readsBack : halting.ReadsBack := by
  intro text value bytes _ written
  apply ColumnType.codec_faithful .id
  simp only [halting] at written
  split at written
  next n =>
    split at written
    next => simp at written
    next => exact written
  next => simp at written

def haltingRegistry : TypeRegistry := TypeRegistry.standard.insert ["halting"] halting

def haltingSheet : Sheet where
  rows := [["Id", "Step"], ["id", "halting"], ["", "7"], ["1", "5"], ["#", ""], ["2", "-3"]]
  columnCount := 2
  rectangular := by simp

def haltingLayout : SheetLayout := ⟨0, 1, some 2, none, 3, 0⟩

theorem decode_encoded_after_partial_write : ∃ schema table records,
    build haltingSheet haltingLayout haltingRegistry = .ok schema ∧
      schema.encode haltingSheet .fingerprinted = .ok table ∧
      table.fallbacks.map FallbackNotice.reason = [.write (.notEncodable "halting")] ∧
      schema.rowLayout.decode .fingerprinted table.blob = .ok records ∧ records.length = 2 := by
  have runs : ((build haltingSheet haltingLayout haltingRegistry).toOption.bind (fun schema =>
      (schema.encode haltingSheet .fingerprinted).toOption)).map
        (fun table => table.fallbacks.map FallbackNotice.reason) =
      some [.write (.notEncodable "halting")] := by decide +kernel
  cases built : build haltingSheet haltingLayout haltingRegistry with
  | error fault => simp [built, Except.toOption] at runs
  | ok schema =>
    cases encoded : schema.encode haltingSheet .fingerprinted with
    | error fault => simp [built, encoded, Except.toOption] at runs
    | ok table =>
      have lawful : haltingRegistry.Lawful := TypeRegistry.standard_lawful.insert halting_readsBack
      obtain ⟨records, decoded, count, rows, _⟩ := decode_encoded lawful built encoded
      refine ⟨schema, table, records, rfl, encoded, ?_, decoded, by rw [count, rows]; decide⟩
      simpa [built, encoded, Except.toOption] using runs

end Schema

end GameSheet
