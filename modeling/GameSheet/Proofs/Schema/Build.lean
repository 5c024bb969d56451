import GameSheet.Proofs.Sheet.Content
import GameSheet.Proofs.Traversal
import GameSheet.Schema.Basic

/-!
What a schema that was built looks like. Column i of the sheet is column i of the schema, the one
that the layout points at is the only identifier, and the fields of the rows are the columns that
are no comments, in their order and under their own names.
-/

namespace GameSheet

theorem mem_identifierPositions {fields : List Field} {position : Nat} :
    position ∈ identifierPositions fields ↔
      ∃ field, fields[position]? = some field ∧ field.codec.isIdentifier = true := by
  unfold identifierPositions
  rw [List.mem_map]
  constructor
  · intro given
    rcases given with ⟨⟨field, place⟩, member, rfl⟩
    obtain ⟨inside, identifies⟩ := List.mem_filter.mp member
    exact ⟨field, List.mk_mem_zipIdx_iff_getElem?.mp inside, identifies⟩
  · intro given
    rcases given with ⟨field, found, identifies⟩
    exact ⟨(field, position),
      List.mem_filter.mpr ⟨List.mk_mem_zipIdx_iff_getElem?.mpr found, identifies⟩, rfl⟩

theorem identifierPositions_congr {fields others : List Field}
    (codecs : fields.map Field.codec = others.map Field.codec) :
    identifierPositions fields = identifierPositions others := by
  have positions : ∀ fields : List Field, identifierPositions fields =
      (((fields.map Field.codec).zipIdx).filter (fun (codec, _) => codec.isIdentifier)).map
        Prod.snd := by
    intro fields
    rw [List.zipIdx_map, List.filter_map, List.map_map]
    rfl
  rw [positions, positions, codecs]

theorem RowLayout.ofFields_eq_ok {fields : List Field} {layout : RowLayout}
    (made : ofFields fields = .ok layout) :
    layout.fields = fields.map renameIdentifier ∧ identifierPositions fields = [layout.identifier] := by
  unfold ofFields at made
  split at made
  next identifier positions =>
    rw [← Except.ok.inj made]
    exact ⟨rfl, positions⟩
  next => simp at made

namespace Column

def CodecFrom (registry : TypeRegistry) (codec : Codec) : Prop :=
  codec = .id ∨ codec = .comment ∨ ∃ key, (key, codec) ∈ registry.codecs

theorem codecFrom_of_codecOf {registry : TypeRegistry} {index : Nat} {name keyword : String}
    {codec : Codec} (resolved : codecOf registry index name keyword = .ok codec) :
    CodecFrom registry codec := by
  unfold codecOf TypeRegistry.resolve at resolved
  cases found : registry.codecs.lookup (normalKeyword keyword) with
  | some known =>
    rw [found] at resolved
    rw [← Except.ok.inj resolved]
    right
    right
    obtain ⟨front, back, split, _⟩ := List.lookup_eq_some_iff.mp found
    exact ⟨normalKeyword keyword, by rw [split]; simp⟩
  | none =>
    rw [found] at resolved
    simp only at resolved
    split at resolved
    · rw [← Except.ok.inj resolved]
      exact Or.inr (Or.inl rfl)
    · simp at resolved

variable {sheet : Sheet} {layout : SheetLayout} {registry : TypeRegistry} {index : Nat}
  {column : Column}

theorem ofSheet_identifier (made : ofSheet sheet layout registry layout.idColumn = .ok column) :
    column.name = identifierName ∧ column.codec = .id ∧ column.isIdentifier = true ∧
      column.isComment = false := by
  simp only [ofSheet, decide_true, if_true, registry.standing] at made
  rw [← Except.ok.inj made]
  exact ⟨rfl, rfl, rfl, rfl⟩

theorem ofSheet_spec (made : ofSheet sheet layout registry index = .ok column) :
    column.index = index ∧ column.isIdentifier = decide (index = layout.idColumn) ∧
      CodecFrom registry column.codec := by
  simp only [ofSheet] at made
  split at made
  next =>
    obtain ⟨codec, resolved, same⟩ := Traversal.bind_eq_ok.mp made
    rw [← Except.ok.inj same]
    exact ⟨rfl, rfl, Or.inl ((Except.ok.inj resolved).symm.trans registry.standing)⟩
  next =>
    obtain ⟨codec, resolved, same⟩ := Traversal.bind_eq_ok.mp made
    rw [← Except.ok.inj same]
    exact ⟨rfl, rfl, codecFrom_of_codecOf resolved⟩

end Column

namespace Schema

variable {sheet : Sheet} {layout : SheetLayout} {registry : TypeRegistry} {schema : Schema}

theorem build_eq_ok (built : build sheet layout registry = .ok schema) :
    layout.validate sheet = .ok () ∧
      (List.range sheet.columnCount).mapM (Column.ofSheet sheet layout registry) =
        .ok schema.columns ∧
      RowLayout.ofFields (schema.encodedColumns.map Column.field) = .ok schema.rowLayout ∧
      schema.layout = layout := by
  unfold build at built
  obtain ⟨_, valid, rest⟩ := Traversal.bind_eq_ok.mp built
  obtain ⟨columns, made, rest⟩ := Traversal.bind_eq_ok.mp rest
  obtain ⟨rowLayout, fields, same⟩ := Traversal.bind_eq_ok.mp rest
  rw [← Except.ok.inj same]
  exact ⟨valid, made, fields, rfl⟩

/-- A schema is made from the rows that its layout names. -/
theorem build_of_metadata {other : Sheet} (rows : other.rowCount = sheet.rowCount)
    (columns : other.columnCount = sheet.columnCount)
    (same : ∀ named ∈ layout.metadataRows, other.rows[named.2]? = sheet.rows[named.2]?) :
    build other layout registry = build sheet layout registry := by
  have cell (named : Place × Nat) (member : named ∈ layout.metadataRows) (index : Nat) :
      other.cell? named.2 index = sheet.cell? named.2 index := by
    rw [Sheet.cell?, Sheet.cell?, same named member]
  have note (row : Option Nat) (place : Place)
      (given : ∀ row' ∈ row, (place, row') ∈ layout.metadataRows) (index : Nat) :
      Column.note other row index = Column.note sheet row index := by
    cases row with
    | none => rfl
    | some row' =>
      simp only [Column.note, Option.map_some, cell (place, row') (given row' rfl)]
  have valid : layout.validate other = layout.validate sheet := by
    rw [SheetLayout.validate, SheetLayout.validate, rows, columns]
  have made : Column.ofSheet other layout registry = Column.ofSheet sheet layout registry := by
    funext index
    simp only [Column.ofSheet]
    rw [cell (.nameRow, layout.nameRow) (by simp [SheetLayout.metadataRows]),
      cell (.typeRow, layout.typeRow) (by simp [SheetLayout.metadataRows]),
      note layout.defaultRow .defaultRow (by simp [SheetLayout.metadataRows]),
      note layout.commentRow .commentRow (by simp [SheetLayout.metadataRows])]
  rw [build, build, valid, made, columns]

theorem columns_length (built : build sheet layout registry = .ok schema) :
    schema.columns.length = sheet.columnCount := by
  have made := Traversal.mapM_eq_ok.mp (build_eq_ok built).2.1
  rw [← made.length_eq, List.length_range]

theorem contentRows_width (built : build sheet layout registry = .ok schema) {start : Nat} :
    ∀ row ∈ sheet.contentRows start, row.2.length = schema.columns.length := by
  intro row member
  rw [Sheet.length_of_contentRows member, columns_length built]

theorem column_ofSheet (built : build sheet layout registry = .ok schema) {index : Nat}
    {column : Column} (found : schema.columns[index]? = some column) :
    Column.ofSheet sheet layout registry index = .ok column :=
  (Traversal.mapM_range (build_eq_ok built).2.1 found).2

theorem column_index (built : build sheet layout registry = .ok schema) {index : Nat}
    {column : Column} (found : schema.columns[index]? = some column) : column.index = index :=
  (Column.ofSheet_spec (column_ofSheet built found)).1

theorem mem_encodedColumns {column : Column} :
    column ∈ schema.encodedColumns ↔ column ∈ schema.columns ∧ column.isComment = false := by
  rw [encodedColumns, List.mem_filter, Bool.not_eq_true']

theorem encodedColumns_ascending (built : build sheet layout registry = .ok schema) :
    schema.encodedColumns.Pairwise (fun column later => column.index < later.index) := by
  apply List.Pairwise.filter
  rw [List.pairwise_iff_getElem]
  intro position later inside within before
  rwa [column_index built (List.getElem?_eq_getElem inside),
    column_index built (List.getElem?_eq_getElem within)]

theorem codecFrom_of_mem (built : build sheet layout registry = .ok schema) {column : Column}
    (member : column ∈ schema.encodedColumns) : Column.CodecFrom registry column.codec := by
  obtain ⟨index, found⟩ := List.mem_iff_getElem?.mp (mem_encodedColumns.mp member).1
  exact (Column.ofSheet_spec (column_ofSheet built found)).2.2

theorem getElem?_cell (built : build sheet layout registry = .ok schema) {cells : List String}
    (width : cells.length = schema.columns.length) {column : Column}
    (member : column ∈ schema.encodedColumns) :
    cells[column.index]? = some (cells.getD column.index "") := by
  obtain ⟨index, found⟩ := List.mem_iff_getElem?.mp (mem_encodedColumns.mp member).1
  have inside := (List.getElem?_eq_some_iff.mp found).1
  rw [column_index built found]
  rw [← width] at inside
  rw [List.getElem?_eq_getElem inside, List.getD_eq_getElem cells "" inside]

theorem idColumn_lt (valid : layout.validate sheet = .ok ()) : layout.idColumn < sheet.columnCount :=
  (SheetLayout.validate_eq_ok.mp valid).2.2

theorem exists_identifier (built : build sheet layout registry = .ok schema) :
    ∃ column ∈ schema.encodedColumns, column.index = layout.idColumn ∧
      column.isIdentifier = true ∧ column.codec = .id ∧ column.name = identifierName := by
  have inside := idColumn_lt (build_eq_ok built).1
  rw [← columns_length built] at inside
  have found := List.getElem?_eq_getElem inside
  have made := column_ofSheet built found
  obtain ⟨name, codec, identifies, plain⟩ := Column.ofSheet_identifier made
  refine ⟨schema.columns[layout.idColumn], ?_, column_index built found, identifies, codec, name⟩
  exact mem_encodedColumns.mpr ⟨List.getElem_mem inside, plain⟩

/-- No other encoded column has an identifier codec. -/
theorem identifier_unique (built : build sheet layout registry = .ok schema) {position : Nat}
    {column : Column} (found : schema.encodedColumns[position]? = some column)
    (identifies : column.codec.isIdentifier = true) :
    position = schema.rowLayout.identifier := by
  have single := (RowLayout.ofFields_eq_ok (build_eq_ok built).2.2.1).2
  have member : position ∈ identifierPositions (schema.encodedColumns.map Column.field) := by
    apply mem_identifierPositions.mpr
    exact ⟨column.field, by rw [List.getElem?_map, found]; rfl, identifies⟩
  rwa [single, List.mem_singleton] at member

theorem getElem?_identifier (built : build sheet layout registry = .ok schema) :
    ∃ column, schema.encodedColumns[schema.rowLayout.identifier]? = some column ∧
      column.index = layout.idColumn ∧ column.isIdentifier = true ∧ column.codec = .id ∧
      column.name = identifierName := by
  obtain ⟨column, member, facts⟩ := exists_identifier built
  obtain ⟨position, found⟩ := List.mem_iff_getElem?.mp member
  have place := identifier_unique built found (by rw [facts.2.2.1]; rfl)
  rw [place] at found
  exact ⟨column, found, facts⟩

/-- Encoder and decoder go over the same columns. -/
theorem fields_eq (built : build sheet layout registry = .ok schema) :
    schema.rowLayout.fields = schema.encodedColumns.map Column.field := by
  obtain ⟨identifier, place, _, _, _, named⟩ := getElem?_identifier built
  rw [(RowLayout.ofFields_eq_ok (build_eq_ok built).2.2.1).1, List.map_map]
  apply List.map_congr_left
  intro column member
  simp only [Function.comp, renameIdentifier]
  split
  next identifies =>
    obtain ⟨position, found⟩ := List.mem_iff_getElem?.mp member
    have same := identifier_unique built found identifies
    rw [same, place] at found
    rw [← Option.some.inj found, Column.field, named]
  next => rfl

end Schema

end GameSheet
