import GameSheet.Proofs.Table.Contribution

/-!
The columns of a schema as the encoder and the decoder see them. One goes over the columns that are
no comments, the other over the fields of the row layout, and each takes the identifier's place from
another side; in a schema that was built they agree, for sheets of any width and any registry. A
schema is refused for its identifiers exactly when a second column would identify the rows.
-/

namespace GameSheet

namespace Column

def nameAt (sheet : Sheet) (layout : SheetLayout) (index : Nat) : String :=
  if index = layout.idColumn then identifierName else (sheet.cell? layout.nameRow index).getD ""

def typeAt (sheet : Sheet) (layout : SheetLayout) (index : Nat) : String :=
  (sheet.cell? layout.typeRow index).getD ""

def codecAt (sheet : Sheet) (layout : SheetLayout) (registry : TypeRegistry) (index : Nat) :
    Except SchemaError Codec :=
  if index = layout.idColumn then .ok registry.identifier
  else codecOf registry index (nameAt sheet layout index) (typeAt sheet layout index)

def withCodec (sheet : Sheet) (layout : SheetLayout) (index : Nat) (codec : Codec) : Column where
  index := index
  name := nameAt sheet layout index
  codec := codec
  isIdentifier := decide (index = layout.idColumn)
  isComment := !decide (index = layout.idColumn) &&
    (nameAt sheet layout index == "" || codec.isComment)
  default := note sheet layout.defaultRow index
  comment := note sheet layout.commentRow index

variable {sheet : Sheet} {layout : SheetLayout} {registry : TypeRegistry} {index : Nat}
  {column : Column}

theorem ofSheet_eq : ofSheet sheet layout registry index =
    (codecAt sheet layout registry index).map (withCodec sheet layout index) := by
  by_cases identifies : index = layout.idColumn
  · simp only [ofSheet, codecAt, nameAt, identifies, decide_true, if_true, pure_bind]
    simp [withCodec, nameAt, Except.map, pure, Except.pure]
  · simp only [ofSheet, codecAt, nameAt, typeAt, identifies, decide_false, if_false,
      Bool.false_eq_true]
    cases codecOf registry index ((sheet.cell? layout.nameRow index).getD "")
        ((sheet.cell? layout.typeRow index).getD "") with
    | error fault => rfl
    | ok codec => simp [withCodec, nameAt, identifies, Except.map, bind, Except.bind, pure,
        Except.pure]

theorem codecOf_eq_ok {name keyword : String} {codec : Codec} (named : name ≠ "") :
    codecOf registry index name keyword = .ok codec ↔ registry.resolve keyword = .ok codec := by
  unfold codecOf
  cases registry.resolve keyword with
  | ok known => simp
  | error fault => simp [named]

theorem note_ne_empty (row : Option Nat) : note sheet row index ≠ some "" := by
  unfold note
  intro empty
  have kept := (Option.filter_eq_some_iff.mp empty).2
  exact absurd rfl (of_decide_eq_true kept)

theorem withCodec_isComment {codec : Codec} (other : index ≠ layout.idColumn) :
    (withCodec sheet layout index codec).isComment = false ↔
      nameAt sheet layout index ≠ "" ∧ codec.isComment = false := by
  simp [withCodec, other]

end Column

theorem identifierPositions_nodup (fields : List Field) : (identifierPositions fields).Nodup := by
  have numbered : (identifierPositions fields).Sublist (fields.zipIdx.map Prod.snd) :=
    List.filter_sublist.map _
  exact numbered.nodup (List.nodup_zipIdx_map_snd fields)

theorem RowLayout.exists_ofFields {fields : List Field} :
    (∃ rowLayout, ofFields fields = .ok rowLayout) ↔
      ∃ position, identifierPositions fields = [position] := by
  constructor
  · intro given
    rcases given with ⟨rowLayout, made⟩
    exact ⟨_, (ofFields_eq_ok made).2⟩
  · intro given
    rcases given with ⟨position, single⟩
    unfold ofFields
    split
    next => exact ⟨_, rfl⟩
    next several => exact absurd single (several position)

theorem RowLayout.error_ofFields {fields : List Field} {fault : SchemaError}
    (refused : ofFields fields = .error fault) :
    fault = .identifierCount (identifierPositions fields).length := by
  unfold ofFields at refused
  split at refused
  next => simp at refused
  next => exact (Except.error.inj refused).symm

namespace Schema

variable {sheet : Sheet} {layout : SheetLayout} {registry : TypeRegistry} {schema : Schema}
  {columns : List Column}

def Made (sheet : Sheet) (layout : SheetLayout) (registry : TypeRegistry)
    (columns : List Column) : Prop :=
  List.Forall₂ (fun index column => Column.ofSheet sheet layout registry index = .ok column)
    (List.range sheet.columnCount) columns

theorem Made.map_index (made : Made sheet layout registry columns) :
    columns.map Column.index = List.range sheet.columnCount := by
  have same : List.Forall₂ (fun index column => index = Column.index column)
      (List.range sheet.columnCount) columns :=
    made.imp (fun index column built => (Column.ofSheet_spec built).1.symm)
  rw [← List.forall₂_map_right_iff (R := Eq), List.forall₂_eq_eq_eq] at same
  exact same.symm

theorem Made.ofSheet (made : Made sheet layout registry columns) {column : Column}
    (member : column ∈ columns) :
    column.index < sheet.columnCount ∧
      Column.ofSheet sheet layout registry column.index = .ok column := by
  obtain ⟨position, found⟩ := List.mem_iff_getElem?.mp member
  obtain ⟨inside, built⟩ := Traversal.mapM_range (Traversal.mapM_eq_ok.mpr made) found
  rw [(Column.ofSheet_spec built).1]
  exact ⟨inside, built⟩

theorem Made.exists_column (made : Made sheet layout registry columns) {index : Nat}
    (inside : index < sheet.columnCount) : ∃ column ∈ columns, column.index = index := by
  have member : index ∈ columns.map Column.index := by
    rw [made.map_index]
    exact List.mem_range.mpr inside
  exact List.mem_map.mp member

theorem Made.position_unique (made : Made sheet layout registry columns) {picked : List Column}
    (part : picked.Sublist columns) {first second : Nat} {column other : Column}
    (left : picked[first]? = some column) (right : picked[second]? = some other)
    (same : column.index = other.index) : first = second := by
  have distinct : (picked.map Column.index).Nodup := by
    apply (part.map Column.index).nodup
    rw [made.map_index]
    exact List.nodup_range
  have inside : first < (picked.map Column.index).length := by
    rw [List.length_map]
    exact (List.getElem?_eq_some_iff.mp left).1
  apply (List.getElem?_inj inside distinct).mp
  rw [List.getElem?_map, List.getElem?_map, left, right, Option.map_some, Option.map_some, same]

/-- A column beside the identifier's that would identify the rows as well. -/
structure SecondIdentifier (sheet : Sheet) (layout : SheetLayout) (registry : TypeRegistry)
    (index : Nat) : Prop where
  inside : index < sheet.columnCount
  other : index ≠ layout.idColumn
  named : (sheet.cell? layout.nameRow index).getD "" ≠ ""
  identifies : ∃ codec, registry.resolve ((sheet.cell? layout.typeRow index).getD "") = .ok codec ∧
    codec.isComment = false ∧ codec.isIdentifier = true

theorem Made.secondIdentifier_iff (made : Made sheet layout registry columns) :
    (∃ index, SecondIdentifier sheet layout registry index) ↔ ∃ column ∈ columns,
      column.isComment = false ∧ column.index ≠ layout.idColumn ∧
        column.codec.isIdentifier = true := by
  constructor
  · intro given
    rcases given with ⟨index, inside, other, named, codec, known, plain, identifies⟩
    obtain ⟨column, member, rfl⟩ := made.exists_column inside
    have built := (made.ofSheet member).2
    have name : Column.nameAt sheet layout column.index ≠ "" := by
      rwa [Column.nameAt, if_neg other]
    have codecAt : Column.codecAt sheet layout registry column.index = .ok codec := by
      rw [Column.codecAt, if_neg other]
      exact (Column.codecOf_eq_ok name).mpr known
    rw [Column.ofSheet_eq, codecAt] at built
    have same := Except.ok.inj built
    refine ⟨column, member, ?_, other, ?_⟩
    · rw [← same]
      exact (Column.withCodec_isComment other).mpr ⟨name, plain⟩
    · rw [← same]
      exact identifies
  · intro given
    rcases given with ⟨column, member, plain, other, identifies⟩
    obtain ⟨inside, built⟩ := made.ofSheet member
    rw [Column.ofSheet_eq] at built
    obtain ⟨codec, codecAt, same⟩ := Traversal.map_eq_ok.mp built
    rw [← same] at plain identifies
    obtain ⟨name, comment⟩ := (Column.withCodec_isComment other).mp plain
    rw [Column.codecAt, if_neg other, Column.codecOf_eq_ok name] at codecAt
    rw [Column.nameAt, if_neg other] at name
    exact ⟨column.index, inside, other, name, codec, codecAt, comment, identifies⟩

theorem mem_identifierPositions_columns {picked : List Column} {position : Nat} :
    position ∈ identifierPositions (picked.map Column.field) ↔
      ∃ column, picked[position]? = some column ∧ column.codec.isIdentifier = true := by
  rw [mem_identifierPositions, List.getElem?_map]
  constructor
  · intro given
    rcases given with ⟨field, found, identifies⟩
    obtain ⟨column, taken, rfl⟩ := Option.map_eq_some_iff.mp found
    exact ⟨column, taken, identifies⟩
  · intro given
    rcases given with ⟨column, taken, identifies⟩
    exact ⟨column.field, by rw [taken]; rfl, identifies⟩

/-- The columns that are no comments have one identifier unless a second column identifies. -/
theorem Made.single_iff (made : Made sheet layout registry columns)
    (inside : layout.idColumn < sheet.columnCount) :
    (∃ position, identifierPositions
      ((columns.filter (fun column => !column.isComment)).map Column.field) = [position]) ↔
        ¬∃ index, SecondIdentifier sheet layout registry index := by
  obtain ⟨identifier, member, located⟩ := made.exists_column inside
  have built := (made.ofSheet member).2
  rw [located] at built
  obtain ⟨_, codec, _, plain⟩ := Column.ofSheet_identifier built
  obtain ⟨home, place⟩ := List.mem_iff_getElem?.mp
    (List.mem_filter.mpr ⟨member, by rw [plain]; rfl⟩ :
      identifier ∈ columns.filter (fun column => !column.isComment))
  have identified := mem_identifierPositions_columns.mpr
    ⟨identifier, place, by rw [codec]; rfl⟩
  rw [made.secondIdentifier_iff]
  constructor
  · intro given second
    rcases given with ⟨position, single⟩
    rcases second with ⟨column, present, shown, other, identifies⟩
    obtain ⟨spot, found⟩ := List.mem_iff_getElem?.mp
      (List.mem_filter.mpr ⟨present, by rw [shown]; rfl⟩ :
        column ∈ columns.filter (fun column => !column.isComment))
    have again := mem_identifierPositions_columns.mpr ⟨column, found, identifies⟩
    rw [single, List.mem_singleton] at identified again
    rw [again, ← identified, place] at found
    exact other (by rw [← Option.some.inj found, located])
  · intro alone
    refine ⟨home, List.perm_singleton.mp ?_⟩
    rw [List.perm_ext_iff_of_nodup (identifierPositions_nodup _) (List.nodup_singleton home)]
    intro position
    rw [List.mem_singleton]
    constructor
    · intro given
      obtain ⟨column, taken, identifies⟩ := mem_identifierPositions_columns.mp given
      have present := List.mem_filter.mp (List.mem_of_getElem? taken)
      apply made.position_unique List.filter_sublist taken place
      by_contra other
      rw [located] at other
      exact alone ⟨column, present.1, by simpa using present.2, other, identifies⟩
    · intro same
      rw [same]
      exact identified

theorem exists_made (known : ∀ index < sheet.columnCount, index ≠ layout.idColumn →
    (sheet.cell? layout.nameRow index).getD "" ≠ "" →
      ∃ codec, registry.resolve ((sheet.cell? layout.typeRow index).getD "") = .ok codec) :
    ∃ columns, (List.range sheet.columnCount).mapM (Column.ofSheet sheet layout registry) =
      .ok columns := by
  apply Traversal.exists_mapM.mpr
  intro index member
  rw [Column.ofSheet_eq]
  suffices resolved : ∃ codec, Column.codecAt sheet layout registry index = .ok codec by
    obtain ⟨codec, found⟩ := resolved
    exact ⟨_, by rw [found]; rfl⟩
  unfold Column.codecAt
  split
  next => exact ⟨_, rfl⟩
  next other =>
    rw [Column.nameAt, if_neg other, Column.typeAt]
    by_cases unnamed : (sheet.cell? layout.nameRow index).getD "" = ""
    · unfold Column.codecOf
      simp only [if_pos unnamed]
      split
      next => exact ⟨_, rfl⟩
      next => exact ⟨_, rfl⟩
    · obtain ⟨codec, found⟩ := known index (List.mem_range.mp member) other unnamed
      exact ⟨codec, (Column.codecOf_eq_ok unnamed).mpr found⟩

theorem build_eq_map (valid : layout.validate sheet = .ok ())
    (made : (List.range sheet.columnCount).mapM (Column.ofSheet sheet layout registry) =
      .ok columns) :
    build sheet layout registry = (RowLayout.ofFields
      ((columns.filter (fun column => !column.isComment)).map Column.field)).map
        (fun rowLayout => ⟨columns, rowLayout, layout⟩) := by
  unfold build
  rw [valid, made]
  cases fields : RowLayout.ofFields
      ((columns.filter (fun column => !column.isComment)).map Column.field) with
  | error fault => simp [bind, Except.bind, fields, Except.map]
  | ok rowLayout => simp [bind, Except.bind, fields, Except.map, pure, Except.pure]

/-- What the encoder and the decoder rely on in a schema for a sheet. -/
structure Aligned (schema : Schema) (sheet : Sheet) (layout : SheetLayout)
    (registry : TypeRegistry) : Prop where
  width : schema.columns.length = sheet.columnCount
  index : ∀ (position : Nat) (column : Column), schema.columns[position]? = some column →
    column.index = position
  identifies : ∀ (position : Nat) (column : Column), schema.columns[position]? = some column →
    (column.isIdentifier = true ↔ position = layout.idColumn)
  /-- The identifier's column stands at the identifier's position among the encoded ones. -/
  identifier : ∃ column : Column, schema.columns[layout.idColumn]? = some column ∧
    schema.encodedColumns[schema.rowLayout.identifier]? = some column ∧
    column.name = identifierName ∧ column.codec = registry.identifier
  fields : schema.rowLayout.fields =
    schema.encodedColumns.map (fun column : Column => ⟨column.name, column.index, column.codec⟩)
  /-- The encoder pairs a column with the cell that the decoder's field points at. -/
  pairs : ∀ cells, cells.length = schema.columns.length →
    (Encode.pairs schema cells).map (fun (column, text) => (column.field, text)) =
      schema.rowLayout.fields.map (fun field => (field, cells.getD field.column ""))
  plain : ∀ field ∈ schema.rowLayout.fields, field.codec.isComment = false
  single : ∀ (position : Nat) (field : Field), schema.rowLayout.fields[position]? = some field →
    (field.codec.isIdentifier = true ↔ position = schema.rowLayout.identifier)
  strings : ∀ column ∈ schema.columns, column.isString = true → column.isComment = false
  texts : ∀ column ∈ schema.columns, column.default ≠ some "" ∧ column.comment ≠ some ""

theorem codec_isComment (built : build sheet layout registry = .ok schema) {column : Column}
    (member : column ∈ schema.encodedColumns) : column.codec.isComment = false := by
  obtain ⟨present, plain⟩ := mem_encodedColumns.mp member
  obtain ⟨position, found⟩ := List.mem_iff_getElem?.mp present
  have made := column_ofSheet built found
  by_cases identifies : position = layout.idColumn
  · rw [identifies] at made
    rw [(Column.ofSheet_identifier made).2.1]
    rfl
  · rw [Column.ofSheet_eq] at made
    obtain ⟨codec, _, rfl⟩ := Traversal.map_eq_ok.mp made
    exact ((Column.withCodec_isComment identifies).mp plain).2

theorem column_texts (built : build sheet layout registry = .ok schema) {column : Column}
    (member : column ∈ schema.columns) : column.default ≠ some "" ∧ column.comment ≠ some "" := by
  obtain ⟨position, found⟩ := List.mem_iff_getElem?.mp member
  have made := column_ofSheet built found
  rw [Column.ofSheet_eq] at made
  obtain ⟨codec, _, rfl⟩ := Traversal.map_eq_ok.mp made
  exact ⟨Column.note_ne_empty layout.defaultRow, Column.note_ne_empty layout.commentRow⟩

theorem field_identifies (built : build sheet layout registry = .ok schema) {position : Nat}
    {field : Field} (found : schema.rowLayout.fields[position]? = some field) :
    field.codec.isIdentifier = true ↔ position = schema.rowLayout.identifier := by
  rw [fields_eq built, List.getElem?_map] at found
  obtain ⟨column, taken, rfl⟩ := Option.map_eq_some_iff.mp found
  constructor
  · intro identifies
    exact identifier_unique built taken identifies
  · intro same
    obtain ⟨identifier, place, _, _, codec, _⟩ := getElem?_identifier built
    rw [same, place] at taken
    rw [← Option.some.inj taken, Column.field, codec]
    rfl

theorem build_aligned (built : build sheet layout registry = .ok schema) :
    schema.Aligned sheet layout registry where
  width := columns_length built
  index position column found := column_index built found
  identifies position column found := by
    rw [(Column.ofSheet_spec (column_ofSheet built found)).2.1, decide_eq_true_eq]
  identifier := by
    obtain ⟨column, place, located, _, codec, named⟩ := getElem?_identifier built
    have present := (mem_encodedColumns.mp (List.mem_of_getElem? place)).1
    obtain ⟨position, found⟩ := List.mem_iff_getElem?.mp present
    rw [← column_index built found, located] at found
    exact ⟨column, found, place, named, codec.trans registry.standing.symm⟩
  fields := fields_eq built
  pairs cells full := by
    rw [Encode.pairs_eq built full, fields_eq built, List.map_map, List.map_map]
    rfl
  plain field member := by
    rw [fields_eq built] at member
    obtain ⟨column, encoded, rfl⟩ := List.mem_map.mp member
    exact codec_isComment built encoded
  single position field found := field_identifies built found
  strings column _ counted := by
    rw [Column.isString, Bool.and_eq_true, Bool.not_eq_true'] at counted
    exact counted.1
  texts column member := column_texts built member

/-- Over any registry, encoder and decoder agree on the columns of a schema that was built. Where a
layout fits its sheet and every named column has a known type, a schema is refused exactly when a
second column would identify the rows. -/
theorem build_columns (sheet : Sheet) (layout : SheetLayout) (registry : TypeRegistry) :
    (∀ schema, build sheet layout registry = .ok schema →
      schema.Aligned sheet layout registry) ∧
    (layout.validate sheet = .ok () →
      (∀ index < sheet.columnCount, index ≠ layout.idColumn →
        (sheet.cell? layout.nameRow index).getD "" ≠ "" →
          ∃ codec, registry.resolve ((sheet.cell? layout.typeRow index).getD "") = .ok codec) →
      ((∃ schema, build sheet layout registry = .ok schema) ↔
        ¬∃ index, SecondIdentifier sheet layout registry index) ∧
      ((∃ found, build sheet layout registry = .error (.identifierCount found)) ↔
        ∃ index, SecondIdentifier sheet layout registry index)) := by
  refine ⟨fun schema built => build_aligned built, ?_⟩
  intro valid known
  obtain ⟨columns, made⟩ := exists_made known
  have each : Made sheet layout registry columns := Traversal.mapM_eq_ok.mp made
  have single := each.single_iff (idColumn_lt valid)
  rw [build_eq_map valid made, ← single, ← RowLayout.exists_ofFields]
  cases fields : RowLayout.ofFields
      ((columns.filter (fun column => !column.isComment)).map Column.field) with
  | ok rowLayout =>
    have accepted := RowLayout.exists_ofFields.mp ⟨rowLayout, fields⟩
    simp [Except.map, single.mp accepted]
  | error fault =>
    have refused : ¬∃ position, identifierPositions
        ((columns.filter (fun column => !column.isComment)).map Column.field) = [position] := by
      rw [← RowLayout.exists_ofFields, fields]
      simp
    rw [single, not_not] at refused
    simp [Except.map, RowLayout.error_ofFields fields, refused]

def keySheet : Sheet where
  rows := [["", "Key"], ["id", "?"], ["note", "7"]]
  columnCount := 2
  rectangular := by simp

def twoKeySheet : Sheet where
  rows := [["Key", "Code"], ["?", "ID"], ["7", "8"]]
  columnCount := 2
  rectangular := by simp

def keyLayout (idColumn : Nat) : SheetLayout := ⟨0, 1, none, none, 2, idColumn⟩

theorem build_columns_keys :
    (∃ schema column, build keySheet (keyLayout 1) .standard = .ok schema ∧
      schema.encodedColumns[schema.rowLayout.identifier]? = some column ∧ column.index = 1 ∧
        column.name = "Id") ∧
    ∃ found, build twoKeySheet (keyLayout 0) .standard = .error (.identifierCount found) := by
  have flags : (TypeRegistry.standard.resolve "ID").toOption.map
      (fun codec => (codec.isComment, codec.isIdentifier)) = some (false, true) := by decide +kernel
  obtain ⟨codec, resolved⟩ : ∃ codec, TypeRegistry.standard.resolve "ID" = .ok codec := by
    cases known : TypeRegistry.standard.resolve "ID" with
    | error fault => simp [known, Except.toOption] at flags
    | ok codec => exact ⟨codec, rfl⟩
  simp only [resolved, Except.toOption, Option.map_some, Option.some.injEq, Prod.mk.injEq] at flags
  constructor
  · obtain ⟨aligned, accepts⟩ := build_columns keySheet (keyLayout 1) .standard
    -- The only other column is the first, and it has no name.
    have unnamed : ∀ index < keySheet.columnCount, index ≠ (keyLayout 1).idColumn →
        (keySheet.cell? (keyLayout 1).nameRow index).getD "" = "" := by decide
    have accepted : ∃ schema, build keySheet (keyLayout 1) .standard = .ok schema := by
      apply (accepts rfl ?_).1.mpr
      · intro second
        rcases second with ⟨index, inside, other, named, _⟩
        exact named (unnamed index inside other)
      · intro index inside other named
        exact absurd (unnamed index inside other) named
    obtain ⟨schema, built⟩ := accepted
    obtain ⟨column, located, place, named, _⟩ := (aligned schema built).identifier
    exact ⟨schema, column, built, place, (aligned schema built).index 1 column located, named⟩
  · apply ((build_columns twoKeySheet (keyLayout 0) .standard).2 rfl ?_).2.mpr
    · exact ⟨1, by decide, by decide, by decide, codec, resolved, flags.1, flags.2⟩
    · intro index inside other _
      have second : index = 1 := by
        change index < 2 at inside
        change index ≠ 0 at other
        omega
      rw [second]
      exact ⟨codec, resolved⟩

end Schema

end GameSheet
