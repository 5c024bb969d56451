import GameSheet.Proofs.Schema.Columns
import GameSheet.Proofs.Sheet.Edits
import GameSheet.Proofs.Table.Artifact

/-!
Comments contribute nothing. What a source shows are its columns that are no comments and their cells
in the content rows, and an artifact is made of that alone. A comment row may be put in or taken out
and a comment column written over or taken out without any of it changing, as long as the same rows
stay comments: the first column may be a comment and still decide which rows are.
-/

namespace GameSheet

variable {registry : TypeRegistry} {source revised : Source}

namespace Column

def commentAt (source : Source) (registry : TypeRegistry) (index : Nat) : Bool :=
  (ofSheet source.sheet source.layout registry index).toOption.any isComment

def bareAt (source : Source) (registry : TypeRegistry) (index : Nat) : Option Column :=
  (ofSheet source.sheet source.layout registry index).toOption.map bare

theorem note_congr {sheet other : Sheet} {index place : Nat}
    (same : ∀ row, sheet.cell? row index = other.cell? row place) (row : Option Nat) :
    note sheet row index = note other row place := by
  unfold note
  simp only [same]

structure SameAt (source : Source) (index : Nat) (revised : Source) (place : Nat) : Prop where
  identifier : index = source.layout.idColumn ↔ place = revised.layout.idColumn
  name : source.sheet.cell? source.layout.nameRow index =
    revised.sheet.cell? revised.layout.nameRow place
  type : source.sheet.cell? source.layout.typeRow index =
    revised.sheet.cell? revised.layout.typeRow place
  default : note source.sheet source.layout.defaultRow index =
    note revised.sheet revised.layout.defaultRow place

variable {index place : Nat}

theorem codecOf_toOption (name keyword : String) : (codecOf registry index name keyword).toOption =
    (codecOf registry place name keyword).toOption := by
  unfold codecOf
  cases registry.resolve keyword with
  | ok codec => rfl
  | error cause => by_cases unnamed : name = "" <;> simp [unnamed]

theorem SameAt.nameAt (same : SameAt source index revised place) :
    nameAt source.sheet source.layout index = Column.nameAt revised.sheet revised.layout place := by
  unfold Column.nameAt
  rw [same.name]
  simp only [same.identifier]

theorem SameAt.codecAt (same : SameAt source index revised place) :
    (codecAt source.sheet source.layout registry index).toOption =
      (Column.codecAt revised.sheet revised.layout registry place).toOption := by
  unfold Column.codecAt Column.typeAt
  rw [same.nameAt, same.type]
  by_cases identifies : place = revised.layout.idColumn
  · rw [if_pos identifies, if_pos (same.identifier.mpr identifies)]
  · have other : index ≠ source.layout.idColumn := mt same.identifier.mp identifies
    rw [if_neg identifies, if_neg other]
    exact codecOf_toOption _ _

theorem ofSheet_toOption (source : Source) (registry : TypeRegistry) (index : Nat) :
    (ofSheet source.sheet source.layout registry index).toOption =
      (codecAt source.sheet source.layout registry index).toOption.map
        (withCodec source.sheet source.layout index) := by
  rw [ofSheet_eq]
  cases codecAt source.sheet source.layout registry index <;> rfl

theorem SameAt.isComment (same : SameAt source index revised place) (codec : Codec) :
    (withCodec source.sheet source.layout index codec).isComment =
      (withCodec revised.sheet revised.layout place codec).isComment := by
  simp only [withCodec, same.nameAt, same.identifier]

theorem SameAt.bare (same : SameAt source index revised place) (codec : Codec) :
    (withCodec source.sheet source.layout index codec).bare =
      (withCodec revised.sheet revised.layout place codec).bare := by
  simp only [withCodec, Column.bare, same.nameAt, same.identifier, same.default]

theorem SameAt.commentAt (same : SameAt source index revised place) :
    commentAt source registry index = Column.commentAt revised registry place := by
  unfold Column.commentAt
  rw [ofSheet_toOption, ofSheet_toOption, same.codecAt, Option.any_map, Option.any_map]
  congr 1
  funext codec
  exact same.isComment codec

theorem SameAt.bareAt (same : SameAt source index revised place) :
    bareAt source registry index = Column.bareAt revised registry place := by
  unfold Column.bareAt
  rw [ofSheet_toOption, ofSheet_toOption, same.codecAt, Option.map_map, Option.map_map]
  congr 1
  funext codec
  exact same.bare codec

theorem ne_idColumn_of_commentAt (comment : commentAt source registry index = true) :
    index ≠ source.layout.idColumn := by
  intro identifies
  rw [commentAt, ofSheet_toOption, codecAt, if_pos identifies] at comment
  simp [withCodec, identifies] at comment

end Column

namespace Source

def shown (source : Source) (registry : TypeRegistry) :
    Option (List Column × List (List String)) :=
  (Schema.build source.sheet source.layout registry).toOption.map
    (fun schema => (schema.bareColumns, schema.content source.sheet))

def shownIndices (source : Source) (registry : TypeRegistry) : List Nat :=
  (List.range source.sheet.columnCount).filter
    (fun index => !Column.commentAt source registry index)

def cellsAt (source : Source) (indices : List Nat) : List (List String) :=
  ((source.sheet.contentRows source.layout.contentStart).map Prod.snd).map
    (fun cells => indices.map (fun index => cells.getD index ""))

theorem content_eq {schema : Schema}
    (built : Schema.build source.sheet source.layout registry = .ok schema) :
    schema.content source.sheet = source.cellsAt (source.shownIndices registry) := by
  have made : Schema.Made source.sheet source.layout registry schema.columns :=
    Traversal.mapM_eq_ok.mp (Schema.build_eq_ok built).2.1
  have indices : schema.encodedColumns.map Column.index = source.shownIndices registry := by
    rw [shownIndices, ← made.map_index, List.filter_map, Schema.encodedColumns]
    congr 1
    apply List.filter_congr
    intro column member
    simp [Column.commentAt, (made.ofSheet member).2]
  rw [cellsAt, ← indices, Schema.content, (Schema.build_eq_ok built).2.2.2, List.map_map]
  apply List.map_congr_left
  intro row _
  rw [Function.comp, Schema.shownCells, List.map_map]
  rfl

theorem mapM_bareAt (source : Source) (registry : TypeRegistry) :
    (source.shownIndices registry).mapM (Column.bareAt source registry) =
      ((List.range source.sheet.columnCount).mapM
        (Column.ofSheet source.sheet source.layout registry)).toOption.map (fun columns =>
          (columns.filter (fun column => !column.isComment)).map Column.bare) :=
  Traversal.mapM_filter.symm

/-- Whether columns make a row layout is a matter of their codecs. -/
theorem ofFields_bare {α : Type} (columns : List Column) (value : α) :
    (RowLayout.ofFields ((columns.map Column.bare).map Column.field)).toOption.map (fun _ => value) =
      (RowLayout.ofFields (columns.map Column.field)).toOption.map (fun _ => value) := by
  have codecs : ((columns.map Column.bare).map Column.field).map Field.codec =
      (columns.map Column.field).map Field.codec := by
    rw [List.map_map, List.map_map, List.map_map]
    rfl
  have accepted := @RowLayout.exists_ofFields ((columns.map Column.bare).map Column.field)
  rw [identifierPositions_congr codecs, ← RowLayout.exists_ofFields] at accepted
  cases bare : RowLayout.ofFields ((columns.map Column.bare).map Column.field) with
  | ok rowLayout =>
    obtain ⟨other, made⟩ := accepted.mp ⟨rowLayout, bare⟩
    rw [made]
    rfl
  | error fault =>
    cases made : RowLayout.ofFields (columns.map Column.field) with
    | ok rowLayout =>
      rw [bare, made] at accepted
      simp at accepted
    | error other => rfl

theorem shown_eq (source : Source) (registry : TypeRegistry) : source.shown registry =
    (source.layout.validate source.sheet).toOption.bind (fun _ =>
      ((source.shownIndices registry).mapM (Column.bareAt source registry)).bind (fun columns =>
        (RowLayout.ofFields (columns.map Column.field)).toOption.map (fun _ =>
          (columns, source.cellsAt (source.shownIndices registry))))) := by
  -- The cells are the same for whatever schema is built, so acceptance alone is left to follow.
  have cells : source.shown registry =
      (Schema.build source.sheet source.layout registry).toOption.map (fun schema =>
        (schema.bareColumns, source.cellsAt (source.shownIndices registry))) := by
    unfold shown
    cases built : Schema.build source.sheet source.layout registry with
    | error fault => rfl
    | ok schema => simp only [Traversal.toOption_ok, Option.map_some, content_eq built]
  rw [cells, mapM_bareAt, Schema.build]
  cases source.layout.validate source.sheet with
  | error fault => rfl
  | ok _ =>
    cases (List.range source.sheet.columnCount).mapM
        (Column.ofSheet source.sheet source.layout registry) with
    | error fault => rfl
    | ok columns =>
      simp only [Traversal.toOption_ok, Option.bind_some, Option.map_some, ofFields_bare]
      simp only [bind, Except.bind]
      cases RowLayout.ofFields
          ((columns.filter (fun column => !column.isComment)).map Column.field) <;> rfl

/-- Two sources show the same if the columns that are no comments, and their cells, correspond. -/
theorem shown_congr {place : Nat → Nat}
    (valid : source.layout.validate source.sheet = .ok () ↔
      revised.layout.validate revised.sheet = .ok ())
    (indices : source.shownIndices registry = (revised.shownIndices registry).map place)
    (columns : ∀ index ∈ revised.shownIndices registry,
      Column.SameAt source (place index) revised index)
    (cells : source.cellsAt (source.shownIndices registry) =
      revised.cellsAt (revised.shownIndices registry)) :
    source.shown registry = revised.shown registry := by
  have validate : (source.layout.validate source.sheet).toOption =
      (revised.layout.validate revised.sheet).toOption := by
    cases first : source.layout.validate source.sheet with
    | ok _ => rw [valid.mp first]
    | error fault =>
      cases second : revised.layout.validate revised.sheet with
      | ok _ => simp [first, second] at valid
      | error other => rfl
  have bare : (source.shownIndices registry).mapM (Column.bareAt source registry) =
      (revised.shownIndices registry).mapM (Column.bareAt revised registry) := by
    rw [indices]
    exact Traversal.mapM_map (fun index member => (columns index member).bareAt)
  rw [shown_eq, shown_eq, validate, bare, cells]

theorem shown_insertRow {position : Nat} {cells : List String}
    {width : cells.length = source.sheet.columnCount} (inside : position ≤ source.sheet.rowCount)
    (marked : source.layout.contentStart ≤ position → Sheet.isComment cells = true) :
    (source.insertRow position cells width).shown registry = source.shown registry := by
  have same : ∀ index,
      Column.SameAt (source.insertRow position cells width) index source index := by
    intro index
    have cell := fun row => Sheet.cell?_insertRow width inside row index
    refine ⟨Iff.rfl, cell source.layout.nameRow, cell source.layout.typeRow, ?_⟩
    unfold Column.note insertRow SheetLayout.insertRow
    rw [Option.map_map]
    simp only [Function.comp_def, cell]
  have indices : (source.insertRow position cells width).shownIndices registry =
      source.shownIndices registry := by
    apply List.filter_congr
    intro index _
    rw [(same index).commentAt]
  apply shown_congr (SheetLayout.validate_insertRow width inside) (indices.trans (List.map_id _).symm)
  · intro index _
    exact same index
  · rw [indices]
    unfold cellsAt insertRow SheetLayout.insertRow
    rw [Sheet.contentRows_insertRow width inside marked]

theorem cellsAt_mapIdx {rewrite : Nat → List String → List String} {indices : List Nat}
    {place : Nat → Nat} (start : revised.layout.contentStart = source.layout.contentStart)
    (rows : revised.sheet.rows = source.sheet.rows.mapIdx rewrite)
    (marks : ∀ row, source.layout.contentStart ≤ row →
      revised.sheet.isCommentRow row = source.sheet.isCommentRow row)
    (cells : ∀ row cells, ∀ index ∈ indices,
      (rewrite row cells).getD index "" = cells.getD (place index) "") :
    revised.cellsAt indices = source.cellsAt (indices.map place) := by
  have content := @Sheet.contentRows_mapIdx source.sheet revised.sheet source.layout.contentStart
    rewrite rows (by
      intro row cells low found
      have kept := marks row low
      unfold Sheet.isCommentRow at kept
      rw [rows, List.getElem?_mapIdx, found] at kept
      exact kept)
  unfold cellsAt
  rw [start, content, List.map_map, List.map_map, List.map_map]
  apply List.map_congr_left
  intro row _
  rw [Function.comp, Function.comp, Function.comp, List.map_map]
  apply List.map_congr_left
  intro index member
  exact cells row.1 row.2 index member

theorem ne_of_mem_shownIndices {column index : Nat}
    (comment : Column.commentAt source registry column = true)
    (member : index ∈ source.shownIndices registry) : index ≠ column := by
  intro same
  have plain := (List.mem_filter.mp member).2
  rw [same, comment] at plain
  exact absurd plain (by decide)

theorem shown_setColumn {column : Nat} {texts : Nat → String}
    (before : Column.commentAt source registry column = true)
    (after : Column.commentAt (source.setColumn column texts) registry column = true)
    (marks : ∀ row, source.layout.contentStart ≤ row →
      (source.setColumn column texts).sheet.isCommentRow row = source.sheet.isCommentRow row) :
    (source.setColumn column texts).shown registry = source.shown registry := by
  have same : ∀ index, index ≠ column →
      Column.SameAt (source.setColumn column texts) index source index := by
    intro index other
    exact ⟨Iff.rfl, Sheet.cell?_setColumn other _, Sheet.cell?_setColumn other _,
      Column.note_congr (Sheet.cell?_setColumn other) source.layout.defaultRow⟩
  have indices : (source.setColumn column texts).shownIndices registry =
      source.shownIndices registry := by
    apply List.filter_congr
    intro index _
    by_cases other : index = column
    · rw [other, before, after]
    · rw [(same index other).commentAt]
  apply shown_congr SheetLayout.validate_setColumn (indices.trans (List.map_id _).symm)
  · intro index member
    exact same index (ne_of_mem_shownIndices before member)
  · have cells := @cellsAt_mapIdx source (source.setColumn column texts) _
      (source.shownIndices registry) id rfl rfl marks
    rw [indices, cells, List.map_id]
    intro row cells index member
    have other := ne_of_mem_shownIndices before member
    rw [List.getD_eq_getElem?_getD, List.getElem?_set_ne other.symm, ← List.getD_eq_getElem?_getD]
    rfl

theorem shown_eraseColumn {column : Nat} (inside : column < source.sheet.columnCount)
    (comment : Column.commentAt source registry column = true)
    (marks : ∀ row, source.layout.contentStart ≤ row →
      (source.eraseColumn column).sheet.isCommentRow row = source.sheet.isCommentRow row) :
    (source.eraseColumn column).shown registry = source.shown registry := by
  have apart := Column.ne_idColumn_of_commentAt comment
  have same : ∀ index,
      Column.SameAt source (past column index) (source.eraseColumn column) index := by
    intro index
    have cell : ∀ row, source.sheet.cell? row (past column index) =
        (source.eraseColumn column).sheet.cell? row index :=
      fun row => (Sheet.cell?_eraseColumn column row index).symm
    exact ⟨SheetLayout.past_eq_idColumn apart index, cell _, cell _,
      Column.note_congr cell source.layout.defaultRow⟩
  have indices : source.shownIndices registry =
      ((source.eraseColumn column).shownIndices registry).map (past column) := by
    have dropped : (!Column.commentAt source registry column) = false := by rw [comment]; rfl
    unfold shownIndices
    rw [range_filter_past inside dropped]
    simp only [eraseColumn, Sheet.eraseColumn, if_pos inside]
    congr 1
    apply List.filter_congr
    intro index _
    rw [(same index).commentAt]
    rfl
  -- The smaller sheet is the one whose indices have places in the other.
  symm
  apply shown_congr (SheetLayout.validate_eraseColumn inside apart).symm indices
  · intro index _
    exact same index
  · rw [indices]
    symm
    apply @cellsAt_mapIdx source (source.eraseColumn column) _ _ _ rfl rfl marks
    intro row cells index _
    rw [List.getD_eq_getElem?_getD, List.getD_eq_getElem?_getD, getElem?_eraseIdx_past]

end Source

/-- One edit of the comments in a source. -/
inductive Revises (registry : TypeRegistry) : Source → Source → Prop where
  /-- A row is put in above the content, or a comment row in it. -/
  | row (source : Source) (position : Nat) (cells : List String)
      (width : cells.length = source.sheet.columnCount) (inside : position ≤ source.sheet.rowCount)
      (marked : source.layout.contentStart ≤ position → Sheet.isComment cells = true) :
      Revises registry source (source.insertRow position cells width)
  /-- A comment column gets other texts and stays one. -/
  | texts (source : Source) (column : Nat) (texts : Nat → String)
      (before : Column.commentAt source registry column = true)
      (after : Column.commentAt (source.setColumn column texts) registry column = true)
      (marks : ∀ row, source.layout.contentStart ≤ row →
        (source.setColumn column texts).sheet.isCommentRow row = source.sheet.isCommentRow row) :
      Revises registry source (source.setColumn column texts)
  /-- A comment column is taken out. -/
  | column (source : Source) (column : Nat) (inside : column < source.sheet.columnCount)
      (comment : Column.commentAt source registry column = true)
      (marks : ∀ row, source.layout.contentStart ≤ row →
        (source.eraseColumn column).sheet.isCommentRow row = source.sheet.isCommentRow row) :
      Revises registry source (source.eraseColumn column)

theorem Revises.shown (revises : Revises registry source revised) :
    source.shown registry = revised.shown registry := by
  cases revises with
  | row position cells width inside marked => exact (Source.shown_insertRow inside marked).symm
  | texts column texts before after marks => exact (Source.shown_setColumn before after marks).symm
  | column column inside comment marks => exact (Source.shown_eraseColumn inside comment marks).symm

/-- What is shown stays through any number of edits, done or undone. -/
theorem eqvGen_shown (revises : Relation.EqvGen (Revises registry) source revised) :
    source.shown registry = revised.shown registry := by
  induction revises with
  | rel _ _ step => exact step.shown
  | refl _ => rfl
  | symm _ _ _ ih => exact ih.symm
  | trans _ _ _ _ _ first second => exact first.trans second

namespace Schema

theorem bareColumns_eq_iff {schema other : Schema} : schema.bareColumns = other.bareColumns ↔
    List.Forall₂ Column.Agrees schema.encodedColumns other.encodedColumns := by
  unfold bareColumns
  rw [Traversal.map_eq_map_iff]
  simp only [Column.bare_eq_iff]

theorem exists_of_shown {schema : Schema} (same : source.shown registry = revised.shown registry)
    (built : build source.sheet source.layout registry = .ok schema) :
    ∃ other, build revised.sheet revised.layout registry = .ok other ∧
      schema.bareColumns = other.bareColumns ∧
        schema.content source.sheet = other.content revised.sheet := by
  unfold Source.shown at same
  rw [built] at same
  cases rebuilt : build revised.sheet revised.layout registry with
  | error fault => simp [rebuilt] at same
  | ok other =>
    rw [rebuilt, Traversal.toOption_ok, Traversal.toOption_ok, Option.map_some, Option.map_some,
      Option.some.injEq, Prod.mk.injEq] at same
    exact ⟨other, rfl, same⟩

/-- Sources whose columns that are no comments agree, and have the same cells in the content rows,
have the same artifact. So it stays the same when comments are edited: the source is still accepted
then. -/
theorem comments_contribute_nothing (registry : TypeRegistry) (source revised : Source) :
    (∀ schema other, build source.sheet source.layout registry = .ok schema →
      build revised.sheet revised.layout registry = .ok other →
      List.Forall₂ Column.Agrees schema.encodedColumns other.encodedColumns →
      schema.content source.sheet = other.content revised.sheet →
        SameArtifact schema source.sheet other revised.sheet) ∧
    (Relation.EqvGen (Revises registry) source revised →
      ∀ schema, build source.sheet source.layout registry = .ok schema →
        ∃ other, build revised.sheet revised.layout registry = .ok other ∧
          SameArtifact schema source.sheet other revised.sheet) := by
  constructor
  · intro schema other built rebuilt columns cells
    exact sameArtifact built rebuilt (bareColumns_eq_iff.mpr columns) cells
  · intro revises schema built
    obtain ⟨other, rebuilt, columns, cells⟩ := exists_of_shown (eqvGen_shown revises) built
    exact ⟨other, rebuilt, sameArtifact built rebuilt columns cells⟩

def keySource : Source := ⟨keySheet, keyLayout 1⟩

def markedSource : Source := keySource.insertRow 2 ["#", "8"] rfl

/-- A comment row put in, against a comment column taken out. -/
theorem comments_contribute_nothing_keys : ∃ schema other,
    build markedSource.sheet markedSource.layout .standard = .ok schema ∧
    build (keySource.eraseColumn 0).sheet (keySource.eraseColumn 0).layout .standard = .ok other ∧
    SameArtifact schema markedSource.sheet other (keySource.eraseColumn 0).sheet ∧
    ∃ again, build (keySource.eraseColumn 0).sheet (keySource.eraseColumn 0).layout .standard =
      .ok again ∧ SameArtifact schema markedSource.sheet again (keySource.eraseColumn 0).sheet := by
  have marks : ∀ row, keySource.layout.contentStart ≤ row →
      (keySource.eraseColumn 0).sheet.isCommentRow row = keySource.sheet.isCommentRow row := by
    intro row low
    by_cases last : row = 2
    · rw [last]
      decide
    · change 2 ≤ row at low
      have erased : (keySource.eraseColumn 0).sheet.rows[row]? = none :=
        List.getElem?_eq_none (by change 3 ≤ row; omega)
      have original : keySource.sheet.rows[row]? = none :=
        List.getElem?_eq_none (by change 3 ≤ row; omega)
      rw [Sheet.isCommentRow, Sheet.isCommentRow, erased, original]
  have revises : Relation.EqvGen (Revises .standard) markedSource (keySource.eraseColumn 0) := by
    apply Relation.EqvGen.trans _ keySource
    · apply Relation.EqvGen.symm
      exact .rel _ _ (.row keySource 2 ["#", "8"] rfl (by decide) (fun _ => by decide))
    · exact .rel _ _ (.column keySource 0 (by decide) (by decide +kernel) marks)
  have accepted : (build markedSource.sheet markedSource.layout .standard).toOption.isSome = true := by
    decide +kernel
  cases built : build markedSource.sheet markedSource.layout .standard with
  | error fault => simp [built] at accepted
  | ok schema =>
    obtain ⟨other, rebuilt, columns, cells⟩ := exists_of_shown (eqvGen_shown revises) built
    obtain ⟨agreeing, edited⟩ :=
      comments_contribute_nothing .standard markedSource (keySource.eraseColumn 0)
    exact ⟨schema, other, rfl, rebuilt,
      agreeing schema other built rebuilt (bareColumns_eq_iff.mp columns) cells,
      edited revises schema built⟩

end Schema

end GameSheet
