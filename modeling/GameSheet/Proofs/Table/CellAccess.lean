import GameSheet.Proofs.Sheet.Shape
import GameSheet.Proofs.Table.ContentRows
import GameSheet.Proofs.Table.Fallback
import GameSheet.Table.StringPool

/-!
Look-ups of cells. Schemas, encoded rows, string pools and records take cells from rows and columns that
come from a layout, from columns and from fields. Here each of them is given the look-up that it takes
its cells with. Any look-up that has the cells of the sheet gives the same, whatever it has elsewhere:
the empty text, or nothing, which leaves nothing of the result either. So no cell outside is asked for.
-/

namespace GameSheet

/-- The cell of a row and a column, where there is one. -/
abbrev LookUp := Nat → Nat → Option String

abbrev Reading (ε : Type) := ExceptT ε Option

namespace Reading

variable {ε α β : Type}

def of (result : Except ε α) : Reading ε α := ExceptT.mk (some result)

theorem of_bind (result : Except ε α) (next : α → Except ε β) :
    of (result >>= next) = of result >>= fun value => of (next value) := by
  cases result <;> rfl

theorem mapM_of {f : α → Except ε β} {g : α → Reading ε β} {items : List α}
    (each : ∀ item ∈ items, g item = of (f item)) : items.mapM g = of (items.mapM f) := by
  induction items with
  | nil => rfl
  | cons item items ih =>
    rw [List.mapM_cons, List.mapM_cons, of_bind, each item List.mem_cons_self]
    apply bind_congr
    intro value
    rw [of_bind, ih (fun other member => each other (List.mem_cons_of_mem item member))]
    rfl

end Reading

namespace Sheet

variable {sheet : Sheet} {look : LookUp} {row column : Nat}

def Answers (sheet : Sheet) (look : LookUp) : Prop :=
  ∀ row column text, sheet.cell? row column = some text → look row column = some text

theorem answers_cell? (sheet : Sheet) : sheet.Answers sheet.cell? := fun _ _ _ found => found

theorem Answers.of_isSome (answers : sheet.Answers look) (inside : (sheet.cell? row column).isSome) :
    look row column = some ((sheet.cell? row column).getD "") := by
  obtain ⟨text, found⟩ := Option.isSome_iff_exists.mp inside
  rw [answers row column text found, found, Option.getD_some]

end Sheet

/-! Schemas -/

namespace Column

variable {sheet : Sheet} {look : LookUp} {layout : SheetLayout} {registry : TypeRegistry}
  {index : Nat}

def noteBy (look : LookUp) (index : Nat) : Option Nat → Option (Option String)
  | none => some none
  | some row => (look row index).map (fun text => (some text).filter (fun text => text ≠ ""))

def ofSheetBy (look : LookUp) (layout : SheetLayout) (registry : TypeRegistry) (index : Nat) :
    Reading SchemaError Column := do
  let isIdentifier := decide (index = layout.idColumn)
  let name ← if isIdentifier then pure identifierName else look layout.nameRow index
  let codec ← if isIdentifier then pure registry.identifier
    else do
      let keyword ← look layout.typeRow index
      Reading.of (codecOf registry index name keyword)
  let default ← noteBy look index layout.defaultRow
  let comment ← noteBy look index layout.commentRow
  return {
    index := index
    name := name
    codec := codec
    isIdentifier := isIdentifier
    isComment := !isIdentifier && (name == "" || codec.isComment)
    default := default
    comment := comment }

theorem noteBy_eq {row : Option Nat}
    (found : ∀ place ∈ row, look place index = some ((sheet.cell? place index).getD "")) :
    noteBy look index row = some (note sheet row index) := by
  cases row with
  | none => rfl
  | some row =>
    rw [noteBy, found row rfl]
    rfl

/-- A column looks up cells of the metadata rows only. -/
theorem ofSheetBy_eq (found : ∀ row ∈ layout.metadataNumbers,
      look row index = some ((sheet.cell? row index).getD "")) :
    ofSheetBy look layout registry index = Reading.of (ofSheet sheet layout registry index) := by
  have places : layout.nameRow ∈ layout.metadataNumbers ∧ layout.typeRow ∈ layout.metadataNumbers ∧
      (∀ row ∈ layout.defaultRow, row ∈ layout.metadataNumbers) ∧
      ∀ row ∈ layout.commentRow, row ∈ layout.metadataNumbers := by
    simp +contextual [SheetLayout.metadataNumbers, SheetLayout.metadataRows]
  obtain ⟨name, type, default, comment⟩ := places
  rw [ofSheetBy, ofSheet, found _ name, found _ type,
    noteBy_eq (fun row given => found row (default row given)),
    noteBy_eq (fun row given => found row (comment row given))]
  cases decide (index = layout.idColumn) with
  | true => rfl
  | false =>
    rw [if_neg Bool.false_ne_true, if_neg Bool.false_ne_true]
    simp only [Reading.of_bind]
    rfl

end Column

namespace Schema

variable {sheet : Sheet} {look : LookUp} {layout : SheetLayout} {registry : TypeRegistry}
  {schema : Schema}

def buildBy (look : LookUp) (sheet : Sheet) (layout : SheetLayout) (registry : TypeRegistry) :
    Reading SchemaError Schema := do
  Reading.of (layout.validate sheet)
  let columns ← (List.range sheet.columnCount).mapM (Column.ofSheetBy look layout registry)
  let encoded := columns.filter (fun column => !column.isComment)
  let rowLayout ← Reading.of (RowLayout.ofFields (encoded.map Column.field))
  return ⟨columns, rowLayout, layout⟩

theorem isSome_metadata (valid : layout.validate sheet = .ok ()) :
    ∀ row ∈ layout.metadataNumbers, ∀ index < sheet.columnCount, (sheet.cell? row index).isSome := by
  intro row metadata index inside
  exact (sheet.isSome_cell? row index).mpr ⟨SheetLayout.metadataNumbers_lt valid metadata, inside⟩

theorem buildBy_eq (answers : sheet.Answers look) (layout : SheetLayout) (registry : TypeRegistry) :
    buildBy look sheet layout registry = Reading.of (build sheet layout registry) := by
  unfold buildBy build
  cases valid : layout.validate sheet with
  | error fault => rfl
  | ok _ =>
    have columns : (List.range sheet.columnCount).mapM (Column.ofSheetBy look layout registry) =
        Reading.of ((List.range sheet.columnCount).mapM (Column.ofSheet sheet layout registry)) := by
      apply Reading.mapM_of
      intro index member
      apply Column.ofSheetBy_eq
      intro row metadata
      exact answers.of_isSome (isSome_metadata valid row metadata index (List.mem_range.mp member))
    rw [columns]
    simp only [Reading.of_bind]
    rfl

theorem isSome_column (built : build sheet layout registry = .ok schema) {start row : Nat}
    (content : row ∈ sheet.contentNumbers start) {column : Column} (member : column ∈ schema.columns) :
    (sheet.cell? row column.index).isSome := by
  obtain ⟨index, found⟩ := List.mem_iff_getElem?.mp member
  have inside := (List.getElem?_eq_some_iff.mp found).1
  rw [columns_length built] at inside
  rw [column_index built found, Sheet.isSome_cell?]
  exact ⟨(Sheet.mem_contentNumbers.mp content).2.1, inside⟩

theorem isSome_field (built : build sheet layout registry = .ok schema) {start row : Nat}
    (content : row ∈ sheet.contentNumbers start) {field : Field}
    (member : field ∈ schema.rowLayout.fields) : (sheet.cell? row field.column).isSome := by
  rw [fields_eq built] at member
  obtain ⟨column, encoded, rfl⟩ := List.mem_map.mp member
  exact isSome_column built content (mem_encodedColumns.mp encoded).1

end Schema

/-! Encoded rows -/

namespace Encode

variable {sheet : Sheet} {look : LookUp} {layout : SheetLayout} {registry : TypeRegistry}
  {schema : Schema}

def columnsBy (look : LookUp) (row : Nat) : List Column → RowProgress → Option RowOutcome
  | [], progress => some ⟨progress.notices, .ok progress.sink⟩
  | head :: rest, progress => do
    let text ← look row head.index
    match column row head text progress with
    | .error fault => return ⟨progress.notices, .error fault⟩
    | .ok next => columnsBy look row rest next

def rowBy (look : LookUp) (schema : Schema) (row width : Nat) : Option RowOutcome :=
  if width = schema.columns.length then columnsBy look row schema.encodedColumns ⟨[], []⟩
  else some ⟨[], .error (.rowWidth row schema.columns.length width)⟩

theorem columnsBy_eq {row : Nat} {heads : List Column} {text : Column → String}
    (found : ∀ head ∈ heads, look row head.index = some (text head)) (progress : RowProgress) :
    columnsBy look row heads progress =
      some (columns row (heads.map (fun head => (head, text head))) progress) := by
  induction heads generalizing progress with
  | nil => rfl
  | cons head heads ih =>
    rw [List.map_cons, columns, columnsBy, found head List.mem_cons_self]
    cases turn : column row head (text head) progress with
    | error fault => simp [turn]
    | ok next =>
      simpa [turn] using ih (fun other member => found other (List.mem_cons_of_mem head member)) next

theorem rowBy_eq (answers : sheet.Answers look) {source : Sheet}
    (built : Schema.build source layout registry = .ok schema) (row : Nat) :
    rowBy look schema row (sheet.cellsAt row).length =
      some (Encode.row schema row (sheet.cellsAt row)) := by
  by_cases width : (sheet.cellsAt row).length = schema.columns.length
  · rw [rowBy, Encode.row, if_pos width, if_pos width, pairs_eq built width]
    apply columnsBy_eq
    intro column member
    apply answers
    rw [← Sheet.getElem?_cellsAt]
    exact Schema.getElem?_cell built width member
  · rw [rowBy, Encode.row, if_neg width, if_neg width]

/-- A column fails for what its cell or its default says. -/
theorem contributions_ne_rowWidth {row index expected found : Nat} (pairs : List (Column × String)) :
    (contributions row pairs).result ≠ .error (.rowWidth index expected found) := by
  induction pairs with
  | nil => exact nofun
  | cons pair pairs ih =>
    obtain ⟨head, text⟩ := pair
    rw [contributions]
    cases contributed : contribution row head text with
    | error fault => cases settles_iff.mpr contributed <;> simp
    | ok part =>
      simp only [ne_eq, Traversal.map_eq_error]
      exact ih

theorem encode_ne_rowWidth (built : Schema.build sheet layout registry = .ok schema)
    (format : BlobFormat) (row expected found : Nat) :
    schema.encode sheet format ≠ .error (.rowWidth row expected found) := by
  intro failed
  obtain ⟨front, ⟨index, cells⟩, back, split, _, framed⟩ := Schema.encode_eq_error.mp failed
  have member : (index, cells) ∈ sheet.contentRows schema.layout.contentStart := by
    rw [split]
    exact List.mem_append_right front List.mem_cons_self
  have width := Schema.contentRows_width built (index, cells) member
  rcases framed_eq_error.mp framed with refused | ⟨_, _, _, other⟩
  · rw [row_eq width] at refused
    exact contributions_ne_rowWidth _ refused
  · exact absurd other (by simp)

end Encode

/-! String pools -/

namespace StringPool

variable {sheet : Sheet} {look : LookUp} {columns : List Column} {start : Nat}

def buildBy (look : LookUp) (columns : List Column) (rows : List Nat) : Option StringPool := do
  let counted := columns.filter Column.isString
  let texts ← rows.mapM (fun row => counted.mapM (fun column => look row column.index))
  return ofCounts (tally texts.flatten).entries

/-- Where every cell is there, none is passed by. -/
theorem buildBy_eq (answers : sheet.Answers look)
    (inside : ∀ row ∈ sheet.contentNumbers start, ∀ column ∈ columns,
      (sheet.cell? row column.index).isSome) :
    buildBy look columns (sheet.contentNumbers start) = some (build sheet columns start) := by
  let counted := columns.filter Column.isString
  let texts (row : Nat) : List String := counted.filterMap (fun column => sheet.cell? row column.index)
  have each : ∀ row ∈ sheet.contentNumbers start,
      counted.mapM (fun column => look row column.index) = some (texts row) := by
    intro row content
    apply Traversal.mapM_eq_filterMap
    intro column member
    obtain ⟨text, found⟩ := Option.isSome_iff_exists.mp
      (inside row content column (List.mem_filter.mp member).1)
    exact ⟨text, answers row column.index text found, found⟩
  have rows : (sheet.contentNumbers start).mapM
      (fun row => counted.mapM (fun column => look row column.index)) =
      some ((sheet.contentNumbers start).map texts) := by
    rw [Traversal.mapM_eq_filterMap (fun row content => ⟨texts row, each row content, rfl⟩),
      List.filterMap_eq_map']
  have all : ((sheet.contentNumbers start).map texts).flatten = cells sheet columns start := by
    rw [cells, Sheet.contentRows_eq_map, List.flatMap_map, ← List.flatMap_def]
    simp only [Sheet.getElem?_cellsAt]
    rfl
  rw [buildBy, rows, build, ← all]
  rfl

end StringPool

/-! Records, and all of them together -/

namespace Schema

variable {sheet : Sheet} {look : LookUp} {layout : SheetLayout} {registry : TypeRegistry}
  {schema : Schema}

def recordBy (look : LookUp) (schema : Schema) (expected : RowLayout) (row : Nat) :
    Reading DecodeError Record := do
  let values ← schema.rowLayout.fields.mapM (fun field => do
    let text ← look row field.column
    Reading.of ((field.codec.parse text).mapError (.textCell row field.name)))
  Reading.of (expected.record row values)

theorem recordBy_eq (answers : sheet.Answers look) {row : Nat}
    (inside : ∀ field ∈ schema.rowLayout.fields, (sheet.cell? row field.column).isSome)
    (expected : RowLayout) :
    recordBy look schema expected row = Reading.of (schema.recordAt sheet expected row) := by
  have values : schema.rowLayout.fields.mapM (fun field => do
        let text ← look row field.column
        Reading.of ((field.codec.parse text).mapError (.textCell row field.name))) =
      Reading.of (schema.rowLayout.fields.mapM
        (RowLayout.parseField row (sheet.cellsAt row))) := by
    apply Reading.mapM_of
    intro field member
    rw [answers.of_isSome (inside field member), RowLayout.parseField, List.getD_eq_getElem?_getD,
      Sheet.getElem?_cellsAt]
    rfl
  rw [recordBy, values, recordAt, Reading.of_bind]

structure MadeBy (look : LookUp) (schema : Schema) (sheet : Sheet) (layout : SheetLayout)
    (registry : TypeRegistry) : Prop where
  built : buildBy look sheet layout registry = Reading.of (.ok schema)
  rows : ∀ row ∈ sheet.contentNumbers layout.contentStart,
    Encode.rowBy look schema row (sheet.cellsAt row).length =
      some (Encode.row schema row (sheet.cellsAt row))
  pool : StringPool.buildBy look schema.columns (sheet.contentNumbers layout.contentStart) =
    some (StringPool.build sheet schema.columns layout.contentStart)
  records : ∀ expected, ∀ row ∈ sheet.contentNumbers layout.contentStart,
    recordBy look schema expected row = Reading.of (schema.recordAt sheet expected row)

theorem madeBy (built : build sheet layout registry = .ok schema) (answers : sheet.Answers look) :
    MadeBy look schema sheet layout registry where
  built := by rw [buildBy_eq answers, built]
  rows row _ := Encode.rowBy_eq answers built row
  pool := StringPool.buildBy_eq answers
    (fun _ content _ member => isSome_column built content member)
  records expected _ content := recordBy_eq answers
    (fun _ member => isSome_field built content member) expected

/-- A text has a sheet exactly when all of its lines are as wide as the first; otherwise the first line
that is not is named with its width. A sheet has a cell at each position within its bounds. The
positions at which rows are told from comments, and at which a schema, its rows, its string pool and
its records look cells up, are within, so that it does not matter what there is elsewhere; and no row
of the sheet has the wrong width. -/
theorem lookups_inside (options : CellOptions) (text : String) :
    ((∃ sheet, Sheet.parse options text = .ok sheet) ↔
      ∀ width ∈ Sheet.widths options text, (Sheet.widths options text).head? = some width) ∧
    (∀ fault, Sheet.parse options text = .error fault ↔
      (Sheet.widths options text).head? = some fault.expected ∧
        (Sheet.widths options text)[fault.row]? = some fault.found ∧ fault.found ≠ fault.expected ∧
        ∀ row < fault.row, (Sheet.widths options text)[row]? = some fault.expected) ∧
    ∀ layout registry sheet schema, Sheet.load options layout text = .ok sheet →
      build sheet layout registry = .ok schema →
      (∀ row column, (sheet.cell? row column).isSome ↔
        row < sheet.rowCount ∧ column < sheet.columnCount) ∧
      (∀ row < sheet.rowCount, (sheet.cell? row 0).isSome) ∧
      (∀ row ∈ layout.metadataNumbers, ∀ index < sheet.columnCount,
        (sheet.cell? row index).isSome) ∧
      (∀ row ∈ sheet.contentNumbers layout.contentStart,
        (∀ column ∈ schema.columns, (sheet.cell? row column.index).isSome) ∧
          ∀ field ∈ schema.rowLayout.fields, (sheet.cell? row field.column).isSome) ∧
      (∀ look, sheet.Answers look → MadeBy look schema sheet layout registry) ∧
      ∀ format row expected found,
        schema.encode sheet format ≠ .error (.rowWidth row expected found) := by
  refine ⟨Sheet.exists_parse, fun fault => Sheet.parse_eq_ragged, ?_⟩
  intro layout registry sheet schema loaded built
  have valid := Sheet.validate_of_load loaded
  refine ⟨sheet.isSome_cell?, ?_, isSome_metadata valid, ?_,
    fun look answers => madeBy built answers, Encode.encode_ne_rowWidth built⟩
  · intro row inside
    exact (sheet.isSome_cell? row 0).mpr ⟨inside, Nat.zero_lt_of_lt (idColumn_lt valid)⟩
  · intro row content
    exact ⟨fun column member => isSome_column built content member,
      fun field member => isSome_field built content member⟩

def gainLayout : SheetLayout := ⟨0, 1, some 2, some 3, 3, 0⟩

def gainText : String :=
  "Id\tName\tGain\nid\tstring\tint\n\t\t4\n#\tcalled\t\n1\tone\t\n2\t\t7\n"

/-- Nothing is missed with a look-up that has nothing outside. -/
theorem lookups_inside_gains : ∃ sheet schema,
    Sheet.load .standard gainLayout gainText = .ok sheet ∧
      build sheet gainLayout .standard = .ok schema ∧
      sheet.contentNumbers gainLayout.contentStart = [4, 5] ∧ sheet.cell? 6 0 = none ∧
      sheet.cell? 4 3 = none ∧ MadeBy sheet.cell? schema sheet gainLayout .standard ∧
      ∀ format row expected found,
        schema.encode sheet format ≠ .error (.rowWidth row expected found) := by
  have runs : (Sheet.load .standard gainLayout gainText).toOption.bind (fun sheet =>
      (build sheet gainLayout .standard).toOption.map (fun _ =>
        (sheet.contentNumbers gainLayout.contentStart, sheet.cell? 6 0, sheet.cell? 4 3))) =
      some ([4, 5], none, none) := by decide +kernel
  obtain ⟨sheet, loaded, rest⟩ := Traversal.toOption_bind_eq_some.mp runs
  obtain ⟨schema, built, same⟩ := Option.map_eq_some_iff.mp rest
  have built := Traversal.toOption_eq_some.mp built
  simp only [Prod.mk.injEq] at same
  obtain ⟨content, below, behind⟩ := same
  obtain ⟨_, _, inside⟩ := lookups_inside .standard gainText
  obtain ⟨_, _, _, _, made, width⟩ := inside gainLayout .standard sheet schema loaded built
  exact ⟨sheet, schema, loaded, built, content, below, behind, made _ sheet.answers_cell?, width⟩

end Schema

end GameSheet
