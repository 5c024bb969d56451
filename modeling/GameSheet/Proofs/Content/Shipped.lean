import GameSheet.Proofs.Codec.Keywords
import GameSheet.Proofs.Content.Sources
import GameSheet.Proofs.Sheet.Cells
import GameSheet.Proofs.Sheet.Rendering
import GameSheet.Proofs.Table.Pool
import GameSheet.Proofs.Table.TextMode

/-!
The strings that ship. The pool counts cells by the flags of their columns, and the blob holds what
those cells parse as; the two agree, string by string. Only a text that has no wire form because of
its length is counted and not shipped: its column's default ships instead, and a notice says so.
-/

namespace GameSheet

namespace ColumnType

variable {type : ColumnType}

theorem isString_codec (type : ColumnType) : type.codec.isString = decide (type = .string) := by
  cases type <;> rfl

theorem asString_parse (other : type ≠ .string) {text : String} {value : Value}
    (parsed : type.codec.parse text = .ok value) : value.asString = none := by
  cases type with
  | string => exact absurd rfl other
  | comment => simp [codec, Codec.comment] at parsed
  | color32 =>
    obtain ⟨parts, _, same⟩ := Traversal.bind_eq_ok.mp parsed
    rw [← Except.ok.inj same]
    rfl
  | _ =>
    obtain ⟨_, _, rfl⟩ := Traversal.map_eq_ok.mp parsed
    rfl

end ColumnType

namespace Value

theorem asString_eq_some {value : Value} {s : String} : value.asString = some s ↔ value = .string s := by
  cases value <;> simp [asString]

theorem count_strings (values : List Value) (s : String) :
    (values.filterMap asString).count s = values.count (.string s) := by
  rw [List.count_filterMap, List.count]
  apply List.countP_congr
  intro value _
  rw [beq_iff_eq, beq_iff_eq, asString_eq_some]

theorem length_strings (values : List Value) :
    (values.filterMap asString).length = values.countP (fun value => value.kind = .string) := by
  rw [List.length_filterMap_eq_countP]
  apply List.countP_congr
  intro value _
  cases value <;> simp [asString, kind]

end Value

def stringNotices (notices : List FallbackNotice) : List FallbackNotice :=
  notices.filter (fun notice => notice.site.typeKeyword = ColumnType.string.keyword)

/-- Texts that were counted and strings that shipped are the same ones, but that for each notice the
default shipped in place of a text that is too long for the wire. -/
structure Balances (counted shipped : List String) (notices : List FallbackNotice) : Prop where
  texts : (counted ++ notices.map FallbackNotice.defaultText).Perm
    (shipped ++ notices.map (fun notice => notice.site.rawText))
  present : ∀ notice ∈ notices, notice.site.rawText ∈ counted
  oversized : ∀ notice ∈ notices, 2 ^ 32 ≤ (Text.Utf8.encode notice.site.rawText.toList).length

namespace Balances

theorem nil : Balances [] [] [] := ⟨List.Perm.refl _, nofun, nofun⟩

theorem append {counted shipped more later : List String} {notices rest : List FallbackNotice}
    (front : Balances counted shipped notices) (back : Balances more later rest) :
    Balances (counted ++ more) (shipped ++ later) (notices ++ rest) := by
  constructor
  · rw [List.perm_iff_count]
    intro text
    have first := front.texts.count_eq text
    have second := back.texts.count_eq text
    simp only [List.map_append, List.count_append] at first second ⊢
    omega
  · intro notice member
    rcases List.mem_append.mp member with before | behind
    · exact List.mem_append_left more (front.present notice before)
    · exact List.mem_append_right counted (back.present notice behind)
  · intro notice member
    rcases List.mem_append.mp member with before | behind
    · exact front.oversized notice before
    · exact back.oversized notice behind

variable {α β γ : Type} {made : α → β → Prop} {ships : α → γ → Prop} {counted : α → List String}
  {shipped : γ → List String} {notices : β → List FallbackNotice}

/-- What balances one by one balances as a whole. -/
theorem flatMap {items : List α} {results : List β} {values : List γ}
    (results_of : List.Forall₂ made items results) (values_of : List.Forall₂ ships items values)
    (each : ∀ item ∈ items, ∀ result value, made item result → ships item value →
      Balances (counted item) (shipped value) (notices result)) :
    Balances (items.flatMap counted) (values.flatMap shipped) (results.flatMap notices) := by
  induction results_of generalizing values with
  | nil =>
    cases values_of
    exact Balances.nil
  | @cons item result items results first _ ih =>
    cases values_of with
    | @cons _ value _ values given rest =>
      simp only [List.flatMap_cons]
      apply (each item List.mem_cons_self result value first given).append
      exact ih rest (fun other member => each other (List.mem_cons_of_mem item member))

end Balances

namespace Encode

variable {index : Nat} {column : Column} {text : String}
  {part : List UInt8 × Option FallbackNotice} {value : Value}

/-- A string cell is counted, and it ships or is too long for it. -/
theorem string_balances (known : column.codec = Codec.string)
    (contributed : contribution index column text = .ok part) (ships : column.Ships text value) :
    Balances [text] value.asString.toList (stringNotices part.2.toList) := by
  have parses : ∀ chosen : String, column.codec.parse chosen = .ok (.string chosen) := by
    intro chosen
    rw [known]
    rfl
  cases settles_iff.mpr contributed with
  | cell encoded =>
    have own := ships.1 (Codec.encodes_iff.mpr ⟨_, encoded⟩)
    rw [parses, Except.ok.injEq] at own
    rw [← own]
    exact ⟨List.Perm.refl _, nofun, nofun⟩
  | @fallback reason defaultText bytes failed _ given _ =>
    -- The default ships in the cell's place, and the notice has both on the other side.
    have refused := Codec.not_encodes failed
    obtain ⟨_, same, own⟩ := ships.2 refused
    rw [given, Option.some.injEq] at same
    rw [← same, parses, Except.ok.injEq] at own
    have noted : stringNotices [⟨⟨index, column.index, column.name, column.typeKeyword, text⟩,
        defaultText, reason⟩] = [⟨⟨index, column.index, column.name, column.typeKeyword, text⟩,
        defaultText, reason⟩] := by
      apply List.filter_singleton.trans
      rw [Column.typeKeyword, known]
      rfl
    rw [← own, Option.toList_some, noted]
    constructor
    · exact List.Perm.swap _ _ _
    · intro notice member
      rw [List.mem_singleton.mp member]
      exact List.mem_singleton_self text
    · intro notice member
      rw [List.mem_singleton.mp member]
      -- A string that is short enough is always written.
      by_contra short
      obtain ⟨bytes, written⟩ := ColumnType.codec_writes .string (not_le.mp short) rfl
      refine refused ⟨.string text, bytes, parses text, ?_⟩
      rw [known]
      exact written

theorem other_balances {type : ColumnType} (known : column.codec = type.codec)
    (other : type ≠ .string) (contributed : contribution index column text = .ok part)
    (ships : column.Ships text value) :
    Balances [] value.asString.toList (stringNotices part.2.toList) := by
  have plain : value.asString = none := by
    by_cases encodes : column.codec.Encodes text
    · have parsed := ships.1 encodes
      rw [known] at parsed
      exact ColumnType.asString_parse other parsed
    · obtain ⟨defaultText, _, parsed⟩ := ships.2 encodes
      rw [known] at parsed
      exact ColumnType.asString_parse other parsed
  have silent : stringNotices part.2.toList = [] := by
    cases settles_iff.mpr contributed with
    | cell encoded => rfl
    | fallback failed =>
      have keyword : column.typeKeyword ≠ ColumnType.string.keyword := by
        rw [Column.typeKeyword, known, ColumnType.codec_keyword]
        exact ColumnType.keyword_injective.ne other
      exact List.filter_singleton.trans (by simp [keyword])
  rw [plain, silent]
  exact Balances.nil

theorem contribution_balances {type : ColumnType} (known : column.codec = type.codec)
    (contributed : contribution index column text = .ok part) (ships : column.Ships text value) :
    Balances (if column.codec.isString then [text] else []) value.asString.toList
      (stringNotices part.2.toList) := by
  rw [known, ColumnType.isString_codec]
  by_cases kind : type = .string
  · rw [kind] at known
    rw [decide_eq_true kind, if_pos rfl]
    exact string_balances known contributed ships
  · rw [decide_eq_false kind, if_neg Bool.false_ne_true]
    exact other_balances known kind contributed ships

end Encode

namespace Schema

variable {source sheet : Sheet} {layout : SheetLayout} {schema : Schema}

theorem codec_of_keyword (built : build source layout .standard = .ok schema) {column : Column}
    (member : column ∈ schema.encodedColumns) {type : ColumnType}
    (same : column.codec.keyword = type.codec.keyword) : column.codec = type.codec := by
  obtain ⟨own, codec⟩ := (codecFrom_of_mem built member).standard
  rw [codec] at same ⊢
  exact ColumnType.codec_eq_of_keyword same

/-- The cells of a row that the pool counts are those of its string fields. -/
theorem counted_eq (built : build source layout .standard = .ok schema) {cells : List String}
    (width : cells.length = schema.columns.length) :
    (schema.columns.filter Column.isString).filterMap (fun column => cells[column.index]?) =
      schema.encodedColumns.flatMap (fun column =>
        if column.codec.isString then [cells.getD column.index ""] else []) := by
  rw [Encode.counted_pairs built width, Encode.pairs_eq built width, List.filterMap_map,
    List.filterMap_eq_flatMap_toList]
  apply List.flatMap_congr
  intro column _
  cases flag : column.codec.isString <;> simp [flag]

theorem row_balances (built : build source layout .standard = .ok schema) {row : Nat × List String}
    {framed : List UInt8 × List FallbackNotice} {record : Record}
    (done : Encode.framed schema row.1 row.2 = .ok framed) (ships : schema.Ships row.2 record) :
    Balances ((schema.columns.filter Column.isString).filterMap
        (fun column => row.2[column.index]?))
      (record.values.filterMap Value.asString) (stringNotices framed.2) := by
  obtain ⟨width, parts, related, _, _, noticed⟩ := (Encode.framed_eq_ok built).mp done
  rw [counted_eq built width, List.filterMap_eq_flatMap_toList, noticed, stringNotices,
    List.filter_flatMap]
  apply Balances.flatMap related ships.values
  intro column member part value contributed given
  obtain ⟨type, known⟩ := (codecFrom_of_mem built member).standard
  obtain ⟨text, cell, shipped⟩ := given
  rw [getElem?_cell built width member, Option.some.injEq] at cell
  rw [← cell] at shipped
  exact Encode.contribution_balances known contributed shipped

theorem encode_balances (built : build source layout .standard = .ok schema) {format : BlobFormat}
    {table : EncodedTable} (encoded : schema.encode sheet format = .ok table) :
    ∃ records, schema.rowLayout.decode format table.blob = .ok records ∧
      Balances (StringPool.cells sheet schema.columns schema.layout.contentStart)
        ((records.flatMap Record.values).filterMap Value.asString)
        (stringNotices table.fallbacks) := by
  obtain ⟨rows, framed, rfl⟩ := encode_eq_ok.mp encoded
  obtain ⟨records, decoded, ships⟩ :=
    decode_framed TypeRegistry.standard_lawful built format framed
  refine ⟨records, decoded, ?_⟩
  rw [StringPool.cells, List.filterMap_flatMap, stringNotices, List.filter_flatMap]
  apply Balances.flatMap framed ships
  intro row _ result record done shipped
  exact row_balances built done shipped

end Schema

theorem StringPool.exists_row {sheet : Sheet} {columns : List Column} {start : Nat} {text : String}
    (member : text ∈ cells sheet columns start) : ∃ row ∈ sheet.rows, text ∈ row := by
  obtain ⟨⟨index, row⟩, content, counted⟩ := List.mem_flatMap.mp member
  obtain ⟨column, _, cell⟩ := List.mem_filterMap.mp counted
  exact ⟨row, Sheet.mem_rows_of_contentRows content, List.mem_of_getElem? cell⟩

def CompiledTable.countedCells (compiled : CompiledTable) : List String :=
  StringPool.cells compiled.sheet compiled.schema.columns compiled.schema.layout.contentStart

def CompiledTable.stringNotices (compiled : CompiledTable) : List FallbackNotice :=
  GameSheet.stringNotices compiled.encoded.fallbacks

/-- The pool counts the strings of these records. In all it counts as many; for a notice of a string
column it counts the text that was too long, while the default shipped, and without such notices it
counts every string as often as it occurs. -/
structure CompiledTable.Counts (compiled : CompiledTable) (records : List Record) : Prop where
  total : (compiled.pool.entries.map Prod.snd).sum =
    (records.flatMap Record.values).countP (fun value => value.kind = .string)
  each : ∀ s, compiled.pool.countOf s +
      (compiled.stringNotices.map FallbackNotice.defaultText).count s =
    (records.flatMap Record.values).count (.string s) +
      (compiled.stringNotices.map (fun notice => notice.site.rawText)).count s
  oversized : ∀ notice ∈ compiled.stringNotices,
    2 ^ 32 ≤ (Text.Utf8.encode notice.site.rawText.toList).length
  exactly : compiled.stringNotices = [] → ∀ s,
    compiled.pool.countOf s = (records.flatMap Record.values).count (.string s) ∧
      ((compiled.pool.indexOf? s).isSome ↔ .string s ∈ records.flatMap Record.values)

theorem counts_of_balances {compiled : CompiledTable} {records : List Record}
    (pool : compiled.pool =
      .build compiled.sheet compiled.schema.columns compiled.schema.layout.contentStart)
    (balances : Balances (StringPool.cells compiled.sheet compiled.schema.columns
        compiled.schema.layout.contentStart)
      ((records.flatMap Record.values).filterMap Value.asString) compiled.stringNotices) :
    compiled.Counts records := by
  have each : ∀ s, compiled.pool.countOf s +
        (compiled.stringNotices.map FallbackNotice.defaultText).count s =
      (records.flatMap Record.values).count (.string s) +
        (compiled.stringNotices.map (fun notice => notice.site.rawText)).count s := by
    intro s
    have same := balances.texts.count_eq s
    rwa [List.count_append, List.count_append, Value.count_strings, ← StringPool.countOf_build,
      ← pool] at same
  refine ⟨?_, each, balances.oversized, ?_⟩
  · have same := balances.texts.length_eq
    simp only [List.length_append, List.length_map, Nat.add_right_cancel_iff] at same
    rw [pool, StringPool.sum_build, same, Value.length_strings]
  · intro silent s
    have same : compiled.pool.countOf s = (records.flatMap Record.values).count (.string s) := by
      simpa [silent] using each s
    refine ⟨same, ?_⟩
    rw [← List.count_pos_iff, ← same, pool, StringPool.countOf_build, StringPool.indexOf?_build,
      List.count_pos_iff]

/-- The pool of a compiled source counts the strings of the records that its blob decodes to. No
string column takes a default if all cells that are counted are below 4 GiB, as they are in a source
below 4 GiB. -/
theorem pool_counts_shipped {options : CellOptions} {layout : SheetLayout} {format : BlobFormat}
    {text : String} {compiled : CompiledTable}
    (done : compileSource .standard options layout format text = .ok compiled) :
    (∃ records, compiled.schema.rowLayout.decode format compiled.encoded.blob = .ok records ∧
      compiled.Counts records) ∧
    ((∀ cell ∈ compiled.countedCells, (Text.Utf8.encode cell.toList).length < 2 ^ 32) →
      compiled.stringNotices = []) ∧
    ((Text.Utf8.encode text.toList).length < 2 ^ 32 →
      ∀ cell ∈ compiled.countedCells, (Text.Utf8.encode cell.toList).length < 2 ^ 32) := by
  obtain ⟨checked, encoded, pool⟩ := compileSource_eq_ok.mp done
  obtain ⟨loaded, built, _⟩ := checkSource_eq_ok.mp checked
  obtain ⟨records, decoded, balances⟩ := Schema.encode_balances built encoded
  refine ⟨⟨records, decoded, counts_of_balances pool balances⟩, fun short => ?_,
    fun short cell member => ?_⟩
  · apply List.eq_nil_iff_forall_not_mem.mpr
    intro notice member
    have long := balances.oversized notice member
    have small := short _ (balances.present notice member)
    omega
  · obtain ⟨row, inside, stood⟩ := StringPool.exists_row member
    exact (Sheet.cell_length_le loaded inside stood).trans_lt short

/-- A comment column behind the fields, a comment row, an empty label and a speed that is none. -/
def shipText : String :=
  "Id\tLabel\tSpeed\tNote\nid\tstring\tfloat\t#\n\t\t0\t\n1\ta\t1\tx\n#2\tb\t1\tx\n3\t\tfast\ty\n4\ta\t2\tz\n"

def shipLayout : SheetLayout := ⟨0, 1, some 2, none, 3, 0⟩

theorem pool_counts_shipped_labels : ∃ compiled,
    compileSource .standard .standard shipLayout .raw shipText = .ok compiled ∧
      compiled.encoded.fallbacks.length = 1 ∧ (compiled.pool.entries.map Prod.snd).sum = 3 ∧
      compiled.pool.countOf "a" = 2 ∧ compiled.pool.countOf "" = 1 ∧
      ¬(compiled.pool.indexOf? "b").isSome := by
  have runs : (compileSource .standard .standard shipLayout .raw shipText).toOption.bind
      (fun compiled =>
        (compiled.schema.rowLayout.decode .raw compiled.encoded.blob).toOption.bind (fun records =>
          some (compiled.encoded.fallbacks.length,
            (records.flatMap Record.values).countP (fun value => value.kind = .string),
            (records.flatMap Record.values).count (.string "a"),
            (records.flatMap Record.values).count (.string ""),
            decide (.string "b" ∈ records.flatMap Record.values)))) =
      some (1, 3, 2, 1, false) := by decide +kernel
  obtain ⟨compiled, done, runs⟩ := Traversal.toOption_bind_eq_some.mp runs
  obtain ⟨read, decodes, runs⟩ := Traversal.toOption_bind_eq_some.mp runs
  simp only [Option.some.injEq, Prod.mk.injEq, decide_eq_false_iff_not] at runs
  obtain ⟨fallbacks, strings, labelled, unlabelled, absent⟩ := runs
  obtain ⟨⟨records, decoded, counts⟩, silent, short⟩ := pool_counts_shipped done
  have silent := silent (short (by decide))
  rw [decodes, Except.ok.injEq] at decoded
  rw [← decoded] at counts
  refine ⟨compiled, done, fallbacks, ?_, ?_, ?_, ?_⟩
  · rw [counts.total, strings]
  · rw [(counts.exactly silent "a").1, labelled]
  · rw [(counts.exactly silent "").1, unlabelled]
  · rw [(counts.exactly silent "b").2]
    exact absent

/-! Labels that have no wire form -/

namespace Oversized

def sheet (label : String) : Sheet where
  rows := [["Id", "Name"], ["id", "string"], ["", "none"], ["7", label]]
  columnCount := 2
  rectangular := by simp

def layout : SheetLayout := ⟨0, 1, some 2, none, 3, 0⟩

def text (label : String) : String :=
  String.ofList (Sheet.render '\t' .feed ((sheet label).rows.map (List.map String.toList)))

def letters (count : Nat) : String := String.ofList (List.replicate count 'a')

theorem eq_of_mem_letters {count : Nat} {c : Char} (member : c ∈ (letters count).toList) :
    c = 'a' := by
  rw [letters, String.toList_ofList] at member
  exact List.eq_of_mem_replicate member

theorem holds_letters (count : Nat) : CellOptions.standard.Holds (letters count) := by
  refine ⟨fun c member => ?_, fun c first => ?_, fun c last => ?_⟩
  · rw [eq_of_mem_letters member]
    simp [CellOptions.Plain, CellOptions.standard]
  · rw [eq_of_mem_letters (List.mem_of_head? first)]
    decide
  · rw [eq_of_mem_letters (List.mem_of_getLast? last)]
    decide

theorem length_letters (count : Nat) :
    (Text.Utf8.encode (letters count).toList).length = count := by
  have one : (Text.Utf8.encodeChar 'a').length = 1 := by decide
  rw [letters, String.toList_ofList, Text.Utf8.encode, List.length_flatMap, List.map_replicate,
    List.sum_replicate, one, smul_eq_mul, Nat.mul_one]

variable {label : String}

theorem holds_sheet (holds : CellOptions.standard.Holds label) :
    ∀ cells ∈ (sheet label).rows, ∀ cell ∈ cells, CellOptions.standard.Holds cell := by
  simp only [sheet, List.forall_mem_cons, List.not_mem_nil, false_imp_iff, implies_true, and_true,
    holds]
  refine ⟨⟨?_, ?_⟩, ⟨?_, ?_⟩, ⟨?_, ?_⟩, ?_⟩ <;>
    refine ⟨?_, ?_, ?_⟩ <;> simp [CellOptions.Plain, CellOptions.standard]

theorem unmarked_sheet (label : String) : ∀ cells ∈ (sheet label).rows.head?,
    ∀ cell ∈ cells.head?, cell.toList.head? ≠ some '\ufeff' := by
  simp [sheet]

def grid (holds : CellOptions.standard.Holds label) : Grid .standard where
  rows := (sheet label).rows
  width := 2
  nonempty := List.cons_ne_nil _ _
  positive := Nat.two_pos
  rectangular := (sheet label).rectangular
  holds := holds_sheet holds
  unmarked := unmarked_sheet label

theorem parse_text (holds : CellOptions.standard.Holds label) :
    Sheet.parse .standard (text label) = .ok (sheet label) := by
  have spelled : (grid holds).Spelled ((sheet label).rows.map (List.map String.toList)) := by
    rw [Grid.Spelled, List.forall₂_map_right_iff, grid, List.forall₂_same]
    intro cells _
    rw [List.forall₂_map_right_iff, List.forall₂_same]
    intro cell _
    exact ⟨[], [], by simp, by simp, by simp⟩
  have separates : CellOptions.standard.Separates := by
    simp [CellOptions.Separates, CellOptions.standard]
  have unmarked : Sheet.dropMark (text label).toList =
      Sheet.render '\t' .feed ((sheet label).rows.map (List.map String.toList)) := by
    rw [text, String.toList_ofList]
    rfl
  have rows : Sheet.rowsOf .standard (text label) = (sheet label).rows := by
    rw [Sheet.rowsOf, unmarked]
    exact Sheet.rows_render separates (grid holds) .feed spelled
  rw [Sheet.parse_eq_ok, rows]
  exact ⟨rfl, rfl⟩

theorem load_text (holds : CellOptions.standard.Holds label) :
    Sheet.load .standard layout (text label) = .ok (sheet label) := by
  rw [Sheet.load, parse_text holds]
  rfl

structure Columns (schema : Schema) (identifier name : Column) : Prop where
  width : schema.columns.length = 2
  encoded : schema.encodedColumns = [identifier, name]
  first : identifier.index = 0
  number : identifier.codec = .id
  second : name.index = 1
  plain : name.isIdentifier = false
  default : name.default = some "none"
  string : name.codec = .string

theorem exists_schema (label : String) : ∃ schema identifier name,
    Schema.build (sheet label) layout .standard = .ok schema ∧ schema.checkNames = .ok () ∧
      Columns schema identifier name := by
  have metadata : ∀ named ∈ layout.metadataRows,
      (sheet label).rows[named.2]? = (sheet "").rows[named.2]? := by
    simp [sheet, layout, SheetLayout.metadataRows]
  have same : Schema.build (sheet label) layout .standard = Schema.build (sheet "") layout .standard :=
    Schema.build_of_metadata rfl rfl metadata
  have runs : (Schema.build (sheet "") layout .standard).toOption.any (fun schema =>
      schema.checkNames.toOption.isSome && decide (schema.columns.length = 2 ∧
        schema.encodedColumns.map (fun column =>
          (column.index, column.isIdentifier, column.default, column.codec.keyword)) =
        [(0, true, none, "id"), (1, false, some "none", "string")])) := by decide +kernel
  obtain ⟨schema, built, runs⟩ := (Option.any_eq_true _ _).mp runs
  rw [Traversal.toOption_eq_some, ← same] at built
  rw [Bool.and_eq_true, decide_eq_true_eq, Option.isSome_iff_exists] at runs
  simp only [Traversal.toOption_eq_some, List.map_eq_cons_iff, List.map_eq_nil_iff,
    Prod.mk.injEq] at runs
  obtain ⟨⟨_, names⟩, width, identifier, _, encoded, ⟨first, _, _, keyword⟩, name, _, rfl,
    ⟨second, plain, default, spelled⟩, rfl⟩ := runs
  have number : identifier.codec = ColumnType.id.codec :=
    Schema.codec_of_keyword built (by simp [encoded]) keyword
  have string : name.codec = ColumnType.string.codec :=
    Schema.codec_of_keyword built (by simp [encoded]) spelled
  exact ⟨schema, identifier, name, built, names,
    ⟨width, encoded, first, number, second, plain, default, string⟩⟩

theorem exists_wire_error (long : 2 ^ 32 ≤ (Text.Utf8.encode label.toList).length) :
    ∃ reason, Codec.string.wire label = .error reason := by
  cases encoded : Codec.string.wire label with
  | error reason => exact ⟨reason, rfl⟩
  | ok bytes =>
    obtain ⟨value, parsed, written⟩ := Codec.wire_eq_ok.mp encoded
    rw [← Except.ok.inj parsed] at written
    simp only [Codec.string] at written
    split at written
    next bytes short => exact absurd (Codec.stringBytes_eq_some_iff.mp short).1 (Nat.not_lt.mpr long)
    next => simp [Codec.mismatch] at written

def notice (name : Column) (label : String) (reason : CellFailure) : FallbackNotice :=
  ⟨⟨3, name.index, name.name, name.typeKeyword, label⟩, "none", reason⟩

/-- The default stands in for the label. -/
theorem framed_row {schema : Schema} {identifier name : Column} {reason : CellFailure}
    (built : Schema.build (sheet label) layout .standard = .ok schema)
    (columns : Columns schema identifier name) (refused : Codec.string.wire label = .error reason) :
    Encode.framed schema 3 ["7", label] =
      .ok (Frame.encode [7, 4, 110, 111, 110, 101], [notice name label reason]) := by
  have number : Encode.contribution 3 identifier (["7", label].getD identifier.index "") =
      .ok ([7], none) := by
    apply Encode.settles_iff.mp
    apply Encode.Settles.cell
    rw [columns.first, columns.number]
    change Codec.id.wire "7" = .ok [7]
    decide +kernel
  have cell : ["7", label].getD name.index "" = label := by
    rw [columns.second]
    rfl
  have text : Encode.contribution 3 name (["7", label].getD name.index "") =
      .ok ([4, 110, 111, 110, 101], some (notice name label reason)) := by
    rw [cell]
    rw [← columns.string] at refused
    apply Encode.settles_iff.mp
    apply Encode.Settles.fallback refused columns.plain columns.default
    rw [columns.string]
    decide +kernel
  apply (Encode.framed_eq_ok built).mpr
  refine ⟨columns.width.symm,
    [([7], none), ([4, 110, 111, 110, 101], some (notice name label reason))], ?_, ?_, rfl, rfl⟩
  · rw [columns.encoded]
    exact .cons number (.cons text .nil)
  · change 6 < 2 ^ 32
    decide

theorem exists_compiled (holds : CellOptions.standard.Holds label)
    (long : 2 ^ 32 ≤ (Text.Utf8.encode label.toList).length) : ∃ compiled name reason,
    compileSource .standard .standard layout .raw (text label) = .ok compiled ∧
      compiled.stringNotices = [notice name label reason] := by
  obtain ⟨schema, identifier, name, built, names, columns⟩ := exists_schema label
  obtain ⟨reason, refused⟩ := exists_wire_error long
  have framed := framed_row built columns refused
  have content : (sheet label).contentRows schema.layout.contentStart = [(3, ["7", label])] := by
    rw [(Schema.build_eq_ok built).2.2.2]
    rfl
  have rows : List.Forall₂ (fun row result => Encode.framed schema row.1 row.2 = .ok result)
      ((sheet label).contentRows schema.layout.contentStart)
      [(Frame.encode [7, 4, 110, 111, 110, 101], [notice name label reason])] := by
    rw [content]
    exact .cons framed .nil
  have encoded : schema.encode (sheet label) .raw = .ok _ :=
    Schema.encode_eq_ok.mpr ⟨_, rows, rfl⟩
  have checked := checkSource_eq_ok.mpr ⟨load_text holds, built, names⟩
  refine ⟨⟨_, schema, .build (sheet label) schema.columns schema.layout.contentStart, _⟩, name, reason,
    compileSource_eq_ok.mpr ⟨checked, encoded, rfl⟩, ?_⟩
  have keyword : (notice name label reason).site.typeKeyword = ColumnType.string.keyword := by
    change name.codec.keyword = _
    rw [columns.string]
    rfl
  change List.filter (fun notice => notice.site.typeKeyword = ColumnType.string.keyword)
    [notice name label reason] = _
  rw [List.filter_singleton, keyword]
  rfl

theorem exists_counted (holds : CellOptions.standard.Holds label)
    (long : 2 ^ 32 ≤ (Text.Utf8.encode label.toList).length) : ∃ compiled records,
    compileSource .standard .standard layout .raw (text label) = .ok compiled ∧
      compiled.schema.rowLayout.decode .raw compiled.encoded.blob = .ok records ∧
      compiled.pool.countOf label = (records.flatMap Record.values).count (.string label) + 1 := by
  obtain ⟨compiled, name, reason, done, notices⟩ := exists_compiled holds long
  obtain ⟨checked, encoded, pool⟩ := compileSource_eq_ok.mp done
  obtain ⟨_, built, _⟩ := checkSource_eq_ok.mp checked
  obtain ⟨records, decoded, balances⟩ := Schema.encode_balances built encoded
  have other : label ≠ "none" := by
    rintro rfl
    revert long
    decide
  have each := (counts_of_balances pool balances).each label
  simp only [notices, List.map_singleton, notice, List.count_singleton, beq_iff_eq, other.symm,
    beq_self_eq_true, if_false, if_true, Nat.add_zero] at each
  exact ⟨compiled, records, done, decoded, each⟩

/-- A label of four gibibytes. -/
theorem pool_counts_oversized : ∃ compiled records,
    compileSource .standard .standard layout .raw (text (letters (2 ^ 32))) = .ok compiled ∧
      compiled.schema.rowLayout.decode .raw compiled.encoded.blob = .ok records ∧
      compiled.pool.countOf (letters (2 ^ 32)) =
        (records.flatMap Record.values).count (.string (letters (2 ^ 32))) + 1 := by
  apply exists_counted (holds_letters _)
  rw [length_letters]

end Oversized

end GameSheet
