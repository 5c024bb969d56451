import GameSheet.Proofs.Codec.CellText
import GameSheet.Proofs.Sheet.Content
import GameSheet.Proofs.Table.Contribution

/-!
Cells respelled. A cell has many spellings of its value and one that the value writes itself, which is
parsed to the same value. Where content is respelled so, the sheet encodes as before: the bytes of a
cell depend on its value only, and no row comes to be a comment.
-/

namespace GameSheet

open Number (Bounded)

namespace ColumnType

variable {type : ColumnType} {text other : String} {value found : Value}

theorem parse_respelled (free : type.FloatFree) (parsed : type.codec.parse text = .ok value) :
    type.codec.parse value.text = .ok value :=
  parse_text free (kind_of_parse parsed) (inCells_of_parse parsed)

theorem value_eq_iff (free : type.FloatFree) (parsed : type.codec.parse text = .ok value)
    (parsed' : type.codec.parse other = .ok found) : value = found ↔ value.text = found.text := by
  constructor
  · intro same
    rw [same]
  · intro same
    have again := parse_respelled free parsed
    rw [same, parse_respelled free parsed'] at again
    exact (Except.ok.inj again).symm

/-- Strings and characters are spelled in one way. Of all other values the texts hold no number sign,
and each of them can be written. -/
theorem text_eq_or_plain (free : type.FloatFree) (parsed : type.codec.parse text = .ok value) :
    value.text = text ∨ '#' ∉ value.text.toList ∧ ∃ bytes, type.codec.write value = .ok bytes := by
  have typed := kind_of_parse parsed
  have numeral : ∀ n, '#' ∉ Text.integer n := Text.not_mem_integer (by decide) (by decide)
  rw [Value.text, String.toList_ofList]
  cases value with
  | string s =>
    cases type with
    | string =>
      cases parsed
      exact Or.inl String.ofList_toList
    | _ => cases typed
  | char c =>
    cases type with
    | char =>
      obtain ⟨_, single, same⟩ := Traversal.map_eq_ok.mp parsed
      cases same
      refine Or.inl (String.toList_inj.mp ?_)
      unfold Codec.parseChar at single
      split at single
      next written =>
        cases single
        rw [written]
        exact String.toList_ofList
      next => cases single
    | _ => cases typed
  | bool flag => exact Or.inr ⟨by cases flag <;> decide, exists_write typed trivial⟩
  | integer kind n => exact Or.inr ⟨numeral n.toInt, exists_write typed trivial⟩
  | datetime ticks => exact Or.inr ⟨numeral ticks.toInt, exists_write typed trivial⟩
  | color32 r g b a =>
    have unmarked : '#' ∉ (Value.color32 r g b a).chars := by
      simp [Value.chars, Value.commaText, Bounded.text, numeral]
    exact Or.inr ⟨unmarked, exists_write typed trivial⟩
  | float | double | tuple =>
    cases type <;> cases typed
    exact free.elim

end ColumnType

def Column.Respells (column : Column) (text spelled : String) : Prop :=
  ∃ type : ColumnType, ∃ value : Value, type.FloatFree ∧ column.codec = type.codec ∧
    type.codec.parse text = .ok value ∧ spelled = value.text

namespace Encode

variable {index : Nat} {column : Column} {text spelled : String}

theorem contribution_respelled (respells : column.Respells text spelled) :
    contribution index column spelled = contribution index column text := by
  obtain ⟨type, value, free, codec, parsed, rfl⟩ := respells
  rcases ColumnType.text_eq_or_plain free parsed with same | ⟨_, bytes, written⟩
  · rw [same]
  · have before : column.codec.wire text = .ok bytes := by
      rw [codec]
      exact Codec.wire_eq_ok.mpr ⟨value, parsed, written⟩
    have after : column.codec.wire value.text = .ok bytes := by
      rw [codec]
      exact Codec.wire_eq_ok.mpr ⟨value, ColumnType.parse_respelled free parsed, written⟩
    simp only [contribution, before, after]

def Alike (index : Nat) (pair other : Column × String) : Prop :=
  pair.1 = other.1 ∧ contribution index pair.1 pair.2 = contribution index other.1 other.2

theorem contributions_congr {pairs others : List (Column × String)}
    (alike : List.Forall₂ (Alike index) pairs others) :
    contributions index pairs = contributions index others := by
  induction alike with
  | nil => rfl
  | cons first _ ih => simp only [contributions, first.2, ih]

end Encode

namespace Schema

structure RespelledRow (schema : Schema) (cells spelled : List String) : Prop where
  length : spelled.length = cells.length
  cell : ∀ index : Nat, spelled[index]? = cells[index]? ∨ ∃ column : Column, ∃ text other,
    schema.columns[index]? = some column ∧ cells[index]? = some text ∧
      spelled[index]? = some other ∧ column.Respells text other

structure Respelled (schema : Schema) (sheet revised : Sheet) : Prop where
  content : ∀ row cells, (row, cells) ∈ sheet.contentRows schema.layout.contentStart →
    ∃ spelled, revised.rows[row]? = some spelled ∧ schema.RespelledRow cells spelled
  other : ∀ row, (∀ cells, (row, cells) ∉ sheet.contentRows schema.layout.contentStart) →
    revised.rows[row]? = sheet.rows[row]?

variable {schema : Schema} {cells spelled : List String} {sheet revised : Sheet}

theorem isComment_eq (cells : List String) :
    Sheet.isComment cells = (cells[0]?.bind (fun first => first.toList.head?) == some '#') := by
  cases cells <;> rfl

theorem RespelledRow.isComment (respelled : schema.RespelledRow cells spelled)
    (content : Sheet.isComment cells = false) : Sheet.isComment spelled = false := by
  rw [isComment_eq] at content ⊢
  rcases respelled.cell 0 with same | ⟨column, text, other, _, before, after, respells⟩
  · rw [same, content]
  · obtain ⟨type, value, free, _, parsed, rfl⟩ := respells
    rw [before] at content
    rw [after]
    rcases ColumnType.text_eq_or_plain free parsed with same | ⟨unmarked, _⟩
    · rw [same, content]
    · rw [Option.bind_some, beq_eq_false_iff_ne]
      intro marked
      exact unmarked (List.mem_of_mem_head? marked)

theorem RespelledRow.framed (respelled : schema.RespelledRow cells spelled) (index : Nat) :
    Encode.framed schema index spelled = Encode.framed schema index cells := by
  have zipped : List.Forall₂ (Encode.Alike index) (schema.columns.zip spelled)
      (schema.columns.zip cells) := by
    apply List.forall₂_iff_get.mpr
    refine ⟨by rw [List.length_zip, List.length_zip, respelled.length], ?_⟩
    intro place inside inside'
    rw [List.length_zip] at inside inside'
    simp only [Encode.Alike, List.get_eq_getElem, List.getElem_zip, true_and]
    rcases respelled.cell place with same | ⟨column, text, other, found, before, after, respells⟩
    · rw [List.getElem?_eq_getElem (by omega), List.getElem?_eq_getElem (by omega),
        Option.some.injEq] at same
      rw [same]
    · rw [List.getElem?_eq_some_iff] at found before after
      obtain ⟨_, rfl⟩ := found
      obtain ⟨_, rfl⟩ := before
      obtain ⟨_, rfl⟩ := after
      exact Encode.contribution_respelled respells
  have encoded : List.Forall₂ (Encode.Alike index) (Encode.pairs schema spelled)
      (Encode.pairs schema cells) := by
    apply List.rel_filter _ zipped
    rintro ⟨column, text⟩ ⟨_, other⟩ ⟨rfl, _⟩
    exact Iff.rfl
  have row : Encode.row schema index spelled = Encode.row schema index cells := by
    by_cases width : cells.length = schema.columns.length
    · rw [Encode.row_eq width, Encode.row_eq (respelled.length.trans width)]
      exact Encode.contributions_congr encoded
    · rw [Encode.row, Encode.row, respelled.length, if_neg width, if_neg width]
  rw [Encode.framed, Encode.framed, row]

theorem Respelled.exists_row (respelled : schema.Respelled sheet revised) {row : Nat}
    (found : sheet.rows[row]? = some cells) :
    ∃ spelled, revised.rows[row]? = some spelled ∧ Sheet.isComment spelled = Sheet.isComment cells := by
  by_cases member : (row, cells) ∈ sheet.contentRows schema.layout.contentStart
  · obtain ⟨spelled, known, cellwise⟩ := respelled.content row cells member
    have content := (Sheet.mem_contentRows.mp member).2.2
    exact ⟨spelled, known, (cellwise.isComment content).trans content.symm⟩
  · refine ⟨cells, ?_, rfl⟩
    rw [← found]
    apply respelled.other
    intro others inside
    obtain rfl := Option.some.inj (found.symm.trans (Sheet.mem_contentRows.mp inside).2.1)
    exact member inside

theorem Respelled.row_eq_none (respelled : schema.Respelled sheet revised) {row : Nat}
    (missing : sheet.rows[row]? = none) : revised.rows[row]? = none := by
  rw [← missing]
  apply respelled.other
  intro cells inside
  have found := (Sheet.mem_contentRows.mp inside).2.1
  rw [missing] at found
  cases found

theorem contentRows_respelled (respelled : schema.Respelled sheet revised) :
    revised.contentRows schema.layout.contentStart =
      (sheet.contentRows schema.layout.contentStart).map
        (fun row => (row.1, revised.rows[row.1]?.getD row.2)) := by
  let rewrite : Nat → List String → List String := fun row cells => revised.rows[row]?.getD cells
  apply @Sheet.contentRows_mapIdx sheet revised _ rewrite
  · apply List.ext_getElem?
    intro row
    rw [List.getElem?_mapIdx]
    cases found : sheet.rows[row]? with
    | none => rw [respelled.row_eq_none found, Option.map_none]
    | some cells =>
      obtain ⟨spelled, known, _⟩ := respelled.exists_row found
      simp only [rewrite, known, Option.map_some, Option.getD_some]
  · intro row cells _ found
    obtain ⟨spelled, known, marked⟩ := respelled.exists_row found
    simp only [rewrite, known, Option.getD_some, marked]

theorem encode_respelled (respelled : schema.Respelled sheet revised) (format : BlobFormat) :
    schema.encode revised format = schema.encode sheet format := by
  have each : ∀ row ∈ sheet.contentRows schema.layout.contentStart,
      Encode.framed schema row.1 (revised.rows[row.1]?.getD row.2) =
        Encode.framed schema row.1 row.2 := by
    intro row member
    obtain ⟨spelled, known, cellwise⟩ := respelled.content row.1 row.2 member
    rw [known, Option.getD_some, cellwise.framed]
  rw [encode, encode, contentRows_respelled respelled, Traversal.mapM_map each]

/-- For types without floating-point numbers: a cell's value has a text that is parsed to the value
again, and two cells have one value exactly when the texts of their values are one. Whichever content
cells of such columns are written as these texts, whatever the schema and the sheet, what comes of
encoding is the same. -/
theorem canonical_spelling :
    (∀ type : ColumnType, type.FloatFree →
      (∀ text value, type.codec.parse text = .ok value → type.codec.parse value.text = .ok value) ∧
      ∀ text other value found, type.codec.parse text = .ok value →
        type.codec.parse other = .ok found → (value = found ↔ value.text = found.text)) ∧
    ∀ (schema : Schema) (sheet revised : Sheet) (format : BlobFormat),
      schema.Respelled sheet revised → schema.encode revised format = schema.encode sheet format := by
  refine ⟨?_, fun schema sheet revised format respelled => encode_respelled respelled format⟩
  intro type free
  refine ⟨fun text value parsed => ColumnType.parse_respelled free parsed, ?_⟩
  intro text other value found parsed parsed'
  exact ColumnType.value_eq_iff free parsed parsed'

def switchSchema : Schema where
  columns := [⟨0, "Id", .id, true, false, none, none⟩, ⟨1, "On", .bool, false, false, none, none⟩,
    ⟨2, "Since", .datetime, false, false, none, none⟩, ⟨3, "Note", .string, false, false, none, none⟩]
  rowLayout :=
    { fields := [⟨"Id", 0, .id⟩, ⟨"On", 1, .bool⟩, ⟨"Since", 2, .datetime⟩, ⟨"Note", 3, .string⟩]
      identifier := 0
      single := rfl
      named := by simp [identifierName, Codec.bool, Codec.datetime, Codec.string] }
  layout := ⟨0, 1, none, none, 2, 0⟩

def switchSheet (cells : List String) (width : cells.length = 4) : Sheet where
  rows := [["Id", "On", "Since", "Note"], ["id", "bool", "datetime", "string"], cells]
  columnCount := 4
  rectangular := by simp [width]

/-- A padded identifier with a sign, a flag in capitals and a date, and the row in the texts of its
values. -/
theorem canonical_spelling_switch :
    switchSchema.encode (switchSheet ["7", "true", "0", "#1"] rfl) .raw =
      switchSchema.encode (switchSheet [" +07", "TRUE", "0001-01-01", "#1"] rfl) .raw := by
  have key : (⟨0, "Id", .id, true, false, none, none⟩ : Column).Respells " +07" "7" := by
    refine ⟨.id, .integer .int ⟨7, by decide, by decide⟩, trivial, rfl, by decide +kernel, ?_⟩
    have digit : Text.integer 7 = ['7'] := Text.natural_of_lt (by decide)
    rw [Value.text, Value.chars, Bounded.text, digit]
  have flag : (⟨1, "On", .bool, false, false, none, none⟩ : Column).Respells "TRUE" "true" :=
    ⟨.bool, .bool true, trivial, rfl, by decide +kernel, by decide⟩
  have since : (⟨2, "Since", .datetime, false, false, none, none⟩ : Column).Respells
      "0001-01-01" "0" := by
    refine ⟨.datetime, .datetime ⟨0, by decide, by decide⟩, trivial, rfl, by decide +kernel, ?_⟩
    have digit : Text.integer 0 = ['0'] := Text.natural_of_lt (by decide)
    rw [Value.text, Value.chars, Bounded.text, digit]
  have row : switchSchema.RespelledRow [" +07", "TRUE", "0001-01-01", "#1"] ["7", "true", "0", "#1"] := by
    refine ⟨rfl, ?_⟩
    rintro (_ | _ | _ | index)
    · exact Or.inr ⟨_, _, _, rfl, rfl, rfl, key⟩
    · exact Or.inr ⟨_, _, _, rfl, rfl, rfl, flag⟩
    · exact Or.inr ⟨_, _, _, rfl, rfl, rfl, since⟩
    · exact Or.inl rfl
  have content : (switchSheet [" +07", "TRUE", "0001-01-01", "#1"] rfl).contentRows 2 =
      [(2, [" +07", "TRUE", "0001-01-01", "#1"])] := by decide +kernel
  apply canonical_spelling.2
  constructor
  · intro place cells member
    cases List.mem_singleton.mp (content ▸ member)
    exact ⟨_, rfl, row⟩
  · rintro (_ | _ | _ | place) outside
    · rfl
    · rfl
    · refine absurd ?_ (outside [" +07", "TRUE", "0001-01-01", "#1"])
      exact content ▸ List.mem_singleton_self _
    · rfl

end Schema

end GameSheet
