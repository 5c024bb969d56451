import GameSheet.Proofs.Schema.Build
import GameSheet.Table.Encode

/-!
What the columns of a row contribute to it. Encoding a row column by column into one sink, with the
sink cut back after every failed attempt, comes to the same as putting together contributions that
know nothing of each other.
-/

namespace GameSheet

namespace Codec

def wire (codec : Codec) (text : String) : Except CellFailure (List UInt8) := do
  let value ← (codec.parse text).mapError .parse
  (codec.write value).mapError (fun failed => .write failed.reason)

def Encodes (codec : Codec) (text : String) : Prop :=
  ∃ value bytes, codec.parse text = .ok value ∧ codec.write value = .ok bytes

theorem wire_eq_ok {codec : Codec} {text : String} {bytes : List UInt8} :
    codec.wire text = .ok bytes ↔
      ∃ value, codec.parse text = .ok value ∧ codec.write value = .ok bytes := by
  rw [wire, Traversal.bind_eq_ok]
  simp only [Traversal.mapError_eq_ok]

theorem encodes_iff {codec : Codec} {text : String} :
    codec.Encodes text ↔ ∃ bytes, codec.wire text = .ok bytes := by
  simp only [wire_eq_ok]
  exact exists_comm

theorem not_encodes {codec : Codec} {text : String} {reason : CellFailure}
    (failed : codec.wire text = .error reason) : ¬codec.Encodes text := by
  intro encodes
  obtain ⟨bytes, encoded⟩ := encodes_iff.mp encodes
  rw [failed] at encoded
  simp at encoded

end Codec

theorem RowOutcome.eq_of_result {outcome : RowOutcome} {bytes : List UInt8}
    (encoded : outcome.result = .ok bytes) : outcome = ⟨outcome.notices, .ok bytes⟩ := by
  rw [← encoded]

namespace Encode

def contribution (row : Nat) (column : Column) (text : String) :
    Except EncodeError (List UInt8 × Option FallbackNotice) :=
  let site : CellSite := ⟨row, column.index, column.name, column.typeKeyword, text⟩
  match column.codec.wire text with
  | .ok bytes => .ok (bytes, none)
  | .error reason =>
    match column.isIdentifier, column.default with
    | false, some defaultText =>
      match column.codec.wire defaultText with
      | .ok bytes => .ok (bytes, some ⟨site, defaultText, reason⟩)
      | .error again => .error (.invalidDefault site defaultText again)
    | _, _ => .error (.invalidCell site reason)

/-- What a column makes of a cell: bytes with at most one notice, or the error that ends the row. -/
inductive Settles (row : Nat) (column : Column) (text : String) :
    Except EncodeError (List UInt8 × Option FallbackNotice) → Prop where
  | cell {bytes : List UInt8} (encoded : column.codec.wire text = .ok bytes) :
      Settles row column text (.ok (bytes, none))
  | fallback {reason : CellFailure} {defaultText : String} {bytes : List UInt8}
      (failed : column.codec.wire text = .error reason) (plain : column.isIdentifier = false)
      (given : column.default = some defaultText)
      (encoded : column.codec.wire defaultText = .ok bytes) :
      Settles row column text (.ok (bytes, some
        ⟨⟨row, column.index, column.name, column.typeKeyword, text⟩, defaultText, reason⟩))
  | invalidCell {reason : CellFailure} (failed : column.codec.wire text = .error reason)
      (alone : column.isIdentifier = true ∨ column.default = none) :
      Settles row column text (.error
        (.invalidCell ⟨row, column.index, column.name, column.typeKeyword, text⟩ reason))
  | invalidDefault {reason again : CellFailure} {defaultText : String}
      (failed : column.codec.wire text = .error reason) (plain : column.isIdentifier = false)
      (given : column.default = some defaultText)
      (refused : column.codec.wire defaultText = .error again) :
      Settles row column text (.error (.invalidDefault
        ⟨row, column.index, column.name, column.typeKeyword, text⟩ defaultText again))

theorem settles_iff {index : Nat} {column : Column} {text : String}
    {result : Except EncodeError (List UInt8 × Option FallbackNotice)} :
    Settles index column text result ↔ contribution index column text = result := by
  constructor
  · intro settles
    cases settles with
    | cell encoded => simp only [contribution, encoded]
    | fallback failed plain given encoded => simp only [contribution, failed, plain, given, encoded]
    | invalidCell failed alone =>
      rcases alone with identifies | none
      · simp only [contribution, failed, identifies]
      · cases identifies : column.isIdentifier <;> simp only [contribution, failed, identifies, none]
    | invalidDefault failed plain given refused =>
      simp only [contribution, failed, plain, given, refused]
  · intro contributed
    rw [← contributed]
    unfold contribution
    cases encoded : column.codec.wire text with
    | ok bytes => exact .cell encoded
    | error reason =>
      cases plain : column.isIdentifier with
      | true => exact .invalidCell encoded (Or.inl plain)
      | false =>
        cases given : column.default with
        | none => exact .invalidCell encoded (Or.inr given)
        | some defaultText =>
          simp only
          cases again : column.codec.wire defaultText with
          | ok bytes => exact .fallback encoded plain given again
          | error reason => exact .invalidDefault encoded plain given again

def contributions (row : Nat) : List (Column × String) → RowOutcome
  | [] => ⟨[], .ok []⟩
  | (head, text) :: rest =>
    match contribution row head text with
    | .error fault => ⟨[], .error fault⟩
    | .ok (bytes, notice) =>
      let later := contributions row rest
      ⟨notice.toList ++ later.notices, later.result.map (bytes ++ ·)⟩

theorem cell_of_ok {codec : Codec} {text : String} {bytes : List UInt8}
    (encoded : codec.wire text = .ok bytes) (sink : List UInt8) :
    cell codec text sink = (sink ++ bytes, none) := by
  obtain ⟨value, parsed, written⟩ := Codec.wire_eq_ok.mp encoded
  simp only [cell, parsed, written]

/-- A failed attempt may leave bytes, but only behind those that were there. -/
theorem cell_of_error {codec : Codec} {text : String} {reason : CellFailure}
    (failed : codec.wire text = .error reason) (sink : List UInt8) :
    ∃ left, cell codec text sink = (sink ++ left, some reason) := by
  unfold Codec.wire at failed
  cases parsed : codec.parse text with
  | error fault =>
    rw [parsed] at failed
    rw [← Except.error.inj failed]
    exact ⟨[], by simp only [cell, parsed, List.append_nil]⟩
  | ok value =>
    rw [parsed] at failed
    cases written : codec.write value with
    | ok bytes =>
      simp [written, Except.mapError, bind, Except.bind] at failed
    | error fault =>
      simp only [Except.mapError, bind, Except.bind, written, Except.error.injEq] at failed
      rw [← failed]
      exact ⟨fault.left, by simp only [cell, parsed, written]⟩

theorem column_eq (row : Nat) (column : Column) (text : String) (progress : RowProgress) :
    Encode.column row column text progress = (contribution row column text).map
      (fun part => ⟨progress.sink ++ part.1, progress.notices ++ part.2.toList⟩) := by
  cases first : column.codec.wire text with
  | ok bytes =>
    simp only [Encode.column, contribution, first, cell_of_ok first, Except.map, Option.toList_none,
      List.append_nil]
  | error reason =>
    obtain ⟨left, attempt⟩ := cell_of_error first progress.sink
    -- What the attempt left stands behind the mark, so cutting back restores the sink.
    have restored : (progress.sink ++ left).take progress.sink.length = progress.sink :=
      List.take_left
    simp only [Encode.column, contribution, first, attempt, restored]
    cases column.isIdentifier with
    | true => rfl
    | false =>
      cases column.default with
      | none => rfl
      | some defaultText =>
        simp only
        cases second : column.codec.wire defaultText with
        | ok bytes =>
          simp only [cell_of_ok second, Except.map, Option.toList_some]
        | error again =>
          obtain ⟨_, retry⟩ := cell_of_error second progress.sink
          simp only [retry, Except.map]

/-- The sink takes the contributions behind what it holds, and the notices likewise. -/
theorem columns_eq (row : Nat) (pairs : List (Column × String)) (progress : RowProgress) :
    columns row pairs progress =
      ⟨progress.notices ++ (contributions row pairs).notices,
        (contributions row pairs).result.map (progress.sink ++ ·)⟩ := by
  induction pairs generalizing progress with
  | nil => simp [columns, contributions, Except.map]
  | cons pair pairs ih =>
    obtain ⟨head, text⟩ := pair
    rw [columns, column_eq, contributions]
    cases contribution row head text with
    | error fault => simp [Except.map]
    | ok part =>
      simp only [Except.map, ih, List.append_assoc]
      cases (contributions row pairs).result <;> rfl

theorem contributions_eq_ok {row : Nat} {pairs : List (Column × String)} {bytes : List UInt8}
    {notices : List FallbackNotice} :
    contributions row pairs = ⟨notices, .ok bytes⟩ ↔
      ∃ parts, List.Forall₂ (fun pair part => contribution row pair.1 pair.2 = .ok part) pairs parts ∧
        bytes = parts.flatMap Prod.fst ∧ notices = parts.flatMap (fun part => part.2.toList) := by
  induction pairs generalizing bytes notices with
  | nil =>
    simp only [contributions, List.forall₂_nil_left_iff, exists_eq_left, List.flatMap_nil,
      RowOutcome.mk.injEq, Except.ok.injEq]
    constructor
    · intro given
      rcases given with ⟨rfl, rfl⟩
      exact ⟨rfl, rfl⟩
    · intro given
      rcases given with ⟨rfl, rfl⟩
      exact ⟨rfl, rfl⟩
  | cons pair pairs ih =>
    obtain ⟨head, text⟩ := pair
    simp only [contributions, List.forall₂_cons_left_iff]
    cases contributed : contribution row head text with
    | error fault => simp
    | ok part =>
      simp only [RowOutcome.mk.injEq, Traversal.map_eq_ok, Except.ok.injEq]
      constructor
      · intro given
        rcases given with ⟨rfl, later, rest, rfl⟩
        obtain ⟨parts, related, rfl, same⟩ := ih.mp (RowOutcome.eq_of_result rest)
        refine ⟨part :: parts, ⟨part, parts, rfl, related, rfl⟩, rfl, ?_⟩
        rw [same, List.flatMap_cons]
      · intro given
        rcases given with ⟨_, ⟨_, parts, rfl, related, rfl⟩, rfl, rfl⟩
        have done := ih.mpr ⟨parts, related, rfl, rfl⟩
        rw [done]
        exact ⟨by rw [List.flatMap_cons], _, rfl, rfl⟩

variable {source : Sheet} {layout : SheetLayout} {registry : TypeRegistry} {schema : Schema}

theorem pairs_eq (built : Schema.build source layout registry = .ok schema) {cells : List String}
    (width : cells.length = schema.columns.length) :
    pairs schema cells =
      schema.encodedColumns.map (fun column => (column, cells.getD column.index "")) := by
  have aligned : schema.columns.zip cells =
      schema.columns.map (fun column => (column, cells.getD column.index "")) := by
    apply List.ext_getElem
    · rw [List.length_zip, List.length_map, width, Nat.min_self]
    · intro index _ inside
      rw [List.length_map] at inside
      have place := Schema.column_index built (List.getElem?_eq_getElem inside)
      rw [List.getElem_zip, List.getElem_map, place, List.getD_eq_getElem cells "" (width ▸ inside)]
  rw [pairs, aligned, List.filter_map, Schema.encodedColumns]
  rfl

/-- The cells of a row that the string pool counts are among those that are encoded. -/
theorem counted_pairs (built : Schema.build source layout registry = .ok schema)
    {cells : List String} (width : cells.length = schema.columns.length) :
    (schema.columns.filter Column.isString).filterMap (fun column => cells[column.index]?) =
      (pairs schema cells).filterMap
        (fun (column, text) => if column.codec.isString then some text else none) := by
  have flagged : schema.columns.filter Column.isString =
      schema.encodedColumns.filter (fun column => column.codec.isString) := by
    rw [Schema.encodedColumns, List.filter_filter]
    apply List.filter_congr
    intro column _
    exact Bool.and_comm _ _
  rw [flagged, List.filterMap_filter, pairs_eq built width, List.filterMap_map]
  apply List.filterMap_congr
  intro column member
  rw [Schema.getElem?_cell built width member]
  rfl

theorem row_eq {index : Nat} {cells : List String}
    (width : cells.length = schema.columns.length) :
    row schema index cells = contributions index (pairs schema cells) := by
  rw [row, if_pos width, columns_eq]
  have same : (contributions index (pairs schema cells)).result.map ([] ++ ·) =
      (contributions index (pairs schema cells)).result := by
    cases (contributions index (pairs schema cells)).result <;> rfl
  rw [same, List.nil_append]

theorem row_eq_ok (built : Schema.build source layout registry = .ok schema) {index : Nat}
    {cells : List String} {bytes : List UInt8} {notices : List FallbackNotice} :
    row schema index cells = ⟨notices, .ok bytes⟩ ↔
      cells.length = schema.columns.length ∧ ∃ parts,
        List.Forall₂ (fun column part =>
          contribution index column (cells.getD column.index "") = .ok part)
          schema.encodedColumns parts ∧
        bytes = parts.flatMap Prod.fst ∧ notices = parts.flatMap (fun part => part.2.toList) := by
  by_cases width : cells.length = schema.columns.length
  · rw [row_eq width, pairs_eq built width, contributions_eq_ok]
    simp only [List.forall₂_map_left_iff, width, true_and]
  · simp [row, width]

theorem framed_eq_ok (built : Schema.build source layout registry = .ok schema) {index : Nat}
    {cells : List String} {frame : List UInt8} {notices : List FallbackNotice} :
    framed schema index cells = .ok (frame, notices) ↔
      cells.length = schema.columns.length ∧ ∃ parts,
        List.Forall₂ (fun column part =>
          contribution index column (cells.getD column.index "") = .ok part)
          schema.encodedColumns parts ∧
        (parts.flatMap Prod.fst).length < 2 ^ 32 ∧ frame = Frame.encode (parts.flatMap Prod.fst) ∧
        notices = parts.flatMap (fun part => part.2.toList) := by
  have limit : Number.IntegerKind.uint.count = 2 ^ 32 := by decide
  rw [framed, Traversal.bind_eq_ok, limit]
  constructor
  · intro given
    rcases given with ⟨bytes, encoded, rest⟩
    obtain ⟨width, parts, related, rfl, same⟩ :=
      (row_eq_ok built).mp (RowOutcome.eq_of_result encoded)
    split at rest
    next short =>
      obtain ⟨rfl, rfl⟩ := Prod.mk.inj (Except.ok.inj rest)
      exact ⟨width, parts, related, short, rfl, same⟩
    next => simp [throw, throwThe, MonadExceptOf.throw] at rest
  · intro given
    rcases given with ⟨width, parts, related, short, rfl, rfl⟩
    rw [(row_eq_ok built).mpr ⟨width, parts, related, rfl, rfl⟩]
    refine ⟨_, rfl, ?_⟩
    rw [if_pos short]
    rfl

end Encode

end GameSheet
