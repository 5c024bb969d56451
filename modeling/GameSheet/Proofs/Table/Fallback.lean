import GameSheet.Proofs.Table.RoundTrip

/-!
What stands in for cells that cannot be encoded. The policy is a relation between the cells of a row
and how the row ends: it knows no sink, so no byte of a failed attempt can be in it. A table whose
defaults were written into its cells has the same blob, and takes no default any more.
-/

namespace GameSheet

namespace Encode

/-- How a row ends whose columns, in order, make what they make of their cells: with the bytes and
the notices of all of them, or with the first error and the notices before it. -/
inductive Follows (row : Nat) (cells : List String) : List Column → RowOutcome → Prop where
  | done : Follows row cells [] ⟨[], .ok []⟩
  | next {column : Column} {columns : List Column} {bytes : List UInt8}
      {notice : Option FallbackNotice} {later : RowOutcome}
      (first : Settles row column (cells.getD column.index "") (.ok (bytes, notice)))
      (rest : Follows row cells columns later) :
      Follows row cells (column :: columns)
        ⟨notice.toList ++ later.notices, later.result.map (bytes ++ ·)⟩
  | fails {column : Column} {columns : List Column} {fault : EncodeError}
      (first : Settles row column (cells.getD column.index "") (.error fault)) :
      Follows row cells (column :: columns) ⟨[], .error fault⟩

variable {index : Nat}

def Fits (schema : Schema) (row : Nat × List String) : Prop :=
  ∃ bytes, (Encode.row schema row.1 row.2).result = .ok bytes ∧ bytes.length < 2 ^ 32

theorem framed_of_ok {schema : Schema} {cells : List String} {bytes : List UInt8}
    (encoded : (row schema index cells).result = .ok bytes) :
    framed schema index cells = if bytes.length < 2 ^ 32 then
        .ok (Frame.encode bytes, (row schema index cells).notices)
      else .error (.rowTooLarge index bytes.length) := by
  have limit : Number.IntegerKind.uint.count = 2 ^ 32 := by decide
  rw [framed, encoded, ← limit]
  rfl

theorem framed_of_error {schema : Schema} {cells : List String} {fault : EncodeError}
    (failed : (row schema index cells).result = .error fault) :
    framed schema index cells = .error fault := by
  rw [framed, failed]
  rfl

theorem framed_eq_error {schema : Schema} {cells : List String} {fault : EncodeError} :
    framed schema index cells = .error fault ↔ (row schema index cells).result = .error fault ∨
      ∃ bytes, (row schema index cells).result = .ok bytes ∧ 2 ^ 32 ≤ bytes.length ∧
        fault = .rowTooLarge index bytes.length := by
  cases encoded : (row schema index cells).result with
  | error other => simp [framed_of_error encoded]
  | ok bytes =>
    rw [framed_of_ok encoded]
    by_cases short : bytes.length < 2 ^ 32
    · rw [if_pos short]
      simp only [reduceCtorEq, Except.ok.injEq, false_or, exists_eq_left', false_iff, not_and]
      intro long
      exact absurd short (Nat.not_lt_of_le long)
    · rw [if_neg short]
      simp only [reduceCtorEq, Except.ok.injEq, Except.error.injEq, false_or, exists_eq_left',
        Nat.le_of_not_lt short, true_and]
      exact eq_comm

theorem exists_framed {schema : Schema} {row : Nat × List String} :
    (∃ framed, Encode.framed schema row.1 row.2 = .ok framed) ↔ Fits schema row := by
  unfold Fits
  cases encoded : (Encode.row schema row.1 row.2).result with
  | error other => simp [framed_of_error encoded]
  | ok bytes =>
    rw [framed_of_ok encoded]
    by_cases short : bytes.length < 2 ^ 32
    · rw [if_pos short]
      exact iff_of_true ⟨_, rfl⟩ ⟨bytes, rfl, short⟩
    · rw [if_neg short]
      simp only [reduceCtorEq, exists_false, Except.ok.injEq, exists_eq_left', short]

end Encode

/-- What a cell says once its column's default has taken the place of what cannot be encoded. -/
def Column.settle (column : Column) (text : String) : String :=
  match column.codec.wire text with
  | .ok _ => text
  | .error _ => if column.isIdentifier then text else column.default.getD text

namespace Schema

variable {source sheet : Sheet} {layout : SheetLayout} {registry : TypeRegistry} {schema : Schema}

def settleCell (schema : Schema) (index : Nat) (text : String) : String :=
  match schema.columns[index]? with
  | some column => if column.isComment then text else column.settle text
  | none => text

def settleRow (schema : Schema) (row : Nat) (cells : List String) : List String :=
  if row < schema.layout.contentStart ∨ Sheet.isComment cells then cells
  else cells.mapIdx schema.settleCell

def settle (schema : Schema) (sheet : Sheet) : Sheet where
  rows := sheet.rows.mapIdx schema.settleRow
  columnCount := sheet.columnCount
  rectangular := by
    intro cells member
    obtain ⟨row, inside, rfl⟩ := List.mem_mapIdx.mp member
    have width := sheet.rectangular _ (List.getElem_mem inside)
    unfold settleRow
    split
    next => exact width
    next => rw [List.length_mapIdx, width]

theorem encode_eq_error {format : BlobFormat} {fault : EncodeError} :
    schema.encode sheet format = .error fault ↔ ∃ front row back,
      sheet.contentRows schema.layout.contentStart = front ++ row :: back ∧
      (∀ earlier ∈ front, Encode.Fits schema earlier) ∧
        Encode.framed schema row.1 row.2 = .error fault := by
  simp only [← Encode.exists_framed]
  rw [← Traversal.mapM_eq_error (f := fun row : Nat × List String =>
    Encode.framed schema row.1 row.2), encode]
  cases (sheet.contentRows schema.layout.contentStart).mapM
      (fun row : Nat × List String => Encode.framed schema row.1 row.2) with
  | error other => simp [bind, Except.bind]
  | ok rows => simp [bind, Except.bind, pure, Except.pure]

def failure? {α : Type} : Except EncodeError α → Option EncodeError
  | .error fault => some fault
  | .ok _ => none

end Schema

end GameSheet
