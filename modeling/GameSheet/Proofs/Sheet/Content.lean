import GameSheet.Sheet.Layout
import Mathlib

/-!
The content of a sheet: which rows it has and when a layout fits. Rows that are rewritten one by one
without coming to be comments or ceasing to be stay content rows under the same numbers.
-/

namespace GameSheet

namespace Sheet

variable {sheet revised : Sheet} {start : Nat}

theorem mem_contentRows {row : Nat} {cells : List String} :
    (row, cells) ∈ sheet.contentRows start ↔
      start ≤ row ∧ sheet.rows[row]? = some cells ∧ isComment cells = false := by
  have dropped : (cells, row) ∈ sheet.rows.zipIdx.drop start ↔
      start ≤ row ∧ sheet.rows[row]? = some cells := by
    rw [List.mem_iff_getElem?]
    simp only [List.getElem?_drop, List.getElem?_zipIdx, Option.map_eq_some_iff, Prod.mk.injEq]
    constructor
    · intro given
      rcases given with ⟨place, found, located, rfl, same⟩
      rw [← same]
      exact ⟨by omega, by rwa [Nat.zero_add]⟩
    · intro given
      refine ⟨row - start, cells, ?_, rfl, by omega⟩
      rw [Nat.add_sub_cancel' given.1]
      exact given.2
  unfold contentRows
  rw [List.mem_map]
  constructor
  · intro given
    rcases given with ⟨⟨text, place⟩, member, same⟩
    obtain ⟨rfl, rfl⟩ := Prod.mk.inj same
    obtain ⟨inside, plain⟩ := List.mem_filter.mp member
    obtain ⟨low, found⟩ := dropped.mp inside
    exact ⟨low, found, by simpa using plain⟩
  · intro given
    rcases given with ⟨low, found, plain⟩
    have kept : (!isComment cells) = true := by rw [plain]; rfl
    exact ⟨(cells, row), List.mem_filter.mpr ⟨dropped.mpr ⟨low, found⟩, kept⟩, rfl⟩

theorem mem_rows_of_contentRows {row : Nat × List String}
    (member : row ∈ sheet.contentRows start) : row.2 ∈ sheet.rows :=
  List.mem_of_getElem? (mem_contentRows.mp member).2.1

theorem length_of_contentRows {row : Nat × List String}
    (member : row ∈ sheet.contentRows start) : row.2.length = sheet.columnCount :=
  sheet.rectangular row.2 (mem_rows_of_contentRows member)

theorem contentRows_mapIdx {rewrite : Nat → List String → List String}
    (rows : revised.rows = sheet.rows.mapIdx rewrite)
    (marks : ∀ row cells, start ≤ row → sheet.rows[row]? = some cells →
      isComment (rewrite row cells) = isComment cells) :
    revised.contentRows start =
      (sheet.contentRows start).map (fun row => (row.1, rewrite row.1 row.2)) := by
  let step : List String × Nat → List String × Nat := fun pair => (rewrite pair.2 pair.1, pair.2)
  have numbered : revised.rows.zipIdx.drop start = (sheet.rows.zipIdx.drop start).map step := by
    apply List.ext_getElem
    · simp [rows]
    · intro place _ _
      simp [rows, step]
  have kept : ∀ pair ∈ sheet.rows.zipIdx.drop start,
      (!isComment (step pair).1) = !isComment pair.1 := by
    rintro ⟨cells, row⟩ member
    obtain ⟨place, inside, located⟩ := List.mem_iff_getElem.mp member
    rw [List.getElem_drop, List.getElem_zipIdx, Prod.mk.injEq] at located
    have found : sheet.rows[row]? = some cells :=
      List.mk_mem_zipIdx_iff_getElem?.mp (List.mem_of_mem_drop member)
    rw [marks row cells (by omega) found]
  rw [contentRows, contentRows, numbered, List.filter_map, List.map_map, List.map_map]
  change ((sheet.rows.zipIdx.drop start).filter (fun pair => !isComment (step pair).1)).map _ = _
  rw [List.filter_congr kept]
  rfl

end Sheet

namespace SheetLayout

variable {sheet : Sheet} {layout : SheetLayout}

theorem validate_eq_ok : layout.validate sheet = .ok () ↔
    (∀ place ∈ layout.metadataRows, place.2 < sheet.rowCount) ∧
      layout.contentStart ≤ sheet.rowCount ∧ layout.idColumn < sheet.columnCount := by
  simp only [validate]
  cases found : layout.metadataRows.find? (fun place => sheet.rowCount ≤ place.2) with
  | some place =>
    have outside : sheet.rowCount ≤ place.2 := by simpa using List.find?_some found
    have member := List.mem_of_find?_eq_some found
    simp only [throw, throwThe, MonadExceptOf.throw, bind, Except.bind, reduceCtorEq, false_iff]
    intro given
    exact absurd (given.1 place member) (Nat.not_lt_of_le outside)
  | none =>
    have inside : ∀ place ∈ layout.metadataRows, place.2 < sheet.rowCount := by
      simpa using List.find?_eq_none.mp found
    by_cases content : sheet.rowCount < layout.contentStart
    · simp [throw, throwThe, MonadExceptOf.throw, bind, Except.bind, content]
    · by_cases identifier : sheet.columnCount ≤ layout.idColumn
      · simp [throw, throwThe, MonadExceptOf.throw, content, identifier]
      · simpa [pure, Except.pure, content, identifier, Nat.le_of_not_lt content,
          Nat.lt_of_not_le identifier] using inside

end SheetLayout

end GameSheet
