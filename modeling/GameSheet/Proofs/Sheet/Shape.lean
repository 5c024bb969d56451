import GameSheet.Sheet.Basic
import Mathlib

/-!
Which texts are sheets. A text has a sheet when all of its lines are cut into as many cells as the
first; otherwise the first line that is not is named with the number of its cells. A sheet has a cell
at every position within its bounds and none elsewhere.
-/

namespace GameSheet.Sheet

variable {options : CellOptions} {text : String} {sheet : Sheet} {rows : List (List String)}
  {width : Nat} {fault : RaggedRow}

def rowsOf (options : CellOptions) (text : String) : List (List String) :=
  (Text.lines (dropMark text.toList)).map (cellsOf options)

def widths (options : CellOptions) (text : String) : List Nat :=
  (Text.lines (dropMark text.toList)).map (fun line => (Text.pieces options.delimiter line).length)

def widthOf (rows : List (List String)) : Nat := (rows.head?.map List.length).getD 0

theorem map_length_rowsOf (options : CellOptions) (text : String) :
    (rowsOf options text).map List.length = widths options text := by
  rw [rowsOf, widths, List.map_map]
  apply List.map_congr_left
  intro line _
  exact List.length_map _

theorem ragged?_eq_some : ragged? width rows = some fault ↔
    (rows.map List.length)[fault.row]? = some fault.found ∧ fault.found ≠ width ∧
      fault.expected = width ∧ ∀ row < fault.row, (rows.map List.length)[row]? = some width := by
  rw [ragged?, Option.map_eq_some_iff]
  constructor
  · rintro ⟨⟨cells, row⟩, found, rfl⟩
    obtain ⟨differs, place, inside, located, earlier⟩ := List.find?_eq_some_iff_getElem.mp found
    rw [List.getElem_zipIdx, Nat.zero_add, Prod.mk.injEq] at located
    obtain ⟨rfl, rfl⟩ := located
    rw [List.length_zipIdx] at inside
    refine ⟨?_, by simpa using differs, rfl, ?_⟩
    · rw [List.getElem?_map, List.getElem?_eq_getElem inside]
      rfl
    · intro row before
      have same := earlier row before
      rw [List.getElem_zipIdx] at same
      rw [List.getElem?_map, List.getElem?_eq_getElem (before.trans inside)]
      simpa using same
  · rintro ⟨found, differs, rfl, earlier⟩
    rw [List.getElem?_map, Option.map_eq_some_iff] at found
    obtain ⟨cells, place, length⟩ := found
    obtain ⟨inside, rfl⟩ := List.getElem?_eq_some_iff.mp place
    refine ⟨(rows[fault.row], fault.row),
      List.find?_eq_some_iff_getElem.mpr ⟨?_, fault.row, ?_, ?_, ?_⟩, ?_⟩
    · simpa [length] using differs
    · rwa [List.length_zipIdx]
    · rw [List.getElem_zipIdx, Nat.zero_add]
    · intro row before
      have same := earlier row before
      rw [List.getElem?_map, List.getElem?_eq_getElem (before.trans inside)] at same
      simpa using same
    · simp only [length]

theorem ragged?_eq_none : ragged? width rows = none ↔ ∀ cells ∈ rows, cells.length = width := by
  constructor
  · exact rectangular_of_ragged?
  · intro even
    by_contra some
    obtain ⟨fault, ragged⟩ := Option.ne_none_iff_exists'.mp some
    obtain ⟨found, differs, _, _⟩ := ragged?_eq_some.mp ragged
    obtain ⟨cells, member, length⟩ := List.mem_map.mp (List.mem_of_getElem? found)
    exact differs (length.symm.trans (even cells member))

theorem parse_eq_ok : parse options text = .ok sheet ↔
    sheet.rows = rowsOf options text ∧ sheet.columnCount = widthOf (rowsOf options text) := by
  unfold parse
  simp only
  split
  next fault found =>
    refine iff_of_false (by simp) ?_
    rintro ⟨rows, columnCount⟩
    have even := ragged?_eq_none.mpr sheet.rectangular
    rw [rows, columnCount] at even
    exact absurd (found.symm.trans even) (by simp)
  next even =>
    rw [Except.ok.injEq, Sheet.mk.injEq]
    exact and_congr eq_comm eq_comm

theorem parse_eq_error : parse options text = .error fault ↔
    ragged? (widthOf (rowsOf options text)) (rowsOf options text) = some fault := by
  unfold parse
  simp only
  split
  next found ragged => rw [Except.error.injEq, ← Option.some.injEq, ← ragged]; rfl
  next even => exact iff_of_false (by simp) (fun ragged => by cases even.symm.trans ragged)

theorem head?_widths : (widths options text).head?.getD 0 = widthOf (rowsOf options text) := by
  rw [← map_length_rowsOf, List.head?_map, widthOf]

theorem exists_parse : (∃ sheet, parse options text = .ok sheet) ↔
    ∀ width ∈ widths options text, (widths options text).head? = some width := by
  have even : (∃ sheet, parse options text = .ok sheet) ↔
      ∀ width ∈ widths options text, width = widthOf (rowsOf options text) := by
    rw [← map_length_rowsOf, List.forall_mem_map]
    constructor
    · rintro ⟨sheet, parsed⟩
      obtain ⟨rows, columnCount⟩ := parse_eq_ok.mp parsed
      rw [← columnCount, ← rows]
      exact sheet.rectangular
    · intro even
      exact ⟨⟨_, _, even⟩, parse_eq_ok.mpr ⟨rfl, rfl⟩⟩
  rw [even, ← head?_widths]
  cases widths options text with
  | nil => exact iff_of_true nofun nofun
  | cons first rest => simp only [List.head?_cons, Option.getD_some, Option.some.injEq, eq_comm]

theorem parse_eq_ragged : parse options text = .error fault ↔
    (widths options text).head? = some fault.expected ∧
      (widths options text)[fault.row]? = some fault.found ∧ fault.found ≠ fault.expected ∧
      ∀ row < fault.row, (widths options text)[row]? = some fault.expected := by
  rw [parse_eq_error, ragged?_eq_some, map_length_rowsOf, ← head?_widths]
  cases widths options text with
  | nil => exact iff_of_false (fun given => nomatch given.1) (fun given => nomatch given.1)
  | cons first rest =>
    rw [List.head?_cons, Option.getD_some, Option.some.injEq]
    constructor
    · rintro ⟨found, differs, rfl, earlier⟩
      exact ⟨rfl, found, differs, earlier⟩
    · rintro ⟨rfl, found, differs, earlier⟩
      exact ⟨found, differs, rfl, earlier⟩

theorem isSome_cell? (sheet : Sheet) (row column : Nat) :
    (sheet.cell? row column).isSome ↔ row < sheet.rowCount ∧ column < sheet.columnCount := by
  unfold cell? rowCount
  by_cases inside : row < sheet.rows.length
  · have width := sheet.rectangular _ (List.getElem_mem inside)
    rw [List.getElem?_eq_getElem inside, Option.bind_some, isSome_getElem?, width, and_iff_right inside]
  · rw [List.getElem?_eq_none (Nat.le_of_not_lt inside)]
    exact iff_of_false (by simp) (fun given => inside given.1)

end GameSheet.Sheet
