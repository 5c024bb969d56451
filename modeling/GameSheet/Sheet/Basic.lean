import GameSheet.Text.Pieces
import GameSheet.Text.Blank

/-!
Sheets: delimited text as a rectangle of trimmed cells. A byte-order mark in front is dropped and
every line must have as many cells as the first. A row is a comment when its first cell starts with
a number sign.
-/

namespace GameSheet

structure CellOptions where
  delimiter : Char
  /-- The characters taken off both ends of every cell. -/
  trim : List Char
  deriving DecidableEq, Repr

def CellOptions.standard : CellOptions := ⟨'\t', ['"']⟩

structure RaggedRow where
  row : Nat
  expected : Nat
  found : Nat
  deriving DecidableEq, Repr

structure Sheet where
  rows : List (List String)
  columnCount : Nat
  rectangular : ∀ cells ∈ rows, cells.length = columnCount
  deriving DecidableEq, Repr

namespace Sheet

def dropMark : List Char → List Char
  | '\ufeff' :: rest => rest
  | chars => chars

def cellsOf (options : CellOptions) (line : List Char) : List String :=
  (Text.pieces options.delimiter line).map
    (fun piece => String.ofList (Text.trimEnds (· ∈ options.trim) piece))

/-- The first row that is not as wide as the first of all. -/
def ragged? (width : Nat) (rows : List (List String)) : Option RaggedRow :=
  (rows.zipIdx.find? (fun (cells, _) => cells.length ≠ width)).map
    (fun (cells, index) => ⟨index, width, cells.length⟩)

theorem rectangular_of_ragged? {width : Nat} {rows : List (List String)}
    (even : ragged? width rows = none) : ∀ cells ∈ rows, cells.length = width := by
  intro cells member
  obtain ⟨index, inside, rfl⟩ := List.mem_iff_getElem.mp member
  simp only [ragged?, Option.map_eq_none_iff, List.find?_eq_none, decide_eq_true_eq,
    ne_eq, Classical.not_not] at even
  exact even (rows[index], index) (List.mk_mem_zipIdx_iff_getElem?.mpr (by simp [inside]))

def parse (options : CellOptions) (text : String) : Except RaggedRow Sheet :=
  let rows := (Text.lines (dropMark text.toList)).map (cellsOf options)
  let width := (rows.head?.map List.length).getD 0
  match even : ragged? width rows with
  | some fault => .error fault
  | none => .ok ⟨rows, width, rectangular_of_ragged? even⟩

def rowCount (sheet : Sheet) : Nat := sheet.rows.length

def cell? (sheet : Sheet) (row column : Nat) : Option String :=
  sheet.rows[row]?.bind (fun cells => cells[column]?)

def isComment (cells : List String) : Bool :=
  match cells with
  | first :: _ => first.toList.head? == some '#'
  | [] => false

def isCommentRow (sheet : Sheet) (row : Nat) : Bool :=
  match sheet.rows[row]? with
  | some cells => isComment cells
  | none => false

/-- The rows from `start` on that are no comments, with their indices. -/
def contentRows (sheet : Sheet) (start : Nat) : List (Nat × List String) :=
  ((sheet.rows.zipIdx.drop start).filter (fun (cells, _) => !isComment cells)).map Prod.swap

end Sheet

end GameSheet
