import GameSheet.Proofs.Sheet.Shape
import GameSheet.Proofs.Text.Pieces
import GameSheet.Proofs.Text.Trimming
import GameSheet.Proofs.Traversal

/-!
Sheets as they are written. A grid is written line by line with a delimiter between its cells, each of
which may stand between characters that are taken off again, and with one kind of line end throughout;
a byte-order mark may stand in front. Whatever is chosen, the sheet of the text is the grid.
-/

namespace GameSheet

inductive LineEnd where
  | feed
  | returnFeed
  deriving DecidableEq

def LineEnd.chars : LineEnd → List Char
  | feed => ['\n']
  | returnFeed => ['\r', '\n']

theorem LineEnd.lines_flatMap (ending : LineEnd) {written : List (List Char)}
    (whole : ∀ line ∈ written, '\n' ∉ line ∧ '\r' ∉ line) :
    Text.lines (written.flatMap (· ++ ending.chars)) = written := by
  cases ending with
  | feed =>
    refine (Text.lines_flatMap (fun line member => (whole line member).1)).trans ?_
    refine (List.map_congr_left ?_).trans (List.map_id written)
    intro line member
    exact Text.dropReturn_of_not_mem (whole line member).2
  | returnFeed =>
    have returned : written.flatMap (· ++ returnFeed.chars) =
        (written.map (· ++ ['\r'])).flatMap (· ++ ['\n']) := by
      rw [List.flatMap_map]
      simp only [List.append_assoc]
      rfl
    rw [returned, Text.lines_flatMap, List.map_map]
    · refine (List.map_congr_left ?_).trans (List.map_id written)
      intro line _
      exact Text.dropReturn_concat line
    · intro line member
      obtain ⟨origin, stood, rfl⟩ := List.mem_map.mp member
      have absent := (whole origin stood).1
      simp [absent]

namespace CellOptions

variable {options : CellOptions}

def Plain (options : CellOptions) (c : Char) : Prop := c ≠ options.delimiter ∧ c ≠ '\n' ∧ c ≠ '\r'

def Pads (options : CellOptions) (c : Char) : Prop := c ∈ options.trim ∧ options.Plain c

structure Holds (options : CellOptions) (cell : String) : Prop where
  plain : ∀ c ∈ cell.toList, options.Plain c
  trimmed : Text.Trimmed (· ∈ options.trim) cell.toList

def Spells (options : CellOptions) (cell : String) (written : List Char) : Prop :=
  Text.Padded options.Pads cell.toList written

def Separates (options : CellOptions) : Prop :=
  options.delimiter ≠ '\n' ∧ options.delimiter ≠ '\r' ∧ options.delimiter ≠ '\ufeff'

theorem Spells.plain {cell : String} {written : List Char} (holds : options.Holds cell)
    (spells : options.Spells cell written) : ∀ c ∈ written, options.Plain c := by
  obtain ⟨front, back, before, behind, rfl⟩ := spells
  intro c member
  rcases List.mem_append.mp member with earlier | last
  · rcases List.mem_append.mp earlier with first | inside
    · exact (before c first).2
    · exact holds.plain c inside
  · exact (behind c last).2

theorem Spells.trimEnds {cell : String} {written : List Char} (holds : options.Holds cell)
    (spells : options.Spells cell written) :
    Text.trimEnds (· ∈ options.trim) written = cell.toList := by
  apply Text.trimEnds_of_padded holds.trimmed
  obtain ⟨front, back, before, behind, same⟩ := spells
  exact ⟨front, back, fun c member => decide_eq_true (before c member).1,
    fun c member => decide_eq_true (behind c member).1, same⟩

end CellOptions

/-- Rows of as many cells each, as a text can hold them. -/
structure Grid (options : CellOptions) where
  rows : List (List String)
  width : Nat
  nonempty : rows ≠ []
  positive : 0 < width
  rectangular : ∀ cells ∈ rows, cells.length = width
  holds : ∀ cells ∈ rows, ∀ cell ∈ cells, options.Holds cell
  /-- A mark in front of the first cell would be dropped. -/
  unmarked : ∀ cells ∈ rows.head?, ∀ cell ∈ cells.head?, cell.toList.head? ≠ some '\ufeff'

variable {options : CellOptions}

theorem Grid.ne_nil (grid : Grid options) : ∀ cells ∈ grid.rows, cells ≠ [] := by
  intro cells member
  apply List.ne_nil_of_length_pos
  rw [grid.rectangular cells member]
  exact grid.positive

theorem Grid.exists_first (grid : Grid options) : ∃ cell more rows,
    grid.rows = (cell :: more) :: rows ∧ more.length + 1 = grid.width ∧
      cell.toList.head? ≠ some '\ufeff' := by
  obtain ⟨cells, rows, same⟩ := List.exists_cons_of_ne_nil grid.nonempty
  have member : cells ∈ grid.rows := by
    rw [same]
    exact List.mem_cons_self
  obtain ⟨cell, more, rfl⟩ := List.exists_cons_of_ne_nil (grid.ne_nil cells member)
  exact ⟨cell, more, rows, same, grid.rectangular _ member,
    grid.unmarked (cell :: more) (by rw [same]; rfl) cell rfl⟩

def Grid.Spelled (grid : Grid options) (written : List (List (List Char))) : Prop :=
  List.Forall₂ (List.Forall₂ options.Spells) grid.rows written

namespace Sheet

variable {cell : String} {cells : List String} {written : List (List Char)}

/-! The mark in front -/

theorem dropMark_of_head? {chars : List Char} (unmarked : chars.head? ≠ some '\ufeff') :
    dropMark chars = chars := by
  unfold dropMark
  split
  next => exact absurd rfl unmarked
  next => rfl

theorem dropMark_append {front back : List Char} (unmarked : back.head? ≠ some '\ufeff') :
    dropMark (front ++ back) = dropMark front ++ back := by
  cases front with
  | nil => exact dropMark_of_head? unmarked
  | cons c rest =>
    by_cases mark : c = '\ufeff'
    · rw [mark]
      rfl
    · have other : ∀ more : List Char, dropMark (c :: more) = c :: more := by
        intro more
        exact dropMark_of_head? (fun same => mark (Option.some.inj same))
      rw [List.cons_append, other, other, List.cons_append]

/-- The mark can only be one of the characters around the cell. -/
theorem spells_dropMark {chars : List Char} (unmarked : cell.toList.head? ≠ some '\ufeff')
    (spells : options.Spells cell chars) : options.Spells cell (dropMark chars) := by
  obtain ⟨front, back, before, behind, rfl⟩ := spells
  by_cases marked : (front ++ cell.toList ++ back).head? = some '\ufeff'
  · cases front with
    | cons c front =>
      obtain rfl := Option.some.inj marked
      exact ⟨front, back, (List.forall_mem_cons.mp before).2, behind, rfl⟩
    | nil =>
      cases text : cell.toList with
      | cons c rest =>
        rw [text] at marked unmarked
        exact absurd marked unmarked
      | nil =>
        rw [text] at marked
        cases back with
        | nil => cases marked
        | cons c back =>
          obtain rfl := Option.some.inj marked
          exact ⟨[], back, nofun, (List.forall_mem_cons.mp behind).2, by rw [text]; rfl⟩
  · rw [dropMark_of_head? marked]
    exact ⟨front, back, before, behind, rfl⟩

/-! Lines of cells -/

theorem plain_of_spells (holds : ∀ cell ∈ cells, options.Holds cell)
    (spelled : List.Forall₂ options.Spells cells written) :
    ∀ chars ∈ written, ∀ c ∈ chars, options.Plain c := by
  intro chars member
  obtain ⟨cell, stood, spells⟩ := Traversal.exists_of_forall₂ spelled member
  exact spells.plain (holds cell stood)

theorem cellsOf_joinPieces (nonempty : cells ≠ []) (holds : ∀ cell ∈ cells, options.Holds cell)
    (spelled : List.Forall₂ options.Spells cells written) :
    cellsOf options (Text.joinPieces options.delimiter written) = cells := by
  have some : written ≠ [] := by
    rintro rfl
    exact nonempty (List.forall₂_nil_right_iff.mp spelled)
  have apart : ∀ chars ∈ written, options.delimiter ∉ chars := by
    intro chars member inside
    exact (plain_of_spells holds spelled chars member _ inside).1 rfl
  have each : List.Forall₂ (fun cell chars =>
      id cell = String.ofList (Text.trimEnds (· ∈ options.trim) chars)) cells written := by
    apply Traversal.forall₂_imp_of_mem spelled
    intro cell member chars spells
    rw [spells.trimEnds (holds cell member), String.ofList_toList]
    rfl
  rw [cellsOf, Text.pieces_joinPieces some apart, ← Traversal.map_eq_map_iff.mpr each, List.map_id]

theorem not_mem_joinPieces (separates : options.Separates) (holds : ∀ cell ∈ cells, options.Holds cell)
    (spelled : List.Forall₂ options.Spells cells written) :
    '\n' ∉ Text.joinPieces options.delimiter written ∧
      '\r' ∉ Text.joinPieces options.delimiter written := by
  have plain := plain_of_spells holds spelled
  constructor
  · intro member
    rcases Text.mem_joinPieces member with same | ⟨chars, part, inside⟩
    · exact separates.1 same.symm
    · exact (plain chars part _ inside).2.1 rfl
  · intro member
    rcases Text.mem_joinPieces member with same | ⟨chars, part, inside⟩
    · exact separates.2.1 same.symm
    · exact (plain chars part _ inside).2.2 rfl

/-! Grids -/

def render (delimiter : Char) (ending : LineEnd) (written : List (List (List Char))) : List Char :=
  written.flatMap (fun cells => Text.joinPieces delimiter cells ++ ending.chars)

variable {written : List (List (List Char))}

/-- Without its first character a text that begins with a mark is another text of the grid. -/
theorem exists_dropMark (separates : options.Separates) (grid : Grid options) (ending : LineEnd)
    (spelled : grid.Spelled written) : ∃ rest, grid.Spelled rest ∧
      dropMark (render options.delimiter ending written) = render options.delimiter ending rest := by
  obtain ⟨cell, more, rows, same, _, unmarked⟩ := grid.exists_first
  rw [Grid.Spelled, same] at spelled
  obtain ⟨line, later, first, below, rfl⟩ := List.forall₂_cons_left_iff.mp spelled
  obtain ⟨chars, others, spells, behind, rfl⟩ := List.forall₂_cons_left_iff.mp first
  refine ⟨(dropMark chars :: others) :: later, ?_, ?_⟩
  · rw [Grid.Spelled, same]
    exact .cons (.cons (spells_dropMark unmarked spells) behind) below
  · have tail : (others.flatMap (options.delimiter :: ·) ++ ending.chars ++
        render options.delimiter ending later).head? ≠ some '\ufeff' := by
      cases others with
      | cons next rest => exact fun mark => separates.2.2 (Option.some.inj mark)
      | nil => cases ending <;> simp [LineEnd.chars]
    simp only [render, List.flatMap_cons, Text.joinPieces_cons, List.append_assoc] at tail ⊢
    exact dropMark_append tail

theorem rows_render (separates : options.Separates) (grid : Grid options) (ending : LineEnd)
    (spelled : grid.Spelled written) :
    (Text.lines (render options.delimiter ending written)).map (cellsOf options) = grid.rows := by
  have lines : Text.lines (render options.delimiter ending written) =
      written.map (Text.joinPieces options.delimiter) := by
    rw [render, ← List.flatMap_map (f := Text.joinPieces options.delimiter) (g := (· ++ ending.chars))]
    apply ending.lines_flatMap
    intro line member
    obtain ⟨chars, taken, rfl⟩ := List.mem_map.mp member
    obtain ⟨cells, stood, spells⟩ := Traversal.exists_of_forall₂ spelled taken
    exact not_mem_joinPieces separates (grid.holds cells stood) spells
  have each : List.Forall₂ (fun cells line => id cells =
      cellsOf options (Text.joinPieces options.delimiter line)) grid.rows written := by
    apply Traversal.forall₂_imp_of_mem spelled
    intro cells member line spells
    exact (cellsOf_joinPieces (grid.ne_nil cells member) (grid.holds cells member) spells).symm
  rw [lines, List.map_map, ← List.map_id grid.rows]
  exact (Traversal.map_eq_map_iff.mpr each).symm

/-- The sheet of a grid that was written is the grid. -/
theorem parse_render (separates : options.Separates) (grid : Grid options) (ending : LineEnd)
    (marked : Bool) (spelled : grid.Spelled written) :
    ∃ sheet, parse options (String.ofList
        ((if marked then ['\ufeff'] else []) ++ render options.delimiter ending written)) = .ok sheet ∧
      sheet.rows = grid.rows ∧ sheet.columnCount = grid.width := by
  obtain ⟨rest, spelled, dropped⟩ : ∃ rest, grid.Spelled rest ∧
      dropMark ((if marked then ['\ufeff'] else []) ++ render options.delimiter ending written) =
        render options.delimiter ending rest := by
    cases marked with
    | true => exact ⟨written, spelled, rfl⟩
    | false => exact exists_dropMark separates grid ending spelled
  have rows : rowsOf options (String.ofList ((if marked then ['\ufeff'] else []) ++
      render options.delimiter ending written)) = grid.rows := by
    rw [rowsOf, String.toList_ofList, dropped, rows_render separates grid ending spelled]
  have width : widthOf grid.rows = grid.width := by
    obtain ⟨cell, more, below, same, width, _⟩ := grid.exists_first
    rw [same]
    exact width
  refine ⟨⟨grid.rows, grid.width, grid.rectangular⟩, parse_eq_ok.mpr ?_, rfl, rfl⟩
  rw [rows]
  exact ⟨rfl, width.symm⟩

def quotedOptions : CellOptions := ⟨',', ['"', '\ufeff']⟩

def quotedGrid : Grid quotedOptions where
  rows := [["a", ""], ["", "b c"]]
  width := 2
  nonempty := by decide
  positive := by decide
  rectangular := by decide
  holds := by
    have empty : quotedOptions.Holds "" := ⟨nofun, nofun, nofun⟩
    have single : quotedOptions.Holds "a" := by
      refine ⟨?_, ?_, ?_⟩ <;> simp [CellOptions.Plain, quotedOptions]
    have words : quotedOptions.Holds "b c" := by
      refine ⟨?_, ?_, ?_⟩ <;> simp [CellOptions.Plain, quotedOptions]
    simp only [List.forall_mem_cons, List.not_mem_nil, false_imp_iff, implies_true, and_true]
    exact ⟨⟨single, empty⟩, empty, words⟩
  unmarked := by decide

/-- A text with marks, quotes on one side or both, and carriage returns. -/
theorem parse_render_quoted : ∃ sheet,
    parse quotedOptions "\ufeff\"a\",\ufeff\r\n,\"b c\r\n" = .ok sheet ∧
      sheet.rows = [["a", ""], ["", "b c"]] ∧ sheet.columnCount = 2 := by
  have spelled : quotedGrid.Spelled
      [[['"', 'a', '"'], ['\ufeff']], [[], ['"', 'b', ' ', 'c']]] := by
    have quote : ∀ c ∈ ['"'], quotedOptions.Pads c := by
      simp [CellOptions.Pads, CellOptions.Plain, quotedOptions]
    have mark : ∀ c ∈ ['\ufeff'], quotedOptions.Pads c := by
      simp [CellOptions.Pads, CellOptions.Plain, quotedOptions]
    have single : quotedOptions.Spells "a" ['"', 'a', '"'] := ⟨['"'], ['"'], quote, quote, by decide⟩
    have marked : quotedOptions.Spells "" ['\ufeff'] := ⟨['\ufeff'], [], mark, nofun, by decide⟩
    have empty : quotedOptions.Spells "" [] := ⟨[], [], nofun, nofun, by decide⟩
    have words : quotedOptions.Spells "b c" ['"', 'b', ' ', 'c'] := ⟨['"'], [], quote, nofun, by decide⟩
    exact .cons (.cons single (.cons marked .nil)) (.cons (.cons empty (.cons words .nil)) .nil)
  exact parse_render ⟨by decide, by decide, by decide⟩ quotedGrid .returnFeed true spelled

end Sheet

end GameSheet
