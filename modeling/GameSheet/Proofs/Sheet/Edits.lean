import GameSheet.Proofs.Sheet.Content

/-!
Edits of a sheet: a row put in, a column with other texts, a column taken out. Each says where the
cells of the one sheet are in the other, and which content rows come of it.
-/

namespace GameSheet

def past (position index : Nat) : Nat := if index < position then index else index + 1

theorem range_filter_past {count position : Nat} (inside : position < count) {keep : Nat → Bool}
    (dropped : keep position = false) : (List.range count).filter keep =
      ((List.range (count - 1)).filter (fun index => keep (past position index))).map
        (past position) := by
  obtain ⟨later, rfl⟩ := Nat.exists_eq_add_of_lt inside
  have below : (List.range position).map (past position) = List.range position := by
    refine (List.map_congr_left ?_).trans (List.map_id _)
    intro index member
    exact if_pos (List.mem_range.mp member)
  have above : ((List.range later).map (position + ·)).map (past position) =
      (List.range later).map (position + 1 + ·) := by
    rw [List.map_map]
    apply List.map_congr_left
    intro index _
    have high : ¬position + index < position := by omega
    simp only [Function.comp, past, if_neg high]
    omega
  have whole : List.range (position + later + 1) =
      List.range position ++ position :: (List.range later).map (position + 1 + ·) := by
    rw [Nat.add_right_comm, List.range_add, List.range_succ, List.append_assoc,
      List.singleton_append]
  have part : List.range (position + later + 1 - 1) =
      List.range position ++ (List.range later).map (position + ·) := by
    rw [Nat.add_sub_cancel, List.range_add]
  calc (List.range (position + later + 1)).filter keep
      = (List.range position ++ (List.range later).map (position + 1 + ·)).filter keep := by
        rw [whole, List.filter_append, List.filter_append, List.filter_cons, dropped]
        rfl
    _ = ((List.range (position + later + 1 - 1)).map (past position)).filter keep := by
        rw [part, List.map_append, below, above]
    _ = _ := List.filter_map

theorem getElem?_eraseIdx_past {α : Type} (items : List α) (position index : Nat) :
    (items.eraseIdx position)[index]? = items[past position index]? := by
  rw [List.getElem?_eraseIdx, past]
  split <;> rfl

namespace Sheet

def insertRow (sheet : Sheet) (position : Nat) (cells : List String)
    (width : cells.length = sheet.columnCount) : Sheet where
  rows := sheet.rows.take position ++ cells :: sheet.rows.drop position
  columnCount := sheet.columnCount
  rectangular := by
    intro row member
    rcases List.mem_append.mp member with above | below
    · exact sheet.rectangular row (List.mem_of_mem_take above)
    · rcases List.mem_cons.mp below with rfl | behind
      · exact width
      · exact sheet.rectangular row (List.mem_of_mem_drop behind)

def setColumn (sheet : Sheet) (column : Nat) (texts : Nat → String) : Sheet where
  rows := sheet.rows.mapIdx (fun row cells => cells.set column (texts row))
  columnCount := sheet.columnCount
  rectangular := by
    intro cells member
    obtain ⟨row, inside, rfl⟩ := List.mem_mapIdx.mp member
    rw [List.length_set, sheet.rectangular _ (List.getElem_mem inside)]

def eraseColumn (sheet : Sheet) (column : Nat) : Sheet where
  rows := sheet.rows.mapIdx (fun _ cells => cells.eraseIdx column)
  columnCount := if column < sheet.columnCount then sheet.columnCount - 1 else sheet.columnCount
  rectangular := by
    intro cells member
    obtain ⟨row, inside, rfl⟩ := List.mem_mapIdx.mp member
    rw [List.length_eraseIdx, sheet.rectangular _ (List.getElem_mem inside)]

variable {sheet : Sheet} {position : Nat} {cells : List String}

theorem cell?_insertRow (width : cells.length = sheet.columnCount)
    (inside : position ≤ sheet.rowCount) (row column : Nat) :
    (sheet.insertRow position cells width).cell? (past position row) column =
      sheet.cell? row column := by
  have above : (sheet.rows.take position).length = position := by
    rw [List.length_take]
    exact Nat.min_eq_left inside
  suffices same : (sheet.rows.take position ++ cells :: sheet.rows.drop position)[past position row]?
      = sheet.rows[row]? by
    unfold cell? insertRow
    rw [same]
  unfold past
  split
  next low => rw [List.getElem?_append_left (by omega), List.getElem?_take_of_lt low]
  next high =>
    have behind : row + 1 - position = row - position + 1 := by omega
    have within : position + (row - position) = row := by omega
    rw [List.getElem?_append_right (by omega), above, behind, List.getElem?_cons_succ,
      List.getElem?_drop, within]

theorem contentRows_cells (sheet : Sheet) (start : Nat) : (sheet.contentRows start).map Prod.snd =
    (sheet.rows.drop start).filter (fun cells => !isComment cells) := by
  have cells : (sheet.rows.zipIdx.drop start).map Prod.fst = sheet.rows.drop start := by
    rw [List.map_drop, List.zipIdx_map_fst]
  rw [← cells, List.filter_map, contentRows, List.map_map]
  rfl

/-- A row above the content, or a comment row in it, leaves the content alone. -/
theorem contentRows_insertRow (width : cells.length = sheet.columnCount)
    (inside : position ≤ sheet.rowCount) {start : Nat}
    (marked : start ≤ position → isComment cells = true) :
    ((sheet.insertRow position cells width).contentRows
        (if start ≤ position then start else start + 1)).map Prod.snd =
      (sheet.contentRows start).map Prod.snd := by
  have above : (sheet.rows.take position).length = position := by
    rw [List.length_take]
    exact Nat.min_eq_left inside
  rw [contentRows_cells, contentRows_cells]
  change ((sheet.rows.take position ++ cells :: sheet.rows.drop position).drop _).filter _ = _
  split
  next low =>
    have whole : sheet.rows.drop start =
        (sheet.rows.take position).drop start ++ sheet.rows.drop position := by
      rw [← List.drop_append_of_le_length (by omega), List.take_append_drop]
    rw [List.drop_append_of_le_length (by omega), whole, List.filter_append, List.filter_append,
      List.filter_cons, marked low]
    rfl
  next high =>
    have behind : start + 1 - position = start - position + 1 := by omega
    have within : position + (start - position) = start := by omega
    rw [List.drop_append, List.drop_eq_nil_of_le (by omega), above, behind, List.drop_succ_cons,
      List.drop_drop, List.nil_append, within]

theorem cell?_setColumn {column other : Nat} {texts : Nat → String} (apart : other ≠ column)
    (row : Nat) : (sheet.setColumn column texts).cell? row other = sheet.cell? row other := by
  unfold cell? setColumn
  rw [List.getElem?_mapIdx]
  cases sheet.rows[row]? with
  | none => rfl
  | some cells => exact List.getElem?_set_ne apart.symm

theorem cell?_eraseColumn (column row index : Nat) :
    (sheet.eraseColumn column).cell? row index = sheet.cell? row (past column index) := by
  unfold cell? eraseColumn
  rw [List.getElem?_mapIdx]
  cases sheet.rows[row]? with
  | none => rfl
  | some cells => exact getElem?_eraseIdx_past cells column index

end Sheet

namespace SheetLayout

def insertRow (layout : SheetLayout) (position : Nat) : SheetLayout where
  nameRow := past position layout.nameRow
  typeRow := past position layout.typeRow
  defaultRow := layout.defaultRow.map (past position)
  commentRow := layout.commentRow.map (past position)
  contentStart := if layout.contentStart ≤ position then layout.contentStart
    else layout.contentStart + 1
  idColumn := layout.idColumn

def eraseColumn (layout : SheetLayout) (column : Nat) : SheetLayout :=
  { layout with idColumn := if column < layout.idColumn then layout.idColumn - 1 else layout.idColumn }

variable {sheet : Sheet} {layout : SheetLayout}

theorem metadataRows_insertRow (position : Nat) : (layout.insertRow position).metadataRows =
    layout.metadataRows.map (fun (place, row) => (place, past position row)) := by
  obtain ⟨nameRow, typeRow, defaultRow, commentRow, contentStart, idColumn⟩ := layout
  cases defaultRow <;> cases commentRow <;> rfl

theorem validate_insertRow {position : Nat} {cells : List String}
    (width : cells.length = sheet.columnCount) (inside : position ≤ sheet.rowCount) :
    (layout.insertRow position).validate (sheet.insertRow position cells width) = .ok () ↔
      layout.validate sheet = .ok () := by
  have count : (sheet.insertRow position cells width).rowCount = sheet.rowCount + 1 := by
    unfold Sheet.rowCount at inside ⊢
    simp only [Sheet.insertRow, List.length_append, List.length_take, List.length_cons,
      List.length_drop]
    omega
  have rows : ∀ row, past position row < sheet.rowCount + 1 ↔ row < sheet.rowCount := by
    intro row
    unfold past
    split <;> omega
  have start : (layout.insertRow position).contentStart ≤ sheet.rowCount + 1 ↔
      layout.contentStart ≤ sheet.rowCount := by
    simp only [insertRow]
    split <;> omega
  rw [validate_eq_ok, validate_eq_ok, count, start, metadataRows_insertRow, List.forall_mem_map]
  simp only [rows]
  rfl

theorem validate_setColumn {column : Nat} {texts : Nat → String} :
    layout.validate (sheet.setColumn column texts) = .ok () ↔ layout.validate sheet = .ok () := by
  have count : (sheet.setColumn column texts).rowCount = sheet.rowCount := List.length_mapIdx
  rw [validate_eq_ok, validate_eq_ok, count]
  rfl

theorem past_eq_idColumn {column : Nat} (other : column ≠ layout.idColumn) (index : Nat) :
    past column index = layout.idColumn ↔ index = (layout.eraseColumn column).idColumn := by
  simp only [past, eraseColumn]
  split <;> split <;> omega

theorem validate_eraseColumn {column : Nat} (inside : column < sheet.columnCount)
    (other : column ≠ layout.idColumn) :
    (layout.eraseColumn column).validate (sheet.eraseColumn column) = .ok () ↔
      layout.validate sheet = .ok () := by
  have count : (sheet.eraseColumn column).rowCount = sheet.rowCount := List.length_mapIdx
  have identifier : (layout.eraseColumn column).idColumn < (sheet.eraseColumn column).columnCount ↔
      layout.idColumn < sheet.columnCount := by
    simp only [eraseColumn, Sheet.eraseColumn, if_pos inside]
    split <;> omega
  rw [validate_eq_ok, validate_eq_ok, count, identifier]
  rfl

end SheetLayout

structure Source where
  sheet : Sheet
  layout : SheetLayout

namespace Source

def insertRow (source : Source) (position : Nat) (cells : List String)
    (width : cells.length = source.sheet.columnCount) : Source where
  sheet := source.sheet.insertRow position cells width
  layout := source.layout.insertRow position

def setColumn (source : Source) (column : Nat) (texts : Nat → String) : Source :=
  { source with sheet := source.sheet.setColumn column texts }

def eraseColumn (source : Source) (column : Nat) : Source where
  sheet := source.sheet.eraseColumn column
  layout := source.layout.eraseColumn column

end Source

end GameSheet
