import GameSheet.Sheet.Layout
import GameSheet.Proofs.Sheet.Shape
import GameSheet.Proofs.Traversal
import GameSheet.Text.Utf8

/-!
Cells are parts of their text. Cutting and trimming only leave characters out, so a cell of a sheet
that was loaded takes no more bytes than the text it was loaded from.
-/

namespace GameSheet

namespace Text

theorem sublist_of_mem_pieces {separator : Char} {chars piece : List Char}
    (member : piece ∈ pieces separator chars) : piece.Sublist chars := by
  induction chars generalizing piece with
  | nil =>
    rw [List.mem_singleton.mp member]
  | cons c rest ih =>
    have step : pieces separator (c :: rest) =
        if c = separator then [] :: pieces separator rest
        else pushPiece c (pieces separator rest) := rfl
    rw [step] at member
    split_ifs at member with cut
    · rcases List.mem_cons.mp member with rfl | later
      · exact List.nil_sublist _
      · exact (ih later).cons c
    · cases parts : pieces separator rest with
      | nil =>
        rw [parts, pushPiece, List.mem_singleton] at member
        rw [member]
        exact (List.nil_sublist rest).cons_cons c
      | cons first more =>
        rw [parts, pushPiece] at member
        rcases List.mem_cons.mp member with rfl | later
        · exact (ih (by rw [parts]; exact List.mem_cons_self)).cons_cons c
        · exact (ih (by rw [parts]; exact List.mem_cons_of_mem first later)).cons c

theorem dropReturn_sublist (line : List Char) : (dropReturn line).Sublist line := by
  unfold dropReturn
  split
  · exact List.dropLast_sublist line
  · exact List.Sublist.refl line

theorem trimEnds_sublist (drop : Char → Bool) (chars : List Char) :
    (trimEnds drop chars).Sublist chars := by
  have front := (List.dropWhile_suffix drop : chars.dropWhile drop <:+ chars).sublist
  have back := (List.dropWhile_suffix drop :
    (chars.dropWhile drop).reverse.dropWhile drop <:+ (chars.dropWhile drop).reverse).sublist
  rw [trimEnds, dropEnd]
  exact (List.reverse_sublist.mp (by rwa [List.reverse_reverse])).trans front

theorem sublist_of_mem_lines {chars line : List Char} (member : line ∈ lines chars) :
    line.Sublist chars := by
  have closed : ∀ line ∈ (pieces '\n' chars).dropLast.map dropReturn, line.Sublist chars := by
    intro line inside
    obtain ⟨piece, earlier, rfl⟩ := List.mem_map.mp inside
    exact (dropReturn_sublist piece).trans
      (sublist_of_mem_pieces (List.dropLast_subset _ earlier))
  unfold lines at member
  simp only at member
  split at member
  · exact closed line member
  · exact closed line member
  next last _ found =>
    rcases List.mem_append.mp member with earlier | final
    · exact closed line earlier
    · rw [List.mem_singleton.mp final]
      exact sublist_of_mem_pieces (List.mem_of_getLast? found)

end Text

namespace Sheet

theorem dropMark_sublist (chars : List Char) : (dropMark chars).Sublist chars := by
  unfold dropMark
  split
  · exact List.sublist_cons_self _ _
  · exact List.Sublist.refl chars

variable {options : CellOptions} {layout : SheetLayout} {text cell : String} {sheet : Sheet}
  {cells : List String}

theorem cell_sublist (loaded : load options layout text = .ok sheet) (row : cells ∈ sheet.rows)
    (member : cell ∈ cells) : cell.toList.Sublist text.toList := by
  obtain ⟨parsed, done, rest⟩ := Traversal.bind_eq_ok.mp loaded
  obtain ⟨_, _, same⟩ := Traversal.bind_eq_ok.mp rest
  rw [← Except.ok.inj same, (parse_eq_ok.mp (Traversal.mapError_eq_ok.mp done)).1] at row
  obtain ⟨line, taken, rfl⟩ := List.mem_map.mp row
  obtain ⟨piece, cut, rfl⟩ := List.mem_map.mp member
  rw [String.toList_ofList]
  calc
    (Text.trimEnds (· ∈ options.trim) piece).Sublist piece := Text.trimEnds_sublist _ piece
    piece.Sublist line := Text.sublist_of_mem_pieces cut
    line.Sublist (dropMark text.toList) := Text.sublist_of_mem_lines taken
    (dropMark text.toList).Sublist text.toList := dropMark_sublist text.toList

theorem cell_length_le (loaded : load options layout text = .ok sheet) (row : cells ∈ sheet.rows)
    (member : cell ∈ cells) :
    (Text.Utf8.encode cell.toList).length ≤ (Text.Utf8.encode text.toList).length :=
  ((cell_sublist loaded row member).flatMap Text.Utf8.encodeChar).length_le

end Sheet

end GameSheet
