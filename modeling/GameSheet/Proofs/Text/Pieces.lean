import GameSheet.Text.Pieces
import Mathlib

/-!
Cutting and joining are inverse: the pieces of a text joined are the text, and parts without the
separator are the pieces of what they are joined to. Lines that each have an end are cut apart again,
less the carriage return that stood before it.
-/

namespace GameSheet.Text

variable {separator c : Char} {chars piece : List Char} {parts : List (List Char)}

theorem pieces_cons (separator c : Char) (chars : List Char) :
    pieces separator (c :: chars) =
      if c = separator then [] :: pieces separator chars
      else pushPiece c (pieces separator chars) := rfl

theorem pieces_ne_nil (separator : Char) (chars : List Char) : pieces separator chars ≠ [] := by
  cases chars with
  | nil => exact List.cons_ne_nil [] []
  | cons c rest =>
    rw [pieces_cons]
    split_ifs
    · exact List.cons_ne_nil _ _
    · unfold pushPiece
      split <;> exact List.cons_ne_nil _ _

theorem pieces_of_not_mem (absent : separator ∉ piece) : pieces separator piece = [piece] := by
  induction piece with
  | nil => rfl
  | cons c rest ih =>
    obtain ⟨other, later⟩ := List.ne_and_not_mem_of_not_mem_cons absent
    rw [pieces_cons, if_neg (Ne.symm other), ih later, pushPiece]

theorem pieces_append (separator : Char) (front rest : List Char) :
    pieces separator (front ++ separator :: rest) =
      pieces separator front ++ pieces separator rest := by
  induction front with
  | nil => rw [List.nil_append, pieces_cons, if_pos rfl]; rfl
  | cons c more ih =>
    rw [List.cons_append, pieces_cons, pieces_cons, ih]
    split_ifs with cut
    · rfl
    · cases split : pieces separator more with
      | nil => exact absurd split (pieces_ne_nil separator more)
      | cons first later => rfl

theorem pieces_append_cons (absent : separator ∉ piece) (rest : List Char) :
    pieces separator (piece ++ separator :: rest) = piece :: pieces separator rest := by
  rw [pieces_append, pieces_of_not_mem absent, List.singleton_append]

theorem not_mem_of_mem_pieces (member : piece ∈ pieces separator chars) : separator ∉ piece := by
  induction chars generalizing piece with
  | nil =>
    rw [List.mem_singleton.mp member]
    exact List.not_mem_nil
  | cons c rest ih =>
    rw [pieces_cons] at member
    split_ifs at member with cut
    · rcases List.mem_cons.mp member with rfl | later
      · exact List.not_mem_nil
      · exact ih later
    · cases split : pieces separator rest with
      | nil => exact absurd split (pieces_ne_nil separator rest)
      | cons first more =>
        rw [split, pushPiece] at member
        rcases List.mem_cons.mp member with rfl | later
        · exact List.not_mem_cons_of_ne_of_not_mem (Ne.symm cut)
            (ih (by rw [split]; exact List.mem_cons_self))
        · exact ih (by rw [split]; exact List.mem_cons_of_mem first later)

theorem length_pieces (separator : Char) (chars : List Char) :
    (pieces separator chars).length = chars.count separator + 1 := by
  induction chars with
  | nil => rfl
  | cons c rest ih =>
    rw [pieces_cons]
    split_ifs with cut
    · rw [List.length_cons, ih, cut, List.count_cons_self]
    · rw [List.count_cons_of_ne cut]
      cases split : pieces separator rest with
      | nil => exact absurd split (pieces_ne_nil separator rest)
      | cons first more => rwa [split] at ih

theorem joinPieces_cons_cons (separator : Char) (piece next : List Char)
    (parts : List (List Char)) : joinPieces separator (piece :: next :: parts) =
      piece ++ separator :: joinPieces separator (next :: parts) := rfl

theorem joinPieces_pieces (separator : Char) (chars : List Char) :
    joinPieces separator (pieces separator chars) = chars := by
  induction chars with
  | nil => rfl
  | cons c rest ih =>
    rw [pieces_cons]
    cases split : pieces separator rest with
    | nil => exact absurd split (pieces_ne_nil separator rest)
    | cons first more =>
      rw [split] at ih
      split_ifs with cut
      · rw [joinPieces_cons_cons, ih, cut, List.nil_append]
      · rw [pushPiece]
        cases more with
        | nil => rw [← ih]; rfl
        | cons second later =>
          rw [joinPieces_cons_cons] at ih ⊢
          rw [← ih, List.cons_append]

theorem pieces_joinPieces (nonempty : parts ≠ []) (absent : ∀ part ∈ parts, separator ∉ part) :
    pieces separator (joinPieces separator parts) = parts := by
  induction parts with
  | nil => exact absurd rfl nonempty
  | cons part more ih =>
    obtain ⟨first, later⟩ := List.forall_mem_cons.mp absent
    cases more with
    | nil =>
      have alone : joinPieces separator [part] = part := List.append_nil part
      rw [alone, pieces_of_not_mem first]
    | cons next rest =>
      rw [joinPieces_cons_cons, pieces_append_cons first, ih (List.cons_ne_nil next rest) later]

theorem joinPieces_cons (separator : Char) (piece : List Char) (parts : List (List Char)) :
    joinPieces separator (piece :: parts) = piece ++ parts.flatMap (separator :: ·) := by
  induction parts generalizing piece with
  | nil => rfl
  | cons next rest ih =>
    rw [joinPieces_cons_cons, ih next]
    rfl

theorem mem_joinPieces (member : c ∈ joinPieces separator parts) :
    c = separator ∨ ∃ part ∈ parts, c ∈ part := by
  cases parts with
  | nil => exact absurd member List.not_mem_nil
  | cons piece more =>
    rw [joinPieces_cons, List.mem_append, List.mem_flatMap] at member
    rcases member with first | ⟨part, later, inside⟩
    · exact Or.inr ⟨piece, List.mem_cons_self, first⟩
    · rcases List.mem_cons.mp inside with same | inside
      · exact Or.inl same
      · exact Or.inr ⟨part, List.mem_cons_of_mem piece later, inside⟩

theorem joinPieces_prefix (separator : Char) (front back : List (List Char)) :
    joinPieces separator front <+: joinPieces separator (front ++ back) := by
  induction front with
  | nil => exact List.nil_prefix
  | cons piece more ih =>
    cases more with
    | nil =>
      have alone : joinPieces separator [piece] = piece := List.append_nil piece
      rw [alone]
      cases back with
      | nil => rw [List.append_nil, alone]
      | cons next rest =>
        rw [List.cons_append, List.nil_append, joinPieces_cons_cons]
        exact List.prefix_append piece _
    | cons next rest =>
      rw [List.cons_append, List.cons_append, joinPieces_cons_cons, joinPieces_cons_cons]
      apply (List.prefix_append_right_inj piece).mpr
      exact (List.prefix_cons_inj separator).mpr ih

theorem joinPieces_prefix_of_pieces {front back : List (List Char)}
    (split : pieces separator chars = front ++ back) : joinPieces separator front <+: chars := by
  have joined := joinPieces_prefix separator front back
  rwa [← split, joinPieces_pieces] at joined

theorem pieces_flatMap {rows : List (List Char)} (whole : ∀ row ∈ rows, separator ∉ row) :
    pieces separator (rows.flatMap (· ++ [separator])) = rows ++ [[]] := by
  induction rows with
  | nil => rfl
  | cons row rows ih =>
    obtain ⟨first, later⟩ := List.forall_mem_cons.mp whole
    rw [List.flatMap_cons, List.append_assoc, List.singleton_append, pieces_append_cons first,
      ih later, List.cons_append]

theorem lines_flatMap {rows : List (List Char)} (whole : ∀ row ∈ rows, '\n' ∉ row) :
    lines (rows.flatMap (· ++ ['\n'])) = rows.map dropReturn := by
  simp only [lines, pieces_flatMap whole, List.dropLast_concat, List.getLast?_concat]

theorem dropReturn_concat (line : List Char) : dropReturn (line ++ ['\r']) = line := by
  rw [dropReturn, List.getLast?_concat]
  exact List.dropLast_concat

theorem dropReturn_of_not_mem {line : List Char} (absent : '\r' ∉ line) : dropReturn line = line := by
  unfold dropReturn
  split
  next last => exact absurd (List.mem_of_getLast? last) absent
  next => rfl

end GameSheet.Text
