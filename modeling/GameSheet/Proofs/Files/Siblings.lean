import GameSheet.Proofs.Files.Ways

/-!
Files below one directory. Paths that only lead down have the same places in front of them when they
are joined to one path, and those that differ lead to different places.
-/

namespace GameSheet

namespace Path

def Descends (path : Path) : Prop := ∀ part ∈ path.parts, isVoid part = false ∧ part ≠ ['.', '.']

instance (path : Path) : Decidable path.Descends :=
  inferInstanceAs (Decidable (∀ part ∈ path.parts, _))

theorem Descends.relative {path : Path} (descends : path.Descends) : path.isAbsolute = false := by
  rw [isAbsolute]
  cases first : path.chars with
  | nil => rfl
  | cons c rest =>
    have other : c ≠ '/' := by
      rintro rfl
      have void := (descends [] (by rw [parts, first]; exact List.mem_cons_self)).1
      cases void
    simpa using other

theorem parts_of_chars {path : Path} {front rest : List Char}
    (same : path.chars = front ++ '/' :: rest) :
    path.parts = Text.pieces '/' front ++ Text.pieces '/' rest := by
  rw [parts, same, Text.pieces_append]

theorem exists_parts_join (base : Path) : ∃ front, ∀ file : Path, file.isAbsolute = false →
    (base.join file).parts = front ++ file.parts ∧
      (base.join file).isAbsolute = base.isAbsolute := by
  cases empty : base.isEmpty with
  | true =>
    refine ⟨[], fun file relative => ?_⟩
    rw [join, empty, Bool.or_true, if_pos rfl, relative, isAbsolute, List.isEmpty_iff.mp empty]
    exact ⟨rfl, rfl⟩
  | false =>
    have filled : base.chars ≠ [] := List.isEmpty_eq_false_iff.mp empty
    have absolute {path : Path} {name : List Char} (longer : path.chars = base.chars ++ name) :
        path.isAbsolute = base.isAbsolute := by
      rw [isAbsolute, isAbsolute, longer, List.head?_append_of_ne_nil _ filled]
    by_cases slash : base.chars.getLast? = some '/'
    · obtain ⟨front, same⟩ := List.getLast?_eq_some_iff.mp slash
      refine ⟨Text.pieces '/' front, fun file relative => ?_⟩
      have chars : (base.join file).chars = base.chars ++ file.chars := by
        rw [join, relative, empty, Bool.or_self, if_neg Bool.false_ne_true,
          if_pos (beq_iff_eq.mpr slash), Path.chars, String.toList_append]
        rfl
      refine ⟨parts_of_chars ?_, absolute chars⟩
      rw [chars, same, List.append_assoc, List.singleton_append]
    · refine ⟨base.parts, fun file relative => ?_⟩
      have chars : (base.join file).chars = base.chars ++ '/' :: file.chars := by
        rw [join, relative, empty, Bool.or_self, if_neg Bool.false_ne_true,
          if_neg (fun same => slash (beq_iff_eq.mp same)), Path.chars, String.toList_append,
          String.toList_append, List.append_assoc]
        rfl
      exact ⟨parts_of_chars chars, absolute chars⟩

end Path

theorem Location.foldl_step_of_descends (here : Location) {parts : List (List Char)}
    (down : ∀ part ∈ parts, Path.isVoid part = false ∧ part ≠ ['.', '.']) :
    parts.foldl step here = ⟨here.base, here.names ++ parts⟩ := by
  induction parts generalizing here with
  | nil => rw [List.foldl_nil, List.append_nil]
  | cons part parts ih =>
    obtain ⟨⟨named, proper⟩, later⟩ := List.forall_mem_cons.mp down
    have one : here.step part = here.child part := by
      rw [step, named, if_neg Bool.false_ne_true, if_neg proper]
    rw [List.foldl_cons, one, ih (here.child part) later, child, List.append_assoc,
      List.singleton_append]

namespace Path

/-- The places in front of all files below a directory, and the directory itself. -/
theorem exists_way_join (base : Path) : ∃ (way : List Location) (there : Location),
    ∀ file : Path, file.Descends →
      (base.join file).way = way ++ Location.wayFrom there file.parts ∧
        (base.join file).destination = ⟨there.base, there.names ++ file.parts⟩ := by
  obtain ⟨front, joined⟩ := base.exists_parts_join
  let begins : Location := ⟨if base.isAbsolute then .root else .working 0, []⟩
  refine ⟨Location.wayFrom begins front, front.foldl Location.step begins, ?_⟩
  intro file descends
  obtain ⟨parts, absolute⟩ := joined file descends.relative
  have start : FileTree.start (base.join file) = begins := by rw [FileTree.start, absolute]
  constructor
  · rw [way, start, parts, Location.wayFrom_append]
  · rw [destination, start, parts, List.foldl_append, Location.foldl_step_of_descends _ descends]

theorem parts_inj {path other : Path} : path.parts = other.parts ↔ path = other := by
  constructor
  · intro same
    have joined := congrArg (Text.joinPieces '/') same
    rw [parts, parts, Text.joinPieces_pieces, Text.joinPieces_pieces] at joined
    exact congrArg Path.mk (String.toList_inj.mp joined)
  · rintro rfl
    rfl

end Path

end GameSheet
