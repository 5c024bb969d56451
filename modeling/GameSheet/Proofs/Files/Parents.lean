import GameSheet.Proofs.Files.Ways

/-!
Parents of paths. A path leads through its parent's places and then to one more name, so the directory
of a file is the last place on the way to it.
-/

namespace GameSheet

open Text

namespace Location

theorem mem_wayFrom_of_names {here place : Location} {parts : List (List Char)}
    (member : place ∈ wayFrom here (parts.filter (fun part => !Path.isVoid part))) :
    place ∈ wayFrom here parts := by
  induction parts generalizing here with
  | nil => exact member
  | cons part parts ih =>
    rw [wayFrom]
    cases void : Path.isVoid part with
    | true =>
      rw [List.filter_cons_of_neg (by rw [void]; decide)] at member
      rw [step_of_void here void]
      exact List.mem_cons_of_mem here (ih member)
    | false =>
      rw [List.filter_cons_of_pos (by rw [void]; decide), wayFrom, List.mem_cons] at member
      exact List.mem_cons.mpr (member.imp_right ih)

/-- A last part that names something leads through no place of its own. -/
theorem mem_wayFrom_concat {here place : Location} {front : List (List Char)} {last : List Char}
    (named : Path.isVoid last = false) : place ∈ wayFrom here (front ++ [last]) ↔
      place ∈ wayFrom here ((front ++ [last]).filter (fun part => !Path.isVoid part)) := by
  have alone : [last].filter (fun part => !Path.isVoid part) = [last] := by simp [named]
  rw [List.filter_append, alone, wayFrom_append, wayFrom_append, foldl_step_names, List.mem_append,
    List.mem_append, wayFrom, wayFrom, List.mem_singleton]
  exact mem_wayFrom_names

end Location

namespace Path

variable {path parent : Path}

/-- The path does not end in a slash or a dot, which would ask for a directory at its end. -/
def Firm (path : Path) : Prop := ∀ place ∈ path.way,
  place ∈ Location.wayFrom (FileTree.start path) path.names ∨ place = FileTree.start path

theorem firm_of_names_nil (empty : path.names = []) : path.Firm := by
  intro place member
  have passed : path.Passes place := Or.inl member
  rw [passes_iff, destination_eq_names, empty] at passed
  rwa [empty]

theorem firm_of_concat {front : List (List Char)} {last : List Char}
    (split : path.parts = front ++ [last]) (named : isVoid last = false) : path.Firm := by
  intro place member
  left
  rw [way, split, Location.mem_wayFrom_concat named] at member
  rwa [names, split]

theorem start_mem_way (path : Path) : FileTree.start path ∈ path.way := by
  rw [way]
  cases parts : path.parts with
  | nil => exact absurd parts (pieces_ne_nil '/' path.chars)
  | cons part rest => exact List.mem_cons_self

inductive Anchored : List Char → List Char → Prop where
  | none (rest : List Char) (relative : rest.head? ≠ some '/') : Anchored [] rest
  | root (rest : List Char) : Anchored ['/'] rest
  | dot : Anchored ['.'] []
  | inside (rest : List Char) : Anchored ['.'] ('/' :: rest)

theorem anchored (path : Path) : Anchored path.anchor (path.chars.drop path.anchor.length) ∧
    path.anchor ++ path.chars.drop path.anchor.length = path.chars := by
  unfold anchor
  split
  next rest same =>
    rw [same]
    exact ⟨.root rest, rfl⟩
  next same =>
    rw [same]
    exact ⟨.dot, rfl⟩
  next rest same =>
    rw [same]
    exact ⟨.inside rest, rfl⟩
  next relative _ _ =>
    refine ⟨.none _ ?_, rfl⟩
    intro absolute
    cases chars : path.chars with
    | nil => simp [chars] at absolute
    | cons c rest =>
      rw [chars] at absolute
      exact relative rest (by rw [chars, Option.some.inj absolute])

theorem Anchored.names {anchor rest : List Char} (anchored : Anchored anchor rest) :
    (pieces '/' (anchor ++ rest)).filter (fun part => !isVoid part) =
      (pieces '/' rest).filter (fun part => !isVoid part) := by
  cases anchored <;> rfl

theorem Anchored.shorten {anchor rest : List Char} (anchored : Anchored anchor rest)
    {kept dropped : List (List Char)} (split : pieces '/' rest = kept ++ dropped)
    (named : ∀ last, kept.getLast? = some last → isVoid last = false) :
    Anchored anchor (joinPieces '/' kept) := by
  have front := joinPieces_prefix_of_pieces split
  cases anchored with
  | none rest relative =>
    apply Anchored.none
    intro absolute
    obtain ⟨more, same⟩ := front
    apply relative
    rw [← same, List.head?_append, absolute]
    rfl
  | root => exact .root _
  | dot =>
    rw [List.prefix_nil.mp front]
    exact .dot
  | inside rest =>
    have first : pieces '/' ('/' :: rest) = [] :: pieces '/' rest := rfl
    rw [first] at split
    cases kept with
    | nil => exact .dot
    | cons part more =>
      obtain ⟨rfl, _⟩ := List.cons.inj split
      cases more with
      | nil => exact absurd (named [] rfl) (by decide)
      | cons next later => exact .inside _

theorem Anchored.getLast? {anchor rest : List Char} (anchored : Anchored anchor rest)
    (nonempty : rest ≠ []) :
    (pieces '/' (anchor ++ rest)).getLast? = (pieces '/' rest).getLast? := by
  have behind (part : List Char) (chars : List Char) :
      (part :: pieces '/' chars).getLast? = (pieces '/' chars).getLast? := by
    cases parts : pieces '/' chars with
    | nil => exact absurd parts (pieces_ne_nil '/' chars)
    | cons next more => exact List.getLast?_cons_cons
  cases anchored with
  | none => rfl
  | root => exact behind [] _
  | dot => exact absurd rfl nonempty
  | inside rest => exact (behind ['.'] rest).trans (behind [] rest).symm

theorem Anchored.absolute {anchor rest : List Char} (anchored : Anchored anchor rest) :
    ((anchor ++ rest).head? == some '/') = (anchor == ['/']) := by
  cases anchored with
  | none _ relative => exact beq_eq_false_iff_ne.mpr relative
  | root => rfl
  | dot => rfl
  | inside => rfl

theorem Anchored.firm {anchor : List Char} {kept : List (List Char)}
    (anchored : Anchored anchor (joinPieces '/' kept)) (whole : ∀ part ∈ kept, '/' ∉ part)
    (named : ∀ last, kept.getLast? = some last → isVoid last = false)
    (chars : path.chars = anchor ++ joinPieces '/' kept) : path.Firm := by
  cases last : kept.getLast? with
  | none =>
    apply firm_of_names_nil
    rw [Path.names, parts, chars, anchored.names, List.getLast?_eq_none_iff.mp last]
    rfl
  | some part =>
    have pieces := pieces_joinPieces (List.ne_nil_of_mem (List.mem_of_getLast? last)) whole
    have nonempty : joinPieces '/' kept ≠ [] := by
      intro empty
      rw [empty] at pieces
      exact absurd (named [] (by rw [← pieces]; rfl)) (by decide)
    have ends := anchored.getLast? nonempty
    rw [pieces, last] at ends
    obtain ⟨front, split⟩ := List.getLast?_eq_some_iff.mp ends
    exact firm_of_concat (by rw [parts, chars, split]) (named part last)

theorem start_eq {other : Path} (same : path.isAbsolute = other.isAbsolute) :
    FileTree.start path = FileTree.start other := by
  rw [FileTree.start, FileTree.start, same]

/-- Parts that name nothing are left out whether or not they stand at the end. -/
theorem names_rdropWhile (parts : List (List Char)) :
    parts.filter (fun part => !isVoid part) =
      (parts.rdropWhile isVoid).filter (fun part => !isVoid part) := by
  have voids : (parts.rtakeWhile isVoid).filter (fun part => !isVoid part) = [] := by
    rw [List.filter_eq_nil_iff]
    intro part member
    rw [List.mem_rtakeWhile_imp member]
    decide
  calc
    parts.filter (fun part => !isVoid part) =
        (parts.rdropWhile isVoid ++ parts.rtakeWhile isVoid).filter (fun part => !isVoid part) := by
      rw [List.rdropWhile_append_rtakeWhile]
    _ = (parts.rdropWhile isVoid).filter (fun part => !isVoid part) := by
      rw [List.filter_append, voids, List.append_nil]

theorem named_of_rdropWhile {parts : List (List Char)} {last : List Char}
    (found : (parts.rdropWhile isVoid).getLast? = some last) : isVoid last = false := by
  obtain ⟨front, same⟩ := List.getLast?_eq_some_iff.mp found
  have nonempty : parts.rdropWhile isVoid ≠ [] := by
    rw [same]
    exact List.append_ne_nil_of_right_ne_nil front (List.cons_ne_nil last [])
  have named := List.rdropWhile_last_not isVoid parts nonempty
  simp only [same, List.getLast_append_singleton] at named
  exact Bool.eq_false_iff.mpr named

def behind (path : Path) : List (List Char) := pieces '/' (path.chars.drop path.anchor.length)

theorem names_eq_behind (path : Path) :
    path.names = path.behind.filter (fun part => !isVoid part) := by
  obtain ⟨anchored, chars⟩ := path.anchored
  have names := anchored.names
  rwa [chars] at names

/-- A parent keeps the parts in front of the last name, up to the last name among them. -/
theorem parent?_cases (path : Path) :
    (path.names = [] ∧ path.parent? = if path.anchor = ['.'] then some ⟨""⟩ else none) ∨
      ∃ kept dropped name, path.behind = kept ++ dropped ∧
        (∀ last, kept.getLast? = some last → isVoid last = false) ∧
        path.names = kept.filter (fun part => !isVoid part) ++ [name] ∧
        path.parent? = some ⟨String.ofList (path.anchor ++ joinPieces '/' kept)⟩ := by
  have whole := List.rdropWhile_append_rtakeWhile (p := isVoid) (l := path.behind)
  have names := path.names_eq_behind
  rw [names_rdropWhile] at names
  cases taken : dropVoid path.behind.reverse with
  | nil =>
    left
    have nothing : path.behind.rdropWhile isVoid = [] := congrArg List.reverse taken
    rw [nothing] at names
    refine ⟨names, ?_⟩
    unfold parent?
    rw [behind] at taken
    simp only [taken]
  | cons name before =>
    right
    have front : path.behind.rdropWhile isVoid = before.reverse ++ [name] := by
      rw [← List.reverse_cons]
      exact congrArg List.reverse taken
    have kept : (dropVoid before).reverse = before.reverse.rdropWhile isVoid := by
      rw [List.rdropWhile_reverse]
      rfl
    have named : isVoid name = false := by
      apply named_of_rdropWhile
      rw [front]
      exact List.getLast?_concat
    refine ⟨before.reverse.rdropWhile isVoid, before.reverse.rtakeWhile isVoid ++ [name] ++
      path.behind.rtakeWhile isVoid, name, ?_, fun last => named_of_rdropWhile, ?_, ?_⟩
    · rw [← List.append_assoc, ← List.append_assoc, List.rdropWhile_append_rtakeWhile, ← front, whole]
    · rw [names, front, List.filter_append, names_rdropWhile before.reverse]
      simp [named]
    · unfold parent?
      rw [behind] at taken
      simp only [taken]
      rw [kept]

structure IsParent (path parent : Path) : Prop where
  chars : parent.chars <+: path.chars
  start : FileTree.start parent = FileTree.start path
  firm : parent.Firm
  names : path.names = [] ∧ parent.isEmpty = true ∨ ∃ name, path.names = parent.names ++ [name]

theorem isParent_of_parent? (given : path.parent? = some parent) : path.IsParent parent := by
  obtain ⟨anchored, chars⟩ := path.anchored
  rcases path.parent?_cases with ⟨empty, found⟩ | ⟨kept, dropped, name, split, named, names, found⟩
  · rw [given] at found
    split_ifs at found with dot
    obtain rfl := Option.some.inj found
    have relative : path.isAbsolute = false := by
      rw [isAbsolute, ← chars, anchored.absolute, dot]
      rfl
    refine ⟨List.nil_prefix, start_eq ?_, firm_of_names_nil rfl, Or.inl ⟨empty, rfl⟩⟩
    rw [relative]
    rfl
  · rw [given] at found
    obtain rfl := Option.some.inj found
    have shorter := anchored.shorten split named
    have same : (⟨String.ofList (path.anchor ++ joinPieces '/' kept)⟩ : Path).chars =
        path.anchor ++ joinPieces '/' kept := String.toList_ofList
    have whole : ∀ part ∈ kept, '/' ∉ part := by
      intro part member
      have inside : part ∈ path.behind := by
        rw [split]
        exact List.mem_append_left dropped member
      exact not_mem_of_mem_pieces inside
    refine ⟨?_, start_eq ?_, ?_, Or.inr ⟨name, ?_⟩⟩
    · rw [same, ← chars]
      exact (List.prefix_append_right_inj path.anchor).mpr (joinPieces_prefix_of_pieces split)
    · rw [isAbsolute, isAbsolute, same, ← chars, shorter.absolute, anchored.absolute]
    · exact shorter.firm whole named same
    · rw [names]
      congr 1
      rw [Path.names, parts, same, shorter.names]
      cases kept with
      | nil => rfl
      | cons part more => rw [pieces_joinPieces (List.cons_ne_nil part more) whole]

theorem names_of_parent?_eq_none (given : path.parent? = none) : path.names = [] := by
  rcases path.parent?_cases with ⟨empty, _⟩ | ⟨kept, dropped, name, _, _, _, found⟩
  · exact empty
  · rw [given] at found
    simp at found

theorem accept_eq_ok : FileTree.accept path = .ok () ↔ '\x00' ∉ path.chars ∧
    path.isEmpty = false ∧ (Utf8.encode path.chars).length < FileTree.pathLimit := by
  unfold FileTree.accept
  rw [List.contains_eq_mem]
  split_ifs with nul empty long
  · simp [of_decide_eq_true nul]
  · simp [empty]
  · simp [long]
  · rw [decide_eq_true_eq] at nul
    rw [Bool.not_eq_true] at empty
    exact ⟨fun _ => ⟨nul, empty, not_le.mp long⟩, fun _ => rfl⟩

theorem Sound.of_parent (sound : path.Sound) (given : path.IsParent parent)
    (nonempty : parent.isEmpty = false) : parent.Sound := by
  obtain ⟨plain, _, short⟩ := accept_eq_ok.mp sound.accepted
  obtain ⟨rest, same⟩ := given.chars
  constructor
  · refine accept_eq_ok.mpr ⟨?_, nonempty, ?_⟩
    · rw [← same] at plain
      exact fun member => plain (List.mem_append_left rest member)
    · rw [← same, Utf8.encode, List.flatMap_append, List.length_append] at short
      exact lt_of_le_of_lt (Nat.le_add_right _ _) short
  · intro part member
    by_cases void : isVoid part = true
    · exact FileTree.nameFits_void void
    · have named : part ∈ parent.names := List.mem_filter.mpr ⟨member, by simpa using void⟩
      rcases given.names with ⟨_, empty⟩ | ⟨name, names⟩
      · rw [empty] at nonempty
        exact absurd nonempty (by decide)
      · have kept : part ∈ path.names := by
          rw [names]
          exact List.mem_append_left [name] named
        exact sound.fits part (List.mem_filter.mp kept).1

section Longer

variable {place : Path} {name : List Char}

theorem mem_way_of_names (start : FileTree.start place = FileTree.start path)
    (names : path.names = place.names ++ [name]) {spot : Location} (passed : place.Passes spot) :
    spot ∈ path.way := by
  apply Location.mem_wayFrom_of_names
  change spot ∈ Location.wayFrom (FileTree.start path) path.names
  rw [passes_iff, destination_eq_names, start] at passed
  rw [names, Location.wayFrom_append, List.mem_append, Location.wayFrom, Location.wayFrom,
    List.mem_singleton]
  exact passed

theorem passes_of_mem_way (start : FileTree.start place = FileTree.start path)
    (names : path.names = place.names ++ [name]) (firm : path.Firm) {spot : Location}
    (member : spot ∈ path.way) : place.Passes spot := by
  rcases firm spot member with inside | rfl
  · rw [names, Location.wayFrom_append, List.mem_append, Location.wayFrom, Location.wayFrom,
      List.mem_singleton] at inside
    rw [passes_iff, destination_eq_names, start]
    exact inside
  · rw [← start]
    exact Or.inl place.start_mem_way

end Longer

theorem IsParent.passes (given : path.IsParent parent) {spot : Location}
    (passed : parent.Passes spot) : path.Passes spot := by
  left
  rcases given.names with ⟨empty, blank⟩ | ⟨name, names⟩
  · have same : parent.names = [] := by
      rw [isEmpty, List.isEmpty_iff] at blank
      rw [Path.names, parts, blank]
      rfl
    rw [passes_iff, destination_eq_names, same, given.start] at passed
    rw [passed.resolve_left List.not_mem_nil]
    exact path.start_mem_way
  · exact mem_way_of_names given.start names passed

theorem directory_of_names_nil (empty : path.names = []) : path.directory = ⟨"."⟩ := by
  rcases path.parent?_cases with ⟨_, found⟩ | ⟨kept, _, name, _, _, names, _⟩
  · unfold directory
    rw [found]
    split_ifs <;> rfl
  · rw [empty] at names
    simp at names

structure Below (path place : Path) : Prop where
  start : FileTree.start place = FileTree.start path
  firm : place.Firm
  sound : path.Sound → place.Sound
  names : ∃ name, path.names = place.names ++ [name]

theorem below_directory (named : path.names ≠ []) : path.Below path.directory := by
  cases above : path.parent? with
  | none => exact absurd (names_of_parent?_eq_none above) named
  | some parent =>
    have given := isParent_of_parent? above
    obtain ⟨name, names⟩ := given.names.resolve_left (fun absent => named absent.1)
    cases empty : parent.isEmpty with
    | false =>
      have same : path.directory = parent := by simp [directory, above, empty]
      rw [same]
      exact ⟨given.start, given.firm, fun sound => sound.of_parent given empty, name, names⟩
    | true =>
      have same : path.directory = ⟨"."⟩ := by simp [directory, above, empty]
      have blank : parent = ⟨""⟩ := by
        rw [isEmpty, List.isEmpty_iff, chars, String.toList_eq_nil_iff] at empty
        cases parent
        exact congrArg Path.mk empty
      rw [blank] at names given
      rw [same]
      exact ⟨given.start, firm_of_names_nil (by decide), fun _ => ⟨by decide, by decide⟩, name, names⟩

end Path

end GameSheet
