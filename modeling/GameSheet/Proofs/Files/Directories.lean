import GameSheet.Proofs.Files.Parents

/-!
Making directories. Only places that a path passes are made, and only where nothing was. A directory
can be made exactly when no file stands on the way to it or in its place.
-/

namespace GameSheet

namespace Location

def Rooted (tree : FileTree) (here : Location) : Prop :=
  ∀ count, tree.isDirectory ⟨here.base, here.names.take count⟩ = true

theorem Rooted.self {tree : FileTree} {here : Location} (rooted : here.Rooted tree) :
    tree.isDirectory here = true := by
  have whole := rooted here.names.length
  rwa [List.take_length] at whole

theorem rooted_above {tree : FileTree} {here : Location} (rooted : here.Rooted tree) :
    here.above.Rooted tree := by
  intro count
  unfold above
  split
  · rw [List.take_nil]
    rfl
  · rw [List.dropLast_eq_take, List.take_take]
    exact rooted _

theorem rooted_child {tree : FileTree} {here : Location} {name : List Char}
    (rooted : here.Rooted tree) (entered : tree.isDirectory (here.child name) = true) :
    (here.child name).Rooted tree := by
  intro count
  rw [child, List.take_append]
  by_cases short : count ≤ here.names.length
  · rw [Nat.sub_eq_zero_of_le short, List.take_zero, List.append_nil]
    exact rooted count
  · have past : 1 ≤ count - here.names.length := by omega
    rw [List.take_of_length_le (by omega), List.take_of_length_le (by simpa using past)]
    exact entered

end Location

namespace FileTree

variable {tree made later : FileTree} {path parent : Path} {here place : Location}

def Free (tree : FileTree) (place : Location) : Prop :=
  tree.fileAt? place = none ∨ tree.isDirectory place = true

instance (tree : FileTree) (place : Location) : Decidable (tree.Free place) :=
  inferInstanceAs (Decidable (_ ∨ _))

theorem rooted_start (tree : FileTree) (path : Path) : (start path).Rooted tree := by
  intro count
  unfold start
  split <;> (rw [List.take_nil]; rfl)

theorem follow_of_free {names : List (List Char)} (rooted : here.Rooted tree)
    (fits : ∀ name ∈ names, nameFits name = true)
    (free : ∀ place ∈ Location.wayFrom here names, tree.Free place) :
    tree.follow here names = .ok (names.foldl Location.step here) ∨
      tree.follow here names = .error .notFound := by
  induction names generalizing here with
  | nil => exact Or.inl rfl
  | cons name rest ih =>
    obtain ⟨first, later⟩ := List.forall_mem_cons.mp fits
    obtain ⟨_, freeLater⟩ := List.forall_mem_cons.mp free
    rw [follow, List.foldl_cons, rooted.self, Bool.not_true, if_neg Bool.false_ne_true]
    rw [Location.step] at freeLater ⊢
    by_cases void : Path.isVoid name = true
    · rw [if_pos void] at freeLater ⊢
      rw [if_pos void]
      exact ih rooted later freeLater
    · rw [if_neg void] at freeLater ⊢
      rw [if_neg void]
      by_cases up : name = ['.', '.']
      · rw [if_pos up] at freeLater ⊢
        rw [if_pos up]
        exact ih (Location.rooted_above rooted) later freeLater
      · rw [if_neg up] at freeLater ⊢
        rw [if_neg up, first, Bool.not_true, if_neg Bool.false_ne_true]
        split_ifs with held
        · cases rest with
          | nil => exact Or.inl rfl
          | cons next more =>
            have entered : tree.isDirectory (here.child name) = true := by
              rcases freeLater (here.child name) List.mem_cons_self with absent | entered
              · rwa [List.isEmpty_cons, Bool.false_or, holds, absent, Option.isSome_none,
                  Bool.false_or] at held
              · exact entered
            exact ih (Location.rooted_child rooted entered) later freeLater
        · exact Or.inr rfl

theorem locate_of_free (sound : path.Sound) (free : ∀ place ∈ path.way, tree.Free place) :
    tree.locate path = .ok path.destination ∨ tree.locate path = .error .notFound := by
  rw [locate, sound.accepted]
  exact follow_of_free (tree.rooted_start path) sound.fits free

/-! Trees with more directories -/

/-- The same files, all of the directories, and more of them at some places where nothing was. -/
structure Furnished (tree made : FileTree) (places : Location → Prop) : Prop where
  files : made.files = tree.files
  kept : ∀ place, tree.isDirectory place = true → made.isDirectory place = true
  added : ∀ place, made.isDirectory place = true →
    tree.isDirectory place = true ∨ tree.fileAt? place = none ∧ places place

namespace Furnished

variable {places others : Location → Prop}

theorem refl (tree : FileTree) (places : Location → Prop) : Furnished tree tree places :=
  ⟨rfl, fun _ => id, fun _ => Or.inl⟩

theorem fileAt? (furnished : Furnished tree made places) (place : Location) :
    made.fileAt? place = tree.fileAt? place := by
  rw [FileTree.fileAt?, FileTree.fileAt?, furnished.files]

theorem trans (first : Furnished tree made places) (second : Furnished made later places) :
    Furnished tree later places := by
  refine ⟨second.files.trans first.files, fun place old => second.kept place (first.kept place old), ?_⟩
  intro place new
  rcases second.added place new with earlier | ⟨absent, inside⟩
  · exact first.added place earlier
  · exact Or.inr ⟨by rwa [first.fileAt?] at absent, inside⟩

theorem mono (furnished : Furnished tree made places) (wider : ∀ place, places place → others place) :
    Furnished tree made others :=
  ⟨furnished.files, furnished.kept, fun place new =>
    (furnished.added place new).imp_right (And.imp_right (wider place))⟩

theorem free (furnished : Furnished tree made places) (free : tree.Free place) : made.Free place := by
  rw [Free, furnished.fileAt?]
  exact free.imp_right (furnished.kept place)

theorem free_of_directory (furnished : Furnished tree made places)
    (directory : made.isDirectory place = true) : tree.Free place :=
  (furnished.added place directory).elim Or.inr (fun absent => Or.inl absent.1)

end Furnished

theorem isDirectory_append (tree : FileTree) (location : Location) :
    (FileTree.mk tree.files (tree.directories ++ [location])).isDirectory place = true ↔
      tree.isDirectory place = true ∨ place = location := by
  simp [isDirectory, or_assoc]

theorem furnished_append {location : Location} (absent : tree.fileAt? location = none) :
    Furnished tree ⟨tree.files, tree.directories ++ [location]⟩ (· = location) := by
  refine ⟨rfl, fun place old => (tree.isDirectory_append location).mpr (Or.inl old), ?_⟩
  intro place new
  rcases (tree.isDirectory_append location).mp new with old | rfl
  · exact Or.inl old
  · exact Or.inr ⟨absent, rfl⟩

/-! One directory -/

structure Enters (tree : FileTree) (path : Path) : Prop where
  sound : path.Sound
  directories : ∀ place, path.Passes place → tree.isDirectory place = true

theorem ensure_eq (tree : FileTree) (path : Path) :
    Directories.ensure makeDirectory leads path tree =
      match tree.locate path with
      | .error fault => (.error fault, tree)
      | .ok location =>
        if tree.isDirectory location then (.ok (), tree)
        else if (tree.fileAt? location).isSome then (.error .alreadyExists, tree)
        else (.ok (), ⟨tree.files, tree.directories ++ [location]⟩) := by
  -- Whether the path leads to a directory is asked only where something is.
  have asked : ∀ later, StateT.bind (leads path)
      (fun there => StateT.pure (if there = true then .ok () else .error .alreadyExists)) later =
      ((if (leads path later).1 = true then .ok () else .error .alreadyExists,
        (leads path later).2) : Except FileFault Unit × FileTree) := fun later => rfl
  simp only [Directories.ensure, bind, StateT.bind, makeDirectory]
  cases located : tree.locate path with
  | error fault =>
    cases fault
    case alreadyExists => simp [asked, leads, located, pure]
    all_goals rfl
  | ok location =>
    cases directory : tree.isDirectory location with
    | true => simp [holds, directory, asked, leads, located, pure]
    | false =>
      cases file : tree.fileAt? location with
      | none => simp [holds, directory, file, pure, StateT.pure]
      | some bytes => simp [holds, directory, file, asked, leads, located, pure]

/-- One directory is made only at its own place. -/
theorem furnished_ensure (tree : FileTree) (path : Path) :
    Furnished tree (Directories.ensure makeDirectory leads path tree).2 path.Passes := by
  rw [ensure_eq]
  cases located : tree.locate path with
  | error fault => exact Furnished.refl tree _
  | ok location =>
    obtain ⟨_, _, rfl⟩ := locate_eq_ok.mp located
    simp only
    split_ifs with directory file
    · exact Furnished.refl tree _
    · exact Furnished.refl tree _
    · apply (furnished_append (Option.not_isSome_iff_eq_none.mp file)).mono
      exact fun place => Or.inr

theorem enters_of_ensure (done : Directories.ensure makeDirectory leads path tree = (.ok (), made)) :
    made.Enters path := by
  rw [ensure_eq] at done
  cases located : tree.locate path with
  | error fault =>
    rw [located] at done
    exact absurd (Prod.mk.inj done).1 (by simp)
  | ok location =>
    obtain ⟨sound, way, rfl⟩ := locate_eq_ok.mp located
    simp only [located] at done
    split_ifs at done with directory file
    · obtain rfl := (Prod.mk.inj done).2
      exact ⟨sound, fun place passed => passed.elim (way place) (fun same => by rwa [same])⟩
    · exact absurd (Prod.mk.inj done).1 (by simp)
    · obtain rfl := (Prod.mk.inj done).2
      refine ⟨sound, fun place passed => (tree.isDirectory_append path.destination).mpr ?_⟩
      exact passed.imp_left (way place)

theorem exists_ensure (sound : path.Sound) (way : ∀ place ∈ path.way, tree.isDirectory place = true)
    (free : tree.Free path.destination) :
    ∃ made, Directories.ensure makeDirectory leads path tree = (.ok (), made) := by
  rw [ensure_eq, locate_eq_ok.mpr ⟨sound, way, rfl⟩]
  simp only
  split_ifs with directory file
  · exact ⟨tree, rfl⟩
  · rcases free with absent | entered
    · simp [absent] at file
    · exact absurd entered directory
  · exact ⟨_, rfl⟩

end FileTree

namespace Path

variable {path parent : Path}

def makeable (path : Path) (steps : Nat) : List Path :=
  (path.ascend steps).takeWhile (fun path => path.parent?.isSome)

theorem makeable_of_none (top : path.parent? = none) (steps : Nat) : path.makeable steps = [] := by
  cases steps <;> simp [makeable, ascend, top]

theorem makeable_zero (given : path.parent? = some parent) : path.makeable 0 = [path] := by
  simp [makeable, ascend, given]

theorem makeable_succ (given : path.parent? = some parent) (steps : Nat) :
    path.makeable (steps + 1) = path :: parent.makeable steps := by
  simp [makeable, ascend, given]

theorem isEmpty_of_parent? (given : path.parent? ≠ none) : path.isEmpty = false := by
  cases empty : path.isEmpty with
  | false => rfl
  | true =>
    rw [isEmpty, List.isEmpty_iff] at empty
    exact absurd (by simp [parent?, anchor, empty, dropVoid, Text.pieces, isVoid]) given

theorem passes_of_makeable {steps : Nat} {other : Path} (member : other ∈ path.makeable steps)
    {place : Location} (passed : other.Passes place) : path.Passes place := by
  induction steps generalizing path with
  | zero =>
    cases above : path.parent? with
    | none => simp [makeable_of_none above] at member
    | some parent =>
      rw [makeable_zero above, List.mem_singleton] at member
      rwa [← member]
  | succ steps ih =>
    cases above : path.parent? with
    | none => simp [makeable_of_none above] at member
    | some parent =>
      rw [makeable_succ above] at member
      rcases List.mem_cons.mp member with rfl | higher
      · exact passed
      · exact (isParent_of_parent? above).passes (ih higher)

end Path

namespace FileTree

variable {tree made : FileTree} {path : Path}

theorem ensureLineage_cons (tree : FileTree) (path : Path) (above : List Path) :
    Directories.ensureLineage makeDirectory leads (path :: above) tree =
      match Directories.ensure makeDirectory leads path tree with
      | (.error .notFound, between) =>
        match Directories.ensureLineage makeDirectory leads above between with
        | (.ok (), made) => Directories.ensure makeDirectory leads path made
        | (.error fault, made) => (.error fault, made)
      | outcome => outcome := by
  simp only [Directories.ensureLineage, bind, StateT.bind]
  rcases Directories.ensure makeDirectory leads path tree with ⟨outcome, between⟩
  cases outcome with
  | ok done => rfl
  | error fault =>
    cases fault
    case notFound =>
      rcases higher : Directories.ensureLineage makeDirectory leads above between with ⟨outcome, made⟩
      cases outcome <;> (simp only [StateT.bind, higher]; rfl)
    all_goals rfl

theorem furnished_lineage {paths : List Path} {places : Location → Prop}
    (inside : ∀ path ∈ paths, ∀ place, path.Passes place → places place) (tree : FileTree) :
    Furnished tree (Directories.ensureLineage makeDirectory leads paths tree).2 places := by
  induction paths generalizing tree with
  | nil => exact Furnished.refl tree places
  | cons path above ih =>
    obtain ⟨first, later⟩ := List.forall_mem_cons.mp inside
    have one (tree : FileTree) := (furnished_ensure tree path).mono first
    rw [ensureLineage_cons]
    split
    next between missing =>
      have start := one tree
      rw [missing] at start
      have higher := ih later between
      split
      next made done =>
        rw [done] at higher
        exact (start.trans higher).trans (one made)
      next fault made failed =>
        rw [failed] at higher
        exact start.trans higher
    next => exact one tree

theorem furnished_makeable (tree : FileTree) (path : Path) (steps : Nat) :
    Furnished tree (Directories.ensureLineage makeDirectory leads (path.makeable steps) tree).2
      path.Passes :=
  furnished_lineage (fun _ member _ => Path.passes_of_makeable member) tree

theorem directories_of_names_nil (firm : path.Firm) (empty : path.names = []) {place : Location}
    (passed : path.Passes place) : tree.isDirectory place = true := by
  have base : place = start path := by
    rcases passed with onWay | rfl
    · have only := firm place onWay
      rw [empty] at only
      exact only.resolve_left List.not_mem_nil
    · rw [Path.destination_eq_names, empty]
      rfl
  rw [base]
  exact (tree.rooted_start path).self

theorem directories_of_lineage {steps : Nat} (firm : path.Firm)
    (done : Directories.ensureLineage makeDirectory leads (path.makeable steps) tree = (.ok (), made))
    {place : Location} (passed : path.Passes place) : made.isDirectory place = true := by
  cases above : path.parent? with
  | none => exact directories_of_names_nil firm (Path.names_of_parent?_eq_none above) passed
  | some parent =>
    obtain ⟨higher, same⟩ : ∃ higher, path.makeable steps = path :: higher := by
      cases steps with
      | zero => exact ⟨[], Path.makeable_zero above⟩
      | succ steps => exact ⟨_, Path.makeable_succ above steps⟩
    rw [same, ensureLineage_cons] at done
    split at done
    next between missing =>
      split at done
      next => exact (enters_of_ensure done).directories place passed
      next => exact absurd (Prod.mk.inj done).1 (by simp)
    next => exact (enters_of_ensure done).directories place passed

/-- A directory can be made with all those above it where no file is in the way. -/
theorem exists_lineage {steps : Nat} (enough : path.names.length ≤ steps) (firm : path.Firm)
    (sound : path.parent? ≠ none → path.Sound) (free : ∀ place, path.Passes place → tree.Free place) :
    ∃ made, Directories.ensureLineage makeDirectory leads (path.makeable steps) tree =
      (.ok (), made) := by
  -- The lineage is climbed from its low end, and nothing is made before its top is reached.
  induction steps generalizing path with
  | zero =>
    have empty := List.length_eq_zero_iff.mp (Nat.le_zero.mp enough)
    cases above : path.parent? with
    | none => exact ⟨tree, by rw [Path.makeable_of_none above]; rfl⟩
    | some parent =>
      obtain ⟨made, done⟩ := exists_ensure (sound (by simp [above]))
        (fun place onWay => directories_of_names_nil firm empty (Or.inl onWay))
        (free path.destination (Or.inr rfl))
      refine ⟨made, ?_⟩
      rw [Path.makeable_zero above, ensureLineage_cons, done]
  | succ steps ih =>
    cases above : path.parent? with
    | none => exact ⟨tree, by rw [Path.makeable_of_none above]; rfl⟩
    | some parent =>
      have sound := sound (by simp [above])
      have given := Path.isParent_of_parent? above
      rw [Path.makeable_succ above]
      rcases locate_of_free sound (fun place onWay => free place (Or.inl onWay)) with found | missing
      · obtain ⟨_, way, _⟩ := locate_eq_ok.mp found
        obtain ⟨made, done⟩ := exists_ensure sound way (free path.destination (Or.inr rfl))
        exact ⟨made, by rw [ensureLineage_cons, done]⟩
      · have first : Directories.ensure makeDirectory leads path tree = (.error .notFound, tree) := by
          rw [ensure_eq, missing]
        obtain ⟨name, names⟩ : ∃ name, path.names = parent.names ++ [name] := by
          refine given.names.resolve_left (fun absent => ?_)
          have found : tree.locate path = .ok path.destination := locate_eq_ok.mpr
            ⟨sound, fun place onWay => directories_of_names_nil firm absent.1 (Or.inl onWay), rfl⟩
          rw [missing] at found
          cases found
        rw [names, List.length_append, List.length_singleton] at enough
        obtain ⟨higher, done⟩ := ih (Nat.le_of_succ_le_succ enough) given.firm
          (fun more => sound.of_parent given (Path.isEmpty_of_parent? more))
          (fun place passed => free place (given.passes passed))
        have furnished := furnished_makeable tree parent steps
        rw [done] at furnished
        obtain ⟨made, last⟩ := exists_ensure sound
          (fun place onWay => directories_of_lineage given.firm done
            (Path.passes_of_mem_way given.start names firm onWay))
          (furnished.free (free path.destination (Or.inr rfl)))
        refine ⟨made, ?_⟩
        rw [ensureLineage_cons, first]
        simp only [done, last]

end FileTree

end GameSheet
