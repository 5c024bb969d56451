import GameSheet.Proofs.Associations
import GameSheet.Proofs.Files.Directories

/-!
Writing files. Apart from directories that are made on the way, nothing but the path's own file
changes. Whether a tree takes a file at a path does not depend on what is written there.
-/

namespace GameSheet

namespace FileTree

variable {tree made next written : FileTree} {path other : Path} {place : Location}
variable {bytes : List UInt8}

theorem lookup_setFile (location : Location) (bytes : List UInt8)
    (files : List (Location × List UInt8)) :
    (setFile location bytes files).lookup place =
      if place = location then some bytes else files.lookup place := by
  induction files with
  | nil => exact Association.lookup_cons location bytes [] place
  | cons file rest ih =>
    obtain ⟨there, kept⟩ := file
    rw [setFile, Association.lookup_cons]
    by_cases found : there = location
    · rw [if_pos found, Association.lookup_cons, found]
      split_ifs <;> rfl
    · rw [if_neg found, Association.lookup_cons, ih]
      by_cases same : place = there
      · rw [if_pos same, if_neg (same ▸ found), if_pos same]
      · rw [if_neg same, if_neg same]

theorem putFile_eq_ok : tree.putFile path bytes = .ok written ↔
    path.Sound ∧ (∀ place ∈ path.way, tree.isDirectory place = true) ∧
      tree.isDirectory path.destination = false ∧
      written = ⟨setFile path.destination bytes tree.files, tree.directories⟩ := by
  have nul_iff : path.chars.contains '\x00' = true ↔ '\x00' ∈ path.chars := by
    rw [List.contains_eq_mem, decide_eq_true_eq]
  unfold putFile
  by_cases nul : path.chars.contains '\x00' = true
  · rw [if_pos nul]
    constructor
    · intro put
      cases put
    · rintro ⟨sound, _⟩
      exact absurd (nul_iff.mp nul) (Path.accept_eq_ok.mp sound.accepted).1
  rw [if_neg nul]
  constructor
  · intro put
    obtain ⟨location, located, put⟩ := Traversal.bind_eq_ok.mp put
    obtain ⟨sound, way, rfl⟩ := locate_eq_ok.mp located
    split_ifs at put with directory
    · cases put
    · exact ⟨sound, way, Bool.eq_false_iff.mpr directory, (Except.ok.inj put).symm⟩
  · rintro ⟨sound, way, vacant, rfl⟩
    refine Traversal.bind_eq_ok.mpr ⟨path.destination, locate_eq_ok.mpr ⟨sound, way, rfl⟩, ?_⟩
    rw [vacant]
    rfl

theorem ensureAll_eq (path : Path) : Directories.ensureAll makeDirectory leads path =
    Directories.ensureLineage makeDirectory leads (path.makeable path.parts.length) := rfl

theorem furnished_directory (tree : FileTree) (path : Path) :
    Furnished tree (Directories.ensureAll makeDirectory leads path.directory tree).2
      (· ∈ path.way) := by
  rw [ensureAll_eq]
  have furnished := furnished_makeable tree path.directory path.directory.parts.length
  by_cases named : path.names = []
  · refine ⟨furnished.files, furnished.kept, fun place new => ?_⟩
    rcases furnished.added place new with old | ⟨_, passed⟩
    · exact Or.inl old
    · have current : path.directory = ⟨"."⟩ := Path.directory_of_names_nil named
      rw [current] at passed
      have empty : (⟨"."⟩ : Path).names = [] := by decide
      exact Or.inl (directories_of_names_nil (Path.firm_of_names_nil empty) empty passed)
  · obtain ⟨start, _, _, name, names⟩ := Path.below_directory named
    exact furnished.mono (fun place => Path.mem_way_of_names start names)

theorem write_of_made
    (ensured : Directories.ensureAll makeDirectory leads path.directory tree = (.ok (), made)) :
    tree.write path bytes = match made.putFile path bytes with
      | .error fault => (made, .error (.placement path fault))
      | .ok written => (written, .ok ()) := by
  cases put : made.putFile path bytes <;> simp only [write, ensured, put]

/-- Directories are made first, and a fault keeps them. -/
theorem write_cases (tree : FileTree) (path : Path) (bytes : List UInt8) :
    ∃ made, Furnished tree made (· ∈ path.way) ∧
      ((∃ fault, tree.write path bytes = (made, .error fault)) ∨
        ∃ written, made.putFile path bytes = .ok written ∧
          tree.write path bytes = (written, .ok ())) := by
  have furnished := furnished_directory tree path
  rcases ensured : Directories.ensureAll makeDirectory leads path.directory tree with ⟨outcome, made⟩
  rw [ensured] at furnished
  refine ⟨made, furnished, ?_⟩
  cases outcome with
  | error fault => exact Or.inl ⟨.directory path.directory fault, by simp only [write, ensured]⟩
  | ok =>
    cases put : made.putFile path bytes with
    | error fault => exact Or.inl ⟨.placement path fault, by rw [write_of_made ensured, put]⟩
    | ok written => exact Or.inr ⟨written, rfl, by rw [write_of_made ensured, put]⟩

structure Wrote (tree next : FileTree) (path : Path) (content : Option (List UInt8)) : Prop where
  kept : ∀ place, tree.isDirectory place = true → next.isDirectory place = true
  added : ∀ place, next.isDirectory place = true →
    tree.isDirectory place = true ∨ tree.fileAt? place = none ∧ place ∈ path.way
  fileAt? : ∀ place, next.fileAt? place =
    if place = path.destination then content <|> tree.fileAt? place else tree.fileAt? place

theorem wrote_of_write (tree : FileTree) (path : Path) (bytes : List UInt8) :
    Wrote tree (tree.write path bytes).1 path
      ((tree.write path bytes).2.toOption.map (fun _ => bytes)) := by
  obtain ⟨made, furnished, ⟨fault, failed⟩ | ⟨written, put, done⟩⟩ := tree.write_cases path bytes
  · rw [failed]
    refine ⟨furnished.kept, furnished.added, fun place => ?_⟩
    rw [furnished.fileAt?]
    split_ifs <;> rfl
  · rw [done]
    obtain ⟨_, _, _, rfl⟩ := putFile_eq_ok.mp put
    refine ⟨furnished.kept, furnished.added, fun place => ?_⟩
    rw [FileTree.fileAt?, lookup_setFile, furnished.files]
    rfl

structure Takes (tree : FileTree) (path : Path) : Prop where
  sound : path.Sound
  free : ∀ place ∈ path.way, tree.Free place
  vacant : tree.isDirectory path.destination = false
  apart : path.destination ∉ path.way

instance (tree : FileTree) (path : Path) : Decidable (tree.Takes path) :=
  decidable_of_iff (path.Sound ∧ (∀ place ∈ path.way, tree.Free place) ∧
      tree.isDirectory path.destination = false ∧ path.destination ∉ path.way) (by
    constructor
    · rintro ⟨sound, free, vacant, apart⟩
      exact ⟨sound, free, vacant, apart⟩
    · intro takes
      exact ⟨takes.sound, takes.free, takes.vacant, takes.apart⟩)

theorem Takes.firm (takes : tree.Takes path) : path.Firm := by
  intro place onWay
  have passed : path.Passes place := Or.inl onWay
  rw [Path.passes_iff] at passed
  exact Or.inl (passed.resolve_right (fun same => takes.apart (same ▸ onWay)))

theorem Takes.named (takes : tree.Takes path) : path.names ≠ [] := by
  intro empty
  have entered : tree.isDirectory path.destination = true :=
    directories_of_names_nil takes.firm empty (Or.inr rfl)
  rw [takes.vacant] at entered
  cases entered

theorem write_eq_ok : (tree.write path bytes).2 = .ok () ↔ tree.Takes path := by
  constructor
  · intro done
    obtain ⟨made, furnished, ⟨fault, failed⟩ | ⟨written, put, _⟩⟩ := tree.write_cases path bytes
    · rw [failed] at done
      cases done
    · obtain ⟨sound, way, vacant, _⟩ := putFile_eq_ok.mp put
      refine ⟨sound, fun place onWay => furnished.free_of_directory (way place onWay), ?_, ?_⟩
      · rw [← Bool.not_eq_true] at vacant ⊢
        exact fun old => vacant (furnished.kept path.destination old)
      · intro onWay
        rw [way path.destination onWay] at vacant
        cases vacant
  · intro takes
    obtain ⟨start, firm, sound, name, names⟩ := Path.below_directory takes.named
    have enough : path.directory.names.length ≤ path.directory.parts.length :=
      List.length_filter_le _ _
    obtain ⟨made, done⟩ := exists_lineage enough firm (fun _ => sound takes.sound)
      (fun place passed => takes.free place (Path.mem_way_of_names start names passed))
    have furnished := furnished_directory tree path
    rw [ensureAll_eq, done] at furnished
    have put : ∃ written, made.putFile path bytes = .ok written := by
      refine ⟨_, putFile_eq_ok.mpr ⟨takes.sound, fun place onWay => ?_, ?_, rfl⟩⟩
      · exact directories_of_lineage firm done
          (Path.passes_of_mem_way start names takes.firm onWay)
      · rw [← Bool.not_eq_true]
        intro directory
        rcases furnished.added path.destination directory with old | ⟨_, onWay⟩
        · rw [takes.vacant] at old
          cases old
        · exact takes.apart onWay
    obtain ⟨written, put⟩ := put
    rw [← ensureAll_eq] at done
    rw [write_of_made done, put]

/-! What a write does to other paths -/

def AlikeAt (tree next : FileTree) (place : Location) : Prop :=
  next.isDirectory place = tree.isDirectory place ∧ next.fileAt? place = tree.fileAt? place

theorem AlikeAt.holds (alike : AlikeAt tree next place) : next.holds place = tree.holds place := by
  rw [FileTree.holds, FileTree.holds, alike.1, alike.2]

theorem follow_congr {here : Location} {names : List (List Char)}
    (alike : ∀ place ∈ Location.wayFrom here names, AlikeAt tree next place) :
    next.follow here names = tree.follow here names := by
  induction names generalizing here with
  | nil => rfl
  | cons name rest ih =>
    obtain ⟨now, later⟩ := List.forall_mem_cons.mp alike
    rw [Location.step] at later
    rw [follow, follow, now.1]
    by_cases void : Path.isVoid name = true
    · rw [if_pos void] at later
      rw [if_pos void, if_pos void, ih later]
    · rw [if_neg void] at later
      rw [if_neg void, if_neg void]
      by_cases up : name = ['.', '.']
      · rw [if_pos up] at later
        rw [if_pos up, if_pos up, ih later]
      · rw [if_neg up] at later
        rw [if_neg up, if_neg up, ih later]
        cases rest with
        | nil => rfl
        | cons next more => rw [(later (here.child name) List.mem_cons_self).holds]

/-- A path reads the same in trees that are alike at all the places that it passes. -/
theorem read_congr (alike : ∀ place, path.Passes place → AlikeAt tree next place) :
    next.read path = tree.read path := by
  have found : next.locate path = tree.locate path := by
    rw [locate, locate, follow_congr (fun place onWay => alike place (Or.inl onWay))]
  rw [read, read, found]
  cases located : tree.locate path with
  | error fault => rfl
  | ok location =>
    obtain ⟨_, _, rfl⟩ := locate_eq_ok.mp located
    obtain ⟨directory, file⟩ := alike path.destination (Or.inr rfl)
    simp only [bind, Except.bind, directory, file]

namespace Wrote

variable {content : Option (List UInt8)}

theorem refl (tree : FileTree) (path : Path) : Wrote tree tree path none :=
  ⟨fun _ => id, fun _ => Or.inl, fun place => by split_ifs <;> rfl⟩

theorem free (wrote : Wrote tree next other content) (free : tree.Free place)
    (elsewhere : content ≠ none → place ≠ other.destination) : next.Free place := by
  have same : next.fileAt? place = tree.fileAt? place := by
    rw [wrote.fileAt?]
    cases content with
    | none => split_ifs <;> rfl
    | some bytes => rw [if_neg (elsewhere (Option.some_ne_none bytes))]
  rw [Free, same]
  exact free.imp_right (wrote.kept place)

/-- A path that is not on the way to the file is taken as before, unless it leads through what was
written. -/
theorem takes (wrote : Wrote tree next other content) (takes : tree.Takes path)
    (through : content ≠ none → other.destination ∉ path.way)
    (onWay : path.destination ∉ other.way) : next.Takes path := by
  refine ⟨takes.sound, fun place member => ?_, ?_, takes.apart⟩
  · exact wrote.free (takes.free place member) (fun written same => through written (same ▸ member))
  · rw [← Bool.not_eq_true]
    intro directory
    rcases wrote.added path.destination directory with old | ⟨_, member⟩
    · rw [takes.vacant] at old
      cases old
    · exact onWay member

theorem read (wrote : Wrote tree next other content) (held : tree.read path = .ok bytes)
    (elsewhere : path.destination ≠ other.destination) : next.read path = .ok bytes := by
  obtain ⟨sound, way, file⟩ := read_eq_ok.mp held
  refine read_eq_ok.mpr ⟨sound, fun place onWay => wrote.kept place (way place onWay), ?_⟩
  rw [wrote.fileAt?, if_neg elsewhere, file]

theorem alikeAt (wrote : Wrote tree next other content) (elsewhere : place ≠ other.destination)
    (firm : place ∈ other.way → tree.isDirectory place = true) : AlikeAt tree next place := by
  constructor
  · rw [Bool.eq_iff_iff]
    refine ⟨fun new => ?_, wrote.kept place⟩
    exact (wrote.added place new).elim id (fun ⟨_, onWay⟩ => firm onWay)
  · rw [wrote.fileAt?, if_neg elsewhere]

end Wrote

theorem read_write (takes : tree.Takes path) (bytes : List UInt8) :
    (tree.write path bytes).1.read path = .ok bytes := by
  have done : (tree.write path bytes).2 = .ok () := write_eq_ok.mpr takes
  obtain ⟨made, _, ⟨fault, failed⟩ | ⟨written, put, wrote⟩⟩ := tree.write_cases path bytes
  · rw [failed] at done
    cases done
  · obtain ⟨sound, way, _, rfl⟩ := putFile_eq_ok.mp put
    rw [wrote]
    refine read_eq_ok.mpr ⟨sound, way, ?_⟩
    rw [fileAt?, lookup_setFile, if_pos rfl]

end FileTree

end GameSheet
