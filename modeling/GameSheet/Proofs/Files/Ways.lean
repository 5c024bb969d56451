import GameSheet.Files.Tree
import GameSheet.Proofs.Text.Pieces
import GameSheet.Proofs.Traversal

/-!
Where paths lead. There are no links, so a path has one destination whatever a tree holds. The tree
only says whether it is reached: it is when every place on the way is a directory.
-/

namespace GameSheet

namespace Location

def step (here : Location) (name : List Char) : Location :=
  if Path.isVoid name then here
  else if name = ['.', '.'] then here.above
  else here.child name

def wayFrom : Location → List (List Char) → List Location
  | _, [] => []
  | here, name :: rest => here :: wayFrom (here.step name) rest

theorem wayFrom_append (here : Location) (names more : List (List Char)) :
    wayFrom here (names ++ more) =
      wayFrom here names ++ wayFrom (names.foldl step here) more := by
  induction names generalizing here with
  | nil => rfl
  | cons name names ih => rw [List.cons_append, wayFrom, ih, wayFrom, List.cons_append, List.foldl_cons]

theorem step_of_void (here : Location) {name : List Char} (void : Path.isVoid name = true) :
    here.step name = here := if_pos void

theorem foldl_step_names (here : Location) (parts : List (List Char)) :
    (parts.filter (fun part => !Path.isVoid part)).foldl step here = parts.foldl step here := by
  induction parts generalizing here with
  | nil => rfl
  | cons part parts ih =>
    rw [List.filter_cons, List.foldl_cons]
    cases void : Path.isVoid part with
    | true => rw [step_of_void here void]; exact ih here
    | false => exact ih (here.step part)

/-- Parts that name nothing lead through no other place, but a last one leads through the place it
stays at. -/
theorem mem_wayFrom_names {here place : Location} {parts : List (List Char)} :
    place ∈ wayFrom here parts ∨ place = parts.foldl step here ↔
      place ∈ wayFrom here (parts.filter (fun part => !Path.isVoid part)) ∨
        place = parts.foldl step here := by
  induction parts generalizing here with
  | nil => rfl
  | cons part parts ih =>
    rw [List.foldl_cons, wayFrom, List.mem_cons, or_assoc, ih]
    cases void : Path.isVoid part with
    | true =>
      rw [List.filter_cons_of_neg (by rw [void]; decide), step_of_void here void]
      constructor
      · rintro (rfl | other)
        · cases names : parts.filter (fun part => !Path.isVoid part) with
          | nil =>
            right
            rw [← foldl_step_names, names]
            rfl
          | cons name rest => exact Or.inl List.mem_cons_self
        · exact other
      · exact Or.inr
    | false =>
      rw [List.filter_cons_of_pos (by rw [void]; decide), wayFrom, List.mem_cons, or_assoc]

end Location

namespace Path

variable {path : Path}

def destination (path : Path) : Location := path.parts.foldl Location.step (FileTree.start path)

def way (path : Path) : List Location := Location.wayFrom (FileTree.start path) path.parts

def names (path : Path) : List (List Char) := path.parts.filter (fun part => !isVoid part)

structure Sound (path : Path) : Prop where
  accepted : FileTree.accept path = .ok ()
  fits : ∀ part ∈ path.parts, FileTree.nameFits part = true

instance (path : Path) : Decidable path.Sound :=
  decidable_of_iff (FileTree.accept path = .ok () ∧ ∀ part ∈ path.parts, FileTree.nameFits part = true)
    ⟨fun both => ⟨both.1, both.2⟩, fun sound => ⟨sound.accepted, sound.fits⟩⟩

def Passes (path : Path) (place : Location) : Prop := place ∈ path.way ∨ place = path.destination

instance (path : Path) (place : Location) : Decidable (path.Passes place) :=
  inferInstanceAs (Decidable (_ ∨ _))

theorem destination_eq_names (path : Path) :
    path.destination = path.names.foldl Location.step (FileTree.start path) :=
  (Location.foldl_step_names _ _).symm

theorem passes_iff {place : Location} : path.Passes place ↔
    place ∈ Location.wayFrom (FileTree.start path) path.names ∨ place = path.destination :=
  Location.mem_wayFrom_names

end Path

namespace FileTree

variable {tree : FileTree} {path : Path} {here location : Location}

theorem nameFits_void {name : List Char} (void : Path.isVoid name = true) : nameFits name = true := by
  unfold Path.isVoid at void
  rw [Bool.or_eq_true, List.isEmpty_iff, beq_iff_eq] at void
  rcases void with rfl | rfl <;> decide

theorem follow_eq_ok {names : List (List Char)} : tree.follow here names = .ok location ↔
    (∀ name ∈ names, nameFits name = true) ∧
      (∀ place ∈ Location.wayFrom here names, tree.isDirectory place = true) ∧
      location = names.foldl Location.step here := by
  induction names generalizing here with
  | nil =>
    rw [follow, Except.ok.injEq, eq_comm]
    simp [Location.wayFrom]
  | cons name rest ih =>
    rw [follow, Location.wayFrom, List.forall_mem_cons, List.forall_mem_cons, List.foldl_cons]
    cases directory : tree.isDirectory here with
    | false => simp
    | true =>
      rw [Bool.not_true, if_neg Bool.false_ne_true]
      by_cases void : Path.isVoid name = true
      · rw [if_pos void, ih, Location.step_of_void here void]
        simp [nameFits_void void]
      · rw [if_neg void, Location.step, if_neg void]
        by_cases up : name = ['.', '.']
        · rw [if_pos up, if_pos up, ih]
          have fits : nameFits name = true := by rw [up]; decide
          simp [fits]
        · rw [if_neg up, if_neg up]
          cases fits : nameFits name with
          | false => simp
          | true =>
            rw [Bool.not_true, if_neg Bool.false_ne_true]
            split_ifs with held
            · rw [ih]
              simp
            · -- Something has to be behind the name if others follow it.
              simp only [false_iff, not_and]
              intro _ directories
              rw [Bool.or_eq_true, not_or, List.isEmpty_iff] at held
              cases rest with
              | nil => exact absurd rfl held.1
              | cons next more =>
                have entered := directories.2 (here.child name) List.mem_cons_self
                exact absurd (by rw [holds, entered, Bool.or_true]) held.2

theorem locate_eq_ok : tree.locate path = .ok location ↔
    path.Sound ∧ (∀ place ∈ path.way, tree.isDirectory place = true) ∧
      location = path.destination := by
  rw [locate, Traversal.bind_eq_ok]
  constructor
  · rintro ⟨_, accepted, followed⟩
    obtain ⟨fits, directories, same⟩ := follow_eq_ok.mp followed
    exact ⟨⟨accepted, fits⟩, directories, same⟩
  · rintro ⟨⟨accepted, fits⟩, directories, same⟩
    exact ⟨(), accepted, follow_eq_ok.mpr ⟨fits, directories, same⟩⟩

theorem read_eq_ok {bytes : List UInt8} : tree.read path = .ok bytes ↔
    path.Sound ∧ (∀ place ∈ path.way, tree.isDirectory place = true) ∧
      tree.fileAt? path.destination = some bytes := by
  rw [read, Traversal.bind_eq_ok]
  constructor
  · rintro ⟨location, located, found⟩
    obtain ⟨sound, directories, rfl⟩ := locate_eq_ok.mp located
    refine ⟨sound, directories, ?_⟩
    split at found
    next content held => rw [held, Except.ok.inj found]
    next => split_ifs at found
  · rintro ⟨sound, directories, held⟩
    refine ⟨path.destination, locate_eq_ok.mpr ⟨sound, directories, rfl⟩, ?_⟩
    rw [held]
    rfl

theorem contains_of_read {bytes : List UInt8} (held : tree.read path = .ok bytes) :
    tree.contains path = true := by
  obtain ⟨sound, directories, file⟩ := read_eq_ok.mp held
  rw [contains, locate_eq_ok.mpr ⟨sound, directories, rfl⟩]
  simp only [holds, file, Option.isSome_some, Bool.true_or]

end FileTree

end GameSheet
