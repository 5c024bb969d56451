import GameSheet.Files.Directories
import GameSheet.Text.Utf8

/-!
File systems as values: the files with their bytes and the directories, each at a location. A path is
followed name by name, relative paths from the working directory. `..` leads back up, and every name
before the last one has to lead to a directory.
-/

namespace GameSheet

inductive Base where
  | root
  /-- As many directories above the working directory, or that directory itself. -/
  | working (levels : Nat)
  deriving DecidableEq, Repr

structure Location where
  base : Base
  names : List (List Char)
  deriving DecidableEq, Repr

namespace Location

def child (location : Location) (name : List Char) : Location :=
  { location with names := location.names ++ [name] }

/-- Nothing is above the root. -/
def above (location : Location) : Location :=
  match location.base, location.names with
  | .working levels, [] => ⟨.working (levels + 1), []⟩
  | base, names => ⟨base, names.dropLast⟩

def path? (location : Location) : Option Path :=
  if location.base = .working 0 then
    some ⟨String.ofList (Text.joinPieces '/' location.names)⟩
  else none

end Location

structure FileTree where
  files : List (Location × List UInt8)
  directories : List Location

namespace FileTree

/-- A place below the root. -/
def system (names : List String) : Location := ⟨.root, names.map String.toList⟩

/-- What every system has below its root: the usual directories, and the null device, which reads as an
empty file. The working directory is empty. -/
def bare : FileTree :=
  ⟨[(system ["dev", "null"], [])],
    ["bin", "dev", "etc", "home", "lib", "mnt", "opt", "proc", "root", "run", "sbin", "srv", "sys",
      "tmp", "usr", "var"].map (fun name => system [name])⟩

def fileAt? (tree : FileTree) (location : Location) : Option (List UInt8) :=
  tree.files.lookup location

def isDirectory (tree : FileTree) (location : Location) : Bool :=
  location.names.isEmpty || tree.directories.contains location

def holds (tree : FileTree) (location : Location) : Bool :=
  (tree.fileAt? location).isSome || tree.isDirectory location

def nameLimit : Nat := 255

def nameFits (name : List Char) : Bool := (Text.Utf8.encode name).length ≤ nameLimit

/-- Follows names from a location. Only the last one may lead to something that does not exist. -/
def follow (tree : FileTree) (here : Location) : List (List Char) → Except FileFault Location
  | [] => .ok here
  | name :: rest =>
    if !tree.isDirectory here then .error .notDirectory
    else if Path.isVoid name then tree.follow here rest
    else if name = ['.', '.'] then tree.follow here.above rest
    else if !nameFits name then .error .nameTooLong
    else if rest.isEmpty || tree.holds (here.child name) then tree.follow (here.child name) rest
    else .error .notFound

def start (path : Path) : Location := ⟨if path.isAbsolute then .root else .working 0, []⟩

def pathLimit : Nat := 4096

def accept (path : Path) : Except FileFault Unit :=
  if path.chars.contains '\x00' then .error .nameHoldsNul
  else if path.isEmpty then .error .notFound
  else if pathLimit ≤ (Text.Utf8.encode path.chars).length then .error .nameTooLong
  else .ok ()

def locate (tree : FileTree) (path : Path) : Except FileFault Location := do
  accept path
  tree.follow (start path) path.parts

def read (tree : FileTree) (path : Path) : Except FileFault (List UInt8) := do
  let location ← tree.locate path
  match tree.fileAt? location with
  | some bytes => return bytes
  | none => if tree.isDirectory location then throw .isDirectory else throw .notFound

def contains (tree : FileTree) (path : Path) : Bool :=
  match tree.locate path with
  | .ok location => tree.holds location
  | .error _ => false

def leads (path : Path) : StateM FileTree Bool := fun tree =>
  match tree.locate path with
  | .ok location => (tree.isDirectory location, tree)
  | .error _ => (false, tree)

/-- Makes a directory where nothing is, in a directory that is there. -/
def makeDirectory (path : Path) : StateM FileTree (Except FileFault Unit) := fun tree =>
  match tree.locate path with
  | .error fault => (.error fault, tree)
  | .ok location =>
    if tree.holds location then (.error .alreadyExists, tree)
    else (.ok (), ⟨tree.files, tree.directories ++ [location]⟩)

def setFile (location : Location) (bytes : List UInt8) :
    List (Location × List UInt8) → List (Location × List UInt8)
  | [] => [(location, bytes)]
  | (other, kept) :: rest =>
    if other = location then (location, bytes) :: rest
    else (other, kept) :: setFile location bytes rest

def putFile (tree : FileTree) (path : Path) (bytes : List UInt8) : Except FileFault FileTree := do
  if path.chars.contains '\x00' then throw .invalidArgument
  let location ← tree.locate path
  if tree.isDirectory location then throw .isDirectory
  return ⟨setFile location bytes tree.files, tree.directories⟩

def write (tree : FileTree) (path : Path) (bytes : List UInt8) :
    FileTree × Except WriteFault Unit :=
  let place := path.directory
  match Directories.ensureAll makeDirectory leads place tree with
  | (.error fault, made) => (made, .error (.directory place fault))
  | (.ok (), made) =>
    match made.putFile path bytes with
    | .error fault => (made, .error (.placement path fault))
    | .ok written => (written, .ok ())

instance : FileAccess (StateM FileTree) where
  read path := fun tree => (tree.read path, tree)
  write path bytes := fun tree =>
    let (next, outcome) := tree.write path bytes
    (outcome, next)
  contains path := fun tree => (tree.contains path, tree)

/-- The files below the working directory in the order of their paths. -/
def listing (tree : FileTree) : List (Path × List UInt8) :=
  let listed := tree.files.filterMap (fun (location, bytes) =>
    location.path?.map (fun path => (path, bytes)))
  listed.mergeSort (fun a b => decide (a.1.text ≤ b.1.text))

end FileTree

end GameSheet
