import GameSheet.Command.Program
import GameSheet.Files.Directories

/-!
The program `datatable` on the files and the environment of the system. Its debug form is JSON.
-/

namespace GameSheet.Host

/-- The number that the system gives an error. -/
def numberOf? : IO.Error → Option UInt32
  | .noFileOrDirectory _ number _ => some number
  | .alreadyExists _ number _ => some number
  | .inappropriateType _ number _ => some number
  | .invalidArgument _ number _ => some number
  | _ => none

/-- Some actions give the number with a minus sign. -/
def unsigned (number : UInt32) : Nat := min number.toNat (-number).toNat

def faultOf (error : IO.Error) : FileFault :=
  ((numberOf? error).bind (fun number => FileFault.ofNumber? (unsigned number))).getD
    (.other error.toString)

def attempt {α : Type} (action : IO α) : IO (Except FileFault α) := do
  match ← action.toBaseIO with
  | .ok value => return .ok value
  | .error error => return .error (faultOf error)

def read (path : Path) : IO (Except FileFault (List UInt8)) :=
  attempt (do return (← IO.FS.readBinFile path.text).toList)

/-- Writes the bytes beside the path and then moves them into place. -/
def replace (path : Path) (bytes : List UInt8) : IO Unit := do
  let draft := path.text ++ ".part"
  IO.FS.writeBinFile draft ⟨bytes.toArray⟩
  try IO.FS.rename draft path.text
  catch error =>
    IO.FS.removeFile draft
    throw error

def makeDirectory (path : Path) : IO (Except FileFault Unit) :=
  attempt (IO.FS.createDir path.text)

def leads (path : Path) : IO Bool := do
  match ← attempt (IO.FS.realPath path.text) with
  | .ok place => place.isDir
  | .error _ => return false

def write (path : Path) (bytes : List UInt8) : IO (Except WriteFault Unit) := do
  let place := path.directory
  match ← Directories.ensureAll makeDirectory leads place with
  | .error fault => return .error (.directory place fault)
  | .ok () =>
    match ← attempt (replace path bytes) with
    | .error fault => return .error (.placement path fault)
    | .ok () => return .ok ()

def contains (path : Path) : IO Bool := do
  return (← attempt (IO.FS.realPath path.text)).isOk

instance : FileAccess IO where
  read := read
  write := write
  contains := contains

/-- The environment of this process, or of its own variables alone where the system does not show
the rest. -/
def environment : IO Environment := do
  match ← read ⟨"/proc/self/environ"⟩ with
  | .ok block => return .ofBlock block
  | .error _ =>
    let values ← Environment.ownNames.filterMapM (fun name => do
      return (← IO.getEnv name).map (fun value => (name, value)))
    return ⟨values⟩

/-- The working directory and everything above it. -/
def directories : IO (List Path) := do
  let here ← IO.currentDir
  return (Path.mk here.toString).lineage

end GameSheet.Host

def main (arguments : List String) : IO UInt32 := do
  let directories ← GameSheet.Host.directories
  let environment ← GameSheet.Host.environment
  let outcome ← GameSheet.runProgram .json directories environment arguments
  (← IO.getStdout).putStr outcome.output
  (← IO.getStderr).putStr outcome.errors
  return outcome.exit.toUInt32
