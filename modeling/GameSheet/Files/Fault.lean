import GameSheet.Files.Path

/-!
What can go wrong with a file, and the texts that the system gives it.
-/

namespace GameSheet

inductive FileFault where
  | notFound
  | alreadyExists
  | notDirectory
  | isDirectory
  | nameTooLong
  | nameHoldsNul
  | invalidArgument
  | notText
  | other (message : String)
  deriving DecidableEq, Repr

def FileFault.message : FileFault → String
  | notFound => "No such file or directory (os error 2)"
  | alreadyExists => "File exists (os error 17)"
  | notDirectory => "Not a directory (os error 20)"
  | isDirectory => "Is a directory (os error 21)"
  | nameTooLong => "File name too long (os error 36)"
  | nameHoldsNul => "file name contained an unexpected NUL byte"
  | invalidArgument => "Invalid argument (os error 22)"
  | notText => "stream did not contain valid UTF-8"
  | other message => message

/-- The fault that the system gives a number. -/
def FileFault.ofNumber? (number : Nat) : Option FileFault :=
  [(2, notFound), (17, alreadyExists), (20, notDirectory), (21, isDirectory),
    (22, invalidArgument), (36, nameTooLong)].lookup number

/-- A file is written under another name and then put in place, so a write can fail before that, when
its directory is made, or at the very end. In both cases the file is as it was. -/
inductive WriteFault where
  | directory (place : Path) (fault : FileFault)
  | placement (target : Path) (fault : FileFault)
  deriving DecidableEq, Repr

/-- The texts of a fault, outermost first. -/
def WriteFault.texts : WriteFault → List String
  | directory place fault => [s!"Failed to create directory {place.text}", fault.message]
  | placement target fault => [s!"Failed to persist {target.text}: {fault.message}"]

/-- What the program asks of a file system. Reading gives a whole file; writing makes the missing
directories above a file and replaces it as a whole. -/
class FileAccess (m : Type → Type) where
  read : Path → m (Except FileFault (List UInt8))
  write : Path → List UInt8 → m (Except WriteFault Unit)
  contains : Path → m Bool

end GameSheet
