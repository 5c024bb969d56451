import GameSheet.Files.Fault

/-!
Making a directory together with those above it. The nearest one is tried first; only when it lacks
something above is that made, and then the nearest one is tried again. So a fault is that of the first
path that fails for another reason, and what was made before it stays.
-/

namespace GameSheet.Directories

variable {m : Type → Type} [Monad m]
variable (make : Path → m (Except FileFault Unit)) (leads : Path → m Bool)

def ensure (path : Path) : m (Except FileFault Unit) := do
  match ← make path with
  | .error .alreadyExists => return if ← leads path then .ok () else .error .alreadyExists
  | outcome => return outcome

/-- Makes the first of some paths; each of them is the directory that the one before is in. -/
def ensureLineage : List Path → m (Except FileFault Unit)
  | [] => return .ok ()
  | path :: above => do
    match ← ensure make leads path with
    | .error .notFound =>
      match ← ensureLineage above with
      | .ok () => ensure make leads path
      | failed => return failed
    | outcome => return outcome

/-- Makes a directory and those above it. The root and the empty path are never made. -/
def ensureAll (path : Path) : m (Except FileFault Unit) :=
  ensureLineage make leads (path.lineage.takeWhile (fun path => path.parent?.isSome))

end GameSheet.Directories
