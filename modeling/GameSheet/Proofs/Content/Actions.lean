import GameSheet.Content.Library
import GameSheet.Proofs.Files.Maps

/-!
Actions on files as functions of what they read. A source is read once, and its bytes decide whether it
compiles. An asset is written after that, if at all, and a table is loaded from the bytes of its asset.
-/

namespace GameSheet

section Runs

variable {σ ε α β : Type}

def runOn (files : σ) (action : ExceptT ε (StateM σ) α) : Except ε α × σ := action.run files

theorem runOn_pure (files : σ) (result : Except ε α) :
    runOn files (ExceptT.mk (pure result)) = (result, files) := rfl

theorem runOn_lift (files : σ) (action : StateM σ α) :
    runOn files (liftM action : ExceptT ε (StateM σ) α) = (.ok (action files).1, (action files).2) := by
  change StateT.bind action (fun value => pure (Except.ok value)) files = _
  simp only [StateT.bind, bind]
  rcases action files with ⟨value, after⟩
  rfl

theorem runOn_bind (files : σ) (action : ExceptT ε (StateM σ) α) (next : α → ExceptT ε (StateM σ) β) :
    runOn files (action >>= next) =
      match runOn files action with
      | (.ok value, after) => runOn after (next value)
      | (.error fault, after) => (.error fault, after) := by
  change StateT.bind action.run (ExceptT.bindCont next) files = _
  unfold runOn
  simp only [StateT.bind, bind]
  rcases action.run files with ⟨result, after⟩
  cases result <;> rfl

theorem runOn_bind_ok {files after : σ} {action : ExceptT ε (StateM σ) α}
    {next : α → ExceptT ε (StateM σ) β} {value : α} (done : runOn files action = (.ok value, after)) :
    runOn files (action >>= next) = runOn after (next value) := by
  rw [runOn_bind, done]

theorem runOn_bind_error {files after : σ} {action : ExceptT ε (StateM σ) α}
    {next : α → ExceptT ε (StateM σ) β} {fault : ε}
    (failed : runOn files action = (.error fault, after)) :
    runOn files (action >>= next) = (.error fault, after) := by
  rw [runOn_bind, failed]

end Runs

variable {σ : Type} [FileAccess (StateM σ)]

theorem runOn_readBytes (files : σ) (path : Path) : runOn files (readBytes path) =
    ((contentOf files path).mapError (.unreadable path), afterRead files path) := by
  rw [readBytes, runOn_bind_ok (runOn_lift files (FileAccess.read path)), contentOf, afterRead]
  rcases FileAccess.read (m := StateM σ) path files with ⟨result, after⟩
  cases result <;> rfl

def textFrom (path : Path) (content : Except FileFault (List UInt8)) : Except ContentError String := do
  let bytes ← content.mapError (.unreadable path)
  decodeText path bytes

theorem runOn_readText (files : σ) (path : Path) : runOn files (readText path) =
    (textFrom path (contentOf files path), afterRead files path) := by
  rw [readText, runOn_bind, runOn_readBytes]
  cases contentOf files path <;> rfl

namespace TableSettings

variable (settings : TableSettings) (registry : TypeRegistry)

def compiledFrom (content : Except FileFault (List UInt8)) : Except ContentError CompiledTable := do
  let text ← textFrom settings.source content
  settings.compileText registry text

theorem runOn_compileInMemory (files : σ) : runOn files (settings.compileInMemory registry) =
    (settings.compiledFrom registry (contentOf files settings.source),
      afterRead files settings.source) := by
  rw [compileInMemory, runOn_bind, runOn_readText, compiledFrom]
  cases textFrom settings.source (contentOf files settings.source) <;> rfl

theorem runOn_write (files : σ) (blob : List UInt8) : runOn files (settings.write blob) =
    ((FileAccess.write (m := StateM σ) settings.output blob files).1.mapError
        (.unwritten settings.name),
      (FileAccess.write (m := StateM σ) settings.output blob files).2) := by
  rw [write, runOn_bind_ok (runOn_lift files (FileAccess.write settings.output blob))]
  rcases FileAccess.write (m := StateM σ) settings.output blob files with ⟨result, after⟩
  cases result <;> rfl

variable {settings registry}

theorem runOn_compile_error {files : σ} {cause : ContentError}
    (refused : settings.compiledFrom registry (contentOf files settings.source) = .error cause) :
    runOn files (settings.compile registry) = (.error cause, afterRead files settings.source) := by
  apply runOn_bind_error
  rw [runOn_compileInMemory, refused]

theorem runOn_compile_ok {files : σ} {compiled : CompiledTable}
    (done : settings.compiledFrom registry (contentOf files settings.source) = .ok compiled) :
    runOn files (settings.compile registry) =
      ((runOn (afterRead files settings.source) (settings.write compiled.encoded.blob)).1.map
          (fun _ => settings.report compiled),
        (runOn (afterRead files settings.source) (settings.write compiled.encoded.blob)).2) := by
  have first : runOn files (settings.compileInMemory registry) =
      (.ok compiled, afterRead files settings.source) := by
    rw [runOn_compileInMemory, done]
  rw [compile, runOn_bind_ok first, runOn_bind]
  rcases runOn (afterRead files settings.source) (settings.write compiled.encoded.blob) with
    ⟨result, after⟩
  cases result <;> rfl

end TableSettings

namespace AssetLibrary

variable (library : AssetLibrary) (kind : TableKind)

theorem runOn_loadTable (files : σ) (request : Request) {layout : RowLayout}
    (laid : library.layout kind = .ok layout) :
    (runOn files (library.loadTable kind request)).1 = (do
      let blob ← (contentOf files (library.assetPath request.name)).mapError
        (.unreadable (library.assetPath request.name))
      let records ← library.records request.name layout request.format blob
      index request.name kind request.policy records) := by
  have first : runOn files (ExceptT.mk (pure (library.layout kind))) = (.ok layout, files) := by
    rw [runOn_pure, laid]
  rw [loadTable, runOn_bind_ok first, runOn_bind, runOn_readBytes]
  cases contentOf files (library.assetPath request.name) <;> rfl

theorem runOn_loadText (files : σ) (settings : TableSettings) :
    (runOn files (library.loadText settings kind)).1 = (do
      let text ← textFrom settings.source (contentOf files settings.source)
      library.tableOfText settings kind text) := by
  rw [loadText, runOn_bind, runOn_readText]
  cases textFrom settings.source (contentOf files settings.source) <;> rfl

end AssetLibrary

end GameSheet
