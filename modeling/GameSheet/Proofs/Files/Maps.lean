import GameSheet.Proofs.Files.Writing

/-!
File systems as maps. Seen through the paths that a program reads, a file system in which its outputs
can be written is a map from paths to bytes: reading changes nothing, and a write replaces what is
read at its path and nowhere else. Trees are such maps as long as no output is in the way of another.
-/

namespace GameSheet

section Maps

variable {σ : Type} [FileAccess (StateM σ)]

def contentOf (files : σ) (path : Path) : Except FileFault (List UInt8) :=
  (FileAccess.read (m := StateM σ) path files).1

def afterRead (files : σ) (path : Path) : σ := (FileAccess.read (m := StateM σ) path files).2

/-- File systems that keep to a condition are maps on the observed paths, of which the outputs can be
written. -/
structure ActsAsMap (observed outputs : Path → Prop) (sound : σ → Prop) : Prop where
  reads : ∀ files path, sound files → observed path → afterRead files path = files
  writes : ∀ files path bytes, sound files → outputs path →
    ∃ after, FileAccess.write (m := StateM σ) path bytes files = (.ok (), after) ∧ sound after ∧
      ∀ other, observed other →
        contentOf after other = if other = path then .ok bytes else contentOf files other

end Maps

def FileMap : Type := Path → Except FileFault (List UInt8)

namespace FileMap

instance : FileAccess (StateM FileMap) where
  read path := fun files => (files path, files)
  write path bytes := fun files => (.ok (), fun other => if other = path then .ok bytes else files other)
  contains path := fun files => ((files path).isOk, files)

theorem actsAsMap : ActsAsMap (fun _ => True) (fun _ => True) (fun _ : FileMap => True) where
  reads _ _ _ _ := rfl
  writes _ _ _ _ _ := ⟨_, rfl, trivial, fun _ _ => rfl⟩

end FileMap

namespace FileTree

variable {outputs observed : Path → Prop} {tree : FileTree} {path : Path}

theorem contentOf_eq (tree : FileTree) (path : Path) : contentOf tree path = tree.read path := rfl

theorem afterRead_eq (tree : FileTree) (path : Path) : afterRead tree path = tree := rfl

theorem access_write (tree : FileTree) (path : Path) (bytes : List UInt8) :
    FileAccess.write (m := StateM FileTree) path bytes tree =
      ((tree.write path bytes).2, (tree.write path bytes).1) := by
  simp only [FileAccess.write]

structure Apart (observed outputs : Path → Prop) : Prop where
  ends : ∀ path other, outputs path → outputs other → path ≠ other →
    path.destination ≠ other.destination
  ways : ∀ path other, outputs path → outputs other → path.destination ∉ other.way
  others : ∀ path output, observed path → ¬outputs path → outputs output →
    ¬path.Passes output.destination

/-- The outputs can be written, and the directories that are made for them change no other reading. -/
structure Serves (observed outputs : Path → Prop) (tree : FileTree) : Prop where
  takes : ∀ path, outputs path → tree.Takes path
  reached : ∀ path, outputs path → tree.fileAt? path.destination = none ∨
    ∀ place ∈ path.way, tree.isDirectory place = true
  firm : ∀ path output, observed path → ¬outputs path → outputs output →
    ∀ place ∈ output.way, path.Passes place → tree.isDirectory place = true

theorem read_of_takes (takes : tree.Takes path)
    (reached : tree.fileAt? path.destination = none ∨
      ∀ place ∈ path.way, tree.isDirectory place = true) :
    tree.read path = match tree.fileAt? path.destination with
      | some bytes => .ok bytes
      | none => .error .notFound := by
  rcases locate_of_free takes.sound takes.free with found | missing
  · rw [read, found]
    cases held : tree.fileAt? path.destination with
    | some bytes => simp [bind, Except.bind, held, pure, Except.pure]
    | none => simp [bind, Except.bind, held, takes.vacant, throw, throwThe, MonadExceptOf.throw]
  · have absent := reached.resolve_right (fun way => by
      rw [locate_eq_ok.mpr ⟨takes.sound, way, rfl⟩] at missing
      cases missing)
    rw [read, missing, absent]
    rfl

theorem write_serves (apart : Apart observed outputs) (serves : Serves observed outputs tree)
    (output : outputs path) (bytes : List UInt8) :
    Serves observed outputs (tree.write path bytes).1 := by
  have wrote := wrote_of_write tree path bytes
  have held := read_write (serves.takes path output) bytes
  refine ⟨?_, ?_, ?_⟩
  · intro other also
    exact wrote.takes (serves.takes other also) (fun _ => apart.ways path other output also)
      (apart.ways other path also output)
  · intro other also
    by_cases same : other = path
    · rw [same]
      exact Or.inr (read_eq_ok.mp held).2.1
    · rw [wrote.fileAt?, if_neg (apart.ends other path also output same)]
      exact (serves.reached other also).imp_right
        (fun way place onWay => wrote.kept place (way place onWay))
  · intro other output looked own also place onWay passed
    exact wrote.kept place (serves.firm other output looked own also place onWay passed)

theorem read_other (apart : Apart observed outputs) (serves : Serves observed outputs tree)
    (output : outputs path) (bytes : List UInt8) {other : Path} (looked : observed other)
    (different : other ≠ path) : (tree.write path bytes).1.read other = tree.read other := by
  have wrote := wrote_of_write tree path bytes
  by_cases also : outputs other
  · have later := write_serves apart serves output bytes
    rw [read_of_takes (later.takes other also) (later.reached other also),
      read_of_takes (serves.takes other also) (serves.reached other also), wrote.fileAt?,
      if_neg (apart.ends other path also output different)]
  · refine read_congr (fun place passed => wrote.alikeAt ?_ (fun onWay => ?_))
    · rintro rfl
      exact apart.others other path looked also output passed
    · exact serves.firm other path looked also output place onWay passed

theorem actsAsMap (apart : Apart observed outputs) :
    ActsAsMap observed outputs (Serves observed outputs) := by
  refine ⟨fun tree path _ _ => tree.afterRead_eq path, ?_⟩
  intro tree path bytes serves output
  have takes := serves.takes path output
  refine ⟨(tree.write path bytes).1, ?_, write_serves apart serves output bytes, ?_⟩
  · rw [access_write, write_eq_ok.mpr takes]
  · intro other looked
    rw [contentOf_eq, contentOf_eq]
    split_ifs with same
    · rw [same, read_write takes]
    · exact read_other apart serves output bytes looked same

end FileTree

end GameSheet
