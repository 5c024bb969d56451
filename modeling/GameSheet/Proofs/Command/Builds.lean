import GameSheet.Command.Program
import GameSheet.Proofs.Content.Batch
import GameSheet.Proofs.Content.Manifests

/-!
Builds of whole manifests. The layouts of all entries are settled first, and one that is refused ends
the build before anything is read or written. From there on each table stands alone: one whose source
compiles is written and reported whatever becomes of the others, in whatever order the tables take
their turns.
-/

namespace GameSheet

/-! One table on its own -/

/-- A write touches nothing but the file at the path, and that only where it can be written. -/
theorem FileTree.exists_wrote (tree : FileTree) (path : Path) (bytes : List UInt8) :
    ∃ content, Wrote tree (tree.write path bytes).1 path content ∧
      (content ≠ none → tree.Takes path) := by
  refine ⟨_, wrote_of_write tree path bytes, fun written => ?_⟩
  cases outcome : (tree.write path bytes).2 with
  | ok => exact write_eq_ok.mp outcome
  | error fault =>
    rw [outcome] at written
    exact absurd rfl written

section Alone

variable {registry : TypeRegistry} {tree : FileTree} {settings : TableSettings}
  {compiled : CompiledTable}

theorem wrote_of_compile (registry : TypeRegistry) (tree : FileTree) (settings : TableSettings) :
    ∃ content,
      FileTree.Wrote tree (runOn tree (settings.compile registry)).2 settings.output content := by
  cases result : settings.compiledFrom registry (contentOf tree settings.source) with
  | error cause =>
    rw [TableSettings.runOn_compile_error result]
    exact ⟨none, FileTree.Wrote.refl tree settings.output⟩
  | ok table =>
    simp only [TableSettings.runOn_compile_ok result, FileTree.afterRead_eq,
      TableSettings.runOn_write, FileTree.access_write]
    exact ⟨_, FileTree.wrote_of_write tree settings.output table.encoded.blob⟩

structure Ready (registry : TypeRegistry) (tree : FileTree) (settings : TableSettings)
    (compiled : CompiledTable) : Prop where
  result : resultIn registry tree settings = .ok compiled
  takes : tree.Takes settings.output

theorem exists_read (result : resultIn registry tree settings = .ok compiled) :
    ∃ bytes, tree.read settings.source = .ok bytes := by
  obtain ⟨text, found, _⟩ := Traversal.bind_eq_ok.mp result
  obtain ⟨bytes, read, _⟩ := Traversal.bind_eq_ok.mp found
  exact ⟨bytes, Traversal.mapError_eq_ok.mp read⟩

theorem runOn_write_of_takes (takes : tree.Takes settings.output) (blob : List UInt8) :
    runOn tree (settings.write blob) = (.ok (), (tree.write settings.output blob).1) := by
  simp only [TableSettings.runOn_write, FileTree.access_write, FileTree.write_eq_ok.mpr takes,
    Except.mapError]

theorem Ready.compile (ready : Ready registry tree settings compiled) :
    runOn tree (settings.compile registry) = (.ok (settings.report compiled),
      (tree.write settings.output compiled.encoded.blob).1) := by
  simp only [TableSettings.runOn_compile_ok ready.result, FileTree.afterRead_eq,
    runOn_write_of_takes ready.takes, Except.map]

theorem Ready.read_after_compile (ready : Ready registry tree settings compiled) :
    (runOn tree (settings.compile registry)).2.read settings.output = .ok compiled.encoded.blob := by
  have left : (runOn tree (settings.compile registry)).2 =
      (tree.write settings.output compiled.encoded.blob).1 := by
    rw [ready.compile]
  rw [left]
  exact FileTree.read_write ready.takes compiled.encoded.blob

theorem ready_of_compile {report : TableReport}
    (done : (runOn tree (settings.compile registry)).1 = .ok report) :
    ∃ compiled, Ready registry tree settings compiled ∧ report = settings.report compiled := by
  cases result : settings.compiledFrom registry (contentOf tree settings.source) with
  | error cause =>
    rw [TableSettings.runOn_compile_error result] at done
    cases done
  | ok compiled =>
    have takes (written : (tree.write settings.output compiled.encoded.blob).2 = .ok ()) :=
      FileTree.write_eq_ok.mp written
    rw [TableSettings.runOn_compile_ok result, FileTree.afterRead_eq, TableSettings.runOn_write,
      FileTree.access_write] at done
    generalize tree.write settings.output compiled.encoded.blob = pair at done takes
    obtain ⟨after, outcome⟩ := pair
    cases outcome with
    | error fault => cases done
    | ok => exact ⟨compiled, ⟨result, takes rfl⟩, (Except.ok.inj done).symm⟩

end Alone

/-! One table among others -/

structure Clear (settings other : TableSettings) : Prop where
  asset : settings.output.destination ≠ other.output.destination
  through : other.output.destination ∉ other.output.way →
    other.output.destination ∉ settings.output.way
  onWay : settings.output.destination ∉ other.output.way

structure Aside (settings other : TableSettings) : Prop where
  clear : Clear settings other
  source : settings.source.destination ≠ other.output.destination

namespace Job

variable {registry : TypeRegistry} {tree : FileTree} {job other : Job} {compiled : CompiledTable}

/-- The table is on its way to its asset, with everything that it still needs. -/
def OnWay (registry : TypeRegistry) (compiled : CompiledTable) (tree : FileTree) (job : Job) : Prop :=
  match job.stage with
  | .waiting => Ready registry tree job.settings compiled
  | .compiled table => table = compiled ∧ tree.Takes job.settings.output
  | .finished outcome => outcome = .ok (job.settings.report compiled) ∧
      tree.read job.settings.output = .ok compiled.encoded.blob

theorem OnWay.advance (onWay : job.OnWay registry compiled tree) :
    (job.advance registry tree).1.OnWay registry compiled (job.advance registry tree).2 := by
  unfold OnWay at onWay
  cases stage : job.stage with
  | waiting =>
    rw [stage] at onWay
    have read : runOn tree (job.settings.compileInMemory registry) = (.ok compiled, tree) := by
      rw [TableSettings.runOn_compileInMemory, FileTree.afterRead_eq, ← onWay.result, resultIn]
    simp only [Job.advance, stage, read]
    exact ⟨rfl, onWay.takes⟩
  | compiled table =>
    rw [stage] at onWay
    obtain ⟨rfl, takes⟩ := onWay
    simp only [Job.advance, stage, runOn_write_of_takes takes]
    exact ⟨rfl, FileTree.read_write takes table.encoded.blob⟩
  | finished outcome =>
    rw [stage] at onWay
    simp only [Job.advance, stage]
    rw [OnWay, stage]
    exact onWay

theorem exists_wrote (registry : TypeRegistry) (tree : FileTree) (job : Job) :
    ∃ content, FileTree.Wrote tree (job.advance registry tree).2 job.settings.output content ∧
      (content ≠ none → tree.Takes job.settings.output) := by
  cases stage : job.stage with
  | waiting =>
    have read := job.settings.runOn_compileInMemory registry tree
    rw [FileTree.afterRead_eq] at read
    refine ⟨none, ?_, fun written => absurd rfl written⟩
    cases result : job.settings.compiledFrom registry (contentOf tree job.settings.source) with
    | error cause =>
      rw [result] at read
      simp only [Job.advance, stage, read]
      exact FileTree.Wrote.refl tree job.settings.output
    | ok table =>
      rw [result] at read
      simp only [Job.advance, stage, read]
      exact FileTree.Wrote.refl tree job.settings.output
  | compiled table =>
    simp only [Job.advance, stage, TableSettings.runOn_write, FileTree.access_write]
    exact tree.exists_wrote job.settings.output table.encoded.blob
  | finished outcome =>
    simp only [Job.advance, stage]
    exact ⟨none, FileTree.Wrote.refl tree job.settings.output, fun written => absurd rfl written⟩

/-- A turn of a table that is aside takes nothing away. -/
theorem OnWay.aside (onWay : job.OnWay registry compiled tree)
    (aside : Aside job.settings other.settings) :
    job.OnWay registry compiled (other.advance registry tree).2 := by
  obtain ⟨content, wrote, written⟩ := other.exists_wrote registry tree
  have taken (takes : tree.Takes job.settings.output) :
      (other.advance registry tree).2.Takes job.settings.output :=
    wrote.takes takes (fun done => aside.clear.through (written done).apart) aside.clear.onWay
  unfold OnWay at onWay ⊢
  cases stage : job.stage with
  | waiting =>
    rw [stage] at onWay
    obtain ⟨bytes, read⟩ := exists_read onWay.result
    refine ⟨?_, taken onWay.takes⟩
    rw [← onWay.result, resultIn, resultIn, FileTree.contentOf_eq, FileTree.contentOf_eq, read,
      wrote.read read aside.source]
  | compiled table =>
    rw [stage] at onWay
    exact ⟨onWay.1, taken onWay.2⟩
  | finished outcome =>
    rw [stage] at onWay
    exact ⟨onWay.1, wrote.read onWay.2 aside.clear.asset⟩

end Job

namespace Batch

variable {registry : TypeRegistry} {tree : FileTree} {batch : Batch FileTree} {job : Job}
  {settings : TableSettings} {tables : List TableSettings} {compiled : CompiledTable}
  {position : Nat} {turns : List Nat}

def Alone (tables : List TableSettings) (position : Nat) (settings : TableSettings) : Prop :=
  ∀ place other, place ≠ position → tables[place]? = some other → Aside settings other

theorem onWay_step (found : batch.jobs[position]? = some job)
    (onWay : job.OnWay registry compiled batch.files)
    (alone : Alone (batch.jobs.map Job.settings) position job.settings) (turn : Nat) :
    ∃ next, (batch.step registry turn).jobs[position]? = some next ∧
      next.settings = job.settings ∧
        next.OnWay registry compiled (batch.step registry turn).files := by
  by_cases own : turn = position
  · subst own
    rw [step, found]
    refine ⟨(job.advance registry batch.files).1, ?_, advance_settings registry job batch.files,
      onWay.advance⟩
    rw [List.getElem?_set_self (List.getElem?_eq_some_iff.mp found).1]
  · cases here : batch.jobs[turn]? with
    | none =>
      rw [step, here]
      exact ⟨job, found, rfl, onWay⟩
    | some other =>
      have aside := alone turn other.settings own (by rw [List.getElem?_map, here]; rfl)
      rw [step, here]
      refine ⟨job, ?_, rfl, onWay.aside aside⟩
      rw [List.getElem?_set_ne own, found]

/-- Whatever turns the tables take, the table comes closer to its asset and keeps it. -/
theorem onWay_run (found : batch.jobs[position]? = some job)
    (onWay : job.OnWay registry compiled batch.files)
    (alone : Alone (batch.jobs.map Job.settings) position job.settings) (turns : List Nat) :
    ∃ later, (batch.run registry turns).jobs[position]? = some later ∧
      later.settings = job.settings ∧
        later.OnWay registry compiled (batch.run registry turns).files := by
  induction turns generalizing batch job with
  | nil => exact ⟨job, found, rfl, onWay⟩
  | cons turn turns ih =>
    obtain ⟨next, there, same, still⟩ := onWay_step found onWay alone turn
    rw [← settings_step registry batch turn, ← same] at alone
    obtain ⟨later, last, settings, reached⟩ := ih there still alone
    exact ⟨later, last, settings.trans same, reached⟩

def entries (batch : Batch FileTree) : List (TableName × Except ContentError TableReport) :=
  batch.jobs.filterMap Job.entry?

theorem entries_eq {found : List (TableName × Except ContentError TableReport)}
    (same : batch.jobs.map Job.entry? = found.map some) : batch.entries = found := by
  have whole : batch.entries = (batch.jobs.map Job.entry?).filterMap id := by
    rw [entries, List.filterMap_map, Function.id_comp]
  rw [whole, same, List.filterMap_map, Function.id_comp, List.filterMap_some]

/-- A table that is ready is written and reported among tables that are aside. -/
theorem written_of_ready (fair : Fair tables turns) (ready : Ready registry tree settings compiled)
    (distinct : tables.Nodup) (member : settings ∈ tables)
    (aside : ∀ other ∈ tables, other ≠ settings → Aside settings other) :
    (settings.name, .ok (settings.report compiled)) ∈
        ((start tables tree).run registry turns).entries ∧
      ((start tables tree).run registry turns).files.read settings.output =
        .ok compiled.encoded.blob := by
  obtain ⟨position, inside, rfl⟩ := List.mem_iff_getElem.mp member
  have found : (start tables tree).jobs[position]? = some ⟨tables[position], .waiting⟩ := by
    rw [start, List.getElem?_map, List.getElem?_eq_getElem inside]
    rfl
  have alone : Alone ((start tables tree).jobs.map Job.settings) position tables[position] := by
    rw [settings_start]
    intro place other elsewhere there
    obtain ⟨within, rfl⟩ := List.getElem?_eq_some_iff.mp there
    exact aside _ (List.getElem_mem within)
      (fun same => elsewhere ((distinct.getElem_inj_iff).mp same))
  obtain ⟨later, there, same, onWay⟩ := onWay_run found ready alone turns
  have last := List.mem_of_getElem? there
  obtain ⟨outcome, stage⟩ := done_of_fair registry fair tree later last
  rw [Job.OnWay, stage, same] at onWay
  obtain ⟨rfl, held⟩ := onWay
  refine ⟨List.mem_filterMap.mpr ⟨later, last, ?_⟩, held⟩
  rw [Job.entry?, stage, same]

end Batch

/-! The names of what is reported -/

namespace Batch

variable {registry : TypeRegistry} {batch : Batch FileTree} {tables : List TableSettings}

def Named (batch : Batch FileTree) : Prop :=
  ∀ job ∈ batch.jobs, ∀ report, job.stage = .finished (.ok report) → report.name = job.settings.name

theorem named_advance {job : Job}
    (named : ∀ report, job.stage = .finished (.ok report) → report.name = job.settings.name)
    (registry : TypeRegistry) (tree : FileTree) (report : TableReport)
    (stage : (job.advance registry tree).1.stage = .finished (.ok report)) :
    report.name = job.settings.name := by
  cases before : job.stage with
  | waiting =>
    simp only [Job.advance, before] at stage
    split at stage
    · cases stage
    · cases stage
  | compiled table =>
    simp only [Job.advance, before, Stage.finished.injEq] at stage
    obtain ⟨_, _, rfl⟩ := Traversal.map_eq_ok.mp stage
    rfl
  | finished outcome =>
    simp only [Job.advance, before] at stage
    exact named report (before.trans stage)

theorem Named.step (named : batch.Named) (turn : Nat) : (batch.step registry turn).Named := by
  cases found : batch.jobs[turn]? with
  | none => rwa [Batch.step, found]
  | some job =>
    rw [Batch.step, found]
    intro other member report stage
    rcases List.mem_or_eq_of_mem_set member with old | rfl
    · exact named other old report stage
    · rw [advance_settings]
      exact named_advance (named job (List.mem_of_getElem? found)) registry batch.files report stage

theorem Named.run (named : batch.Named) (turns : List Nat) : (batch.run registry turns).Named := by
  induction turns generalizing batch with
  | nil => exact named
  | cons turn turns ih => exact ih (named.step turn)

theorem named_start (tables : List TableSettings) (tree : FileTree) : (start tables tree).Named := by
  intro job member report stage
  obtain ⟨settings, _, rfl⟩ := List.mem_map.mp member
  cases stage

theorem Named.entries (named : batch.Named) {name : TableName} {report : TableReport}
    (member : (name, .ok report) ∈ batch.entries) : report.name = name := by
  obtain ⟨job, inside, entry⟩ := List.mem_filterMap.mp member
  unfold Job.entry? at entry
  cases stage : job.stage with
  | finished outcome =>
    rw [stage] at entry
    obtain ⟨rfl, rfl⟩ := Prod.mk.inj (Option.some.inj entry)
    exact named job inside report stage
  | waiting =>
    rw [stage] at entry
    cases entry
  | compiled table =>
    rw [stage] at entry
    cases entry

theorem names_of_done (same : batch.jobs.map Job.settings = tables)
    (done : ∀ job ∈ batch.jobs, job.Done) :
    batch.entries.map Prod.fst = tables.map TableSettings.name := by
  rw [entries, List.map_filterMap, ← same, List.map_map, ← List.filterMap_eq_map]
  apply List.filterMap_congr
  intro job member
  obtain ⟨outcome, stage⟩ := done job member
  rw [Job.entry?, stage]
  rfl

end Batch

/-! Results -/

namespace BuildResult

variable {entries : List (TableName × Except ContentError TableReport)} {name : TableName}

theorem mem_reports {report : TableReport} :
    report ∈ (ofEntries entries).reports ↔ ∃ name, (name, .ok report) ∈ entries := by
  rw [ofEntries, List.mem_filterMap]
  constructor
  · rintro ⟨⟨name, outcome⟩, member, same⟩
    exact ⟨name, Traversal.toOption_eq_some.mp same ▸ member⟩
  · rintro ⟨name, member⟩
    exact ⟨_, member, rfl⟩

theorem mem_failures {cause : ContentError} :
    (name, cause) ∈ (ofEntries entries).failures ↔ (name, .error cause) ∈ entries := by
  rw [ofEntries, List.mem_filterMap]
  constructor
  · rintro ⟨⟨other, outcome⟩, member, same⟩
    cases outcome with
    | ok report => cases same
    | error fault =>
      obtain ⟨rfl, rfl⟩ := Prod.mk.inj (Option.some.inj same)
      exact member
  · exact fun member => ⟨_, member, rfl⟩

theorem ofEntries_ok_cons (name : TableName) (report : TableReport) :
    ofEntries ((name, .ok report) :: entries) =
      ⟨report :: (ofEntries entries).reports, (ofEntries entries).failures⟩ := rfl

theorem ofEntries_error_cons (name : TableName) (cause : ContentError) :
    ofEntries ((name, .error cause) :: entries) =
      ⟨(ofEntries entries).reports, (name, cause) :: (ofEntries entries).failures⟩ := rfl

theorem total_ofEntries (entries : List (TableName × Except ContentError TableReport)) :
    (ofEntries entries).total = entries.length := by
  induction entries with
  | nil => rfl
  | cons entry entries ih =>
    obtain ⟨name, outcome⟩ := entry
    rw [total] at ih ⊢
    cases outcome with
    | ok report =>
      simp only [ofEntries_ok_cons, List.length_cons]
      omega
    | error cause =>
      simp only [ofEntries_error_cons, List.length_cons]
      omega

theorem error?_eq_none {result : BuildResult} : result.error? = none ↔ result.failures = [] := by
  rw [error?, ← List.isEmpty_iff]
  split_ifs with empty
  · simp [empty]
  · simp [empty]

theorem exit_ofBuild {debug : DebugTexts} {form : OutputForm} {result : BuildResult} :
    (Outcome.ofBuild debug form result).exit ≠ 0 ↔ result.failures ≠ [] := by
  rw [Ne, Ne, ← error?_eq_none, Outcome.ofBuild]
  cases result.error? with
  | none => simp [Outcome.ofResult]
  | some error => simp [Outcome.ofResult]

/-- With one entry for each name, what fails is what is not reported. -/
theorem failures_ne_nil_iff (distinct : (entries.map Prod.fst).Nodup)
    (named : ∀ name report, (name, .ok report) ∈ entries → report.name = name) :
    (ofEntries entries).failures ≠ [] ↔
      ∃ name ∈ entries.map Prod.fst, ∀ report ∈ (ofEntries entries).reports, report.name ≠ name := by
  constructor
  · intro failed
    obtain ⟨⟨name, cause⟩, member⟩ := List.exists_mem_of_ne_nil _ failed
    have listed := mem_failures.mp member
    refine ⟨name, List.mem_map_of_mem (f := Prod.fst) listed, fun report reported same => ?_⟩
    obtain ⟨other, found⟩ := mem_reports.mp reported
    have clash := List.inj_on_of_nodup_map distinct found listed
      ((named other report found).symm.trans same)
    cases clash
  · intro ⟨name, listed, unreported⟩ none
    obtain ⟨⟨_, outcome⟩, entry, rfl⟩ := List.mem_map.mp listed
    cases outcome with
    | ok report => exact unreported report (mem_reports.mpr ⟨_, entry⟩) (named _ report entry)
    | error cause =>
      have failed := mem_failures.mpr entry
      rw [none] at failed
      cases failed

end BuildResult

namespace Manifest

variable {text : String} {manifest : Manifest} {tables : List TableSettings} {tree : FileTree}

theorem build_of_error {cause : ContentError} (refused : manifest.allSettings = .error cause)
    (tree : FileTree) : runOn tree (manifest.build []) = (.error (.content cause), tree) := by
  apply runOn_bind_error
  rw [runOn_pure, select, refused]
  rfl

theorem build_of_refused {entry : TableEntry} {cause : ContentError} (member : entry ∈ manifest.tables)
    (refused : manifest.resolve entry = .error cause) (tree : FileTree) :
    ∃ first, runOn tree (manifest.build []) = (.error (.content first), tree) := by
  cases settled : manifest.allSettings with
  | error first => exact ⟨first, build_of_error settled tree⟩
  | ok tables =>
    obtain ⟨settings, resolved⟩ := Traversal.exists_mapM.mp ⟨tables, settled⟩ entry member
    rw [refused] at resolved
    cases resolved

theorem build_of_select {texts : List String} (selected : manifest.select texts = .ok tables)
    (tree : FileTree) : runOn tree (manifest.build texts) =
      (.ok (.ofEntries (compileAll (m := StateM FileTree) .standard tables tree).1),
        (compileAll (m := StateM FileTree) .standard tables tree).2) := by
  have first : runOn tree (ExceptT.mk (pure (manifest.select texts))) = (.ok tables, tree) := by
    rw [runOn_pure, selected]
  rw [build, runOn_bind_ok first]
  exact runOn_bind_ok (runOn_lift tree (compileAll .standard tables))

theorem build_of_ok (resolved : manifest.allSettings = .ok tables) (tree : FileTree) :
    runOn tree (manifest.build []) =
      (.ok (.ofEntries (compileAll (m := StateM FileTree) .standard tables tree).1),
        (compileAll (m := StateM FileTree) .standard tables tree).2) := by
  apply build_of_select
  rw [select, resolved]
  rfl

theorem names_of_allSettings (resolved : manifest.allSettings = .ok tables) :
    tables.map TableSettings.name = manifest.tables.map TableEntry.name := by
  refine (Traversal.map_eq_map_iff.mpr ?_).symm
  apply Traversal.forall₂_imp_of_mem (Traversal.mapM_eq_ok.mp resolved)
  intro entry _ settings done
  exact (resolve_eq_ok done).1.symm

/-- If no name holds a slash, tables whose assets are written are clear of each other. -/
theorem clear_of_plain (named : manifest.Named)
    (plain : ∀ entry ∈ manifest.tables, '/' ∉ entry.name.text.toList)
    (distinct : (manifest.tables.map TableEntry.name).Nodup)
    (resolved : manifest.allSettings = .ok tables) {settings other : TableSettings}
    (member : settings ∈ tables) (inside : other ∈ tables) (different : other ≠ settings)
    (apart : settings.output.destination ∉ settings.output.way) : Clear settings other := by
  obtain ⟨way, same⟩ := exists_way plain resolved
  have places := destinations_of_distinct named distinct
    (fun entry member => TableName.descends_assetFile (plain entry member)) resolved
  refine ⟨fun clash => ?_, ?_, ?_⟩
  · exact different (List.inj_on_of_nodup_map places member inside clash).symm
  · rw [same other inside, same settings member]
    exact id
  · rwa [same other inside, ← same settings member]

/-- What a build of tables owes each of them, by its result and the files that it leaves: a table is
written and reported if its source compiles and its asset can be written, unless the other assets get
in the way. -/
structure Isolates (manifest : Manifest) (tree : FileTree) (tables : List TableSettings)
    (result : BuildResult) (after : FileTree) : Prop where
  total : result.total = tables.length
  exit : ∀ debug form, (Outcome.ofBuild debug form result).exit ≠ 0 ↔
    ∃ settings ∈ tables, ∀ report ∈ result.reports, report.name ≠ settings.name
  written : ∀ settings ∈ tables, ∀ compiled, resultIn .standard tree settings = .ok compiled →
    (∀ blob, (tree.write settings.output blob).2 = .ok ()) →
    (∀ other ∈ tables, other ≠ settings → settings.source.destination ≠ other.output.destination) →
    ((∀ entry ∈ manifest.tables, '/' ∉ entry.name.text.toList) ∨
      ∀ other ∈ tables, other ≠ settings → Clear settings other) →
    settings.report compiled ∈ result.reports ∧
      contentOf after settings.output = .ok compiled.encoded.blob

theorem isolates_of_fair (named : manifest.Named)
    (distinct : (manifest.tables.map TableEntry.name).Nodup)
    (resolved : manifest.allSettings = .ok tables) (tree : FileTree) {turns : List Nat}
    (fair : Batch.Fair tables turns) :
    Isolates manifest tree tables
      (.ofEntries ((Batch.start tables tree).run .standard turns).entries)
      ((Batch.start tables tree).run .standard turns).files := by
  have once : (tables.map TableSettings.name).Nodup := by
    rw [names_of_allSettings resolved]
    exact distinct
  have same := (Batch.settings_run .standard _ turns).trans (Batch.settings_start tables tree)
  have names := Batch.names_of_done same (Batch.done_of_fair .standard fair tree)
  have own : ((Batch.start tables tree).run .standard turns).Named :=
    (Batch.named_start tables tree).run turns
  have unique := once
  rw [← names] at unique
  refine ⟨?_, fun debug form => ?_, ?_⟩
  · rw [BuildResult.total_ofEntries, ← List.length_map Prod.fst, names, List.length_map]
  · rw [BuildResult.exit_ofBuild,
      BuildResult.failures_ne_nil_iff unique (fun _ _ member => own.entries member), names]
    simp only [List.mem_map, exists_exists_and_eq_and]
  · intro settings member compiled result writable away separate
    have ready : Ready .standard tree settings compiled :=
      ⟨result, FileTree.write_eq_ok.mp (writable [])⟩
    have clear (other : TableSettings) (inside : other ∈ tables) (different : other ≠ settings) :
        Clear settings other := by
      rcases separate with plain | given
      · exact clear_of_plain named plain distinct resolved member inside different ready.takes.apart
      · exact given other inside different
    obtain ⟨reported, held⟩ := Batch.written_of_ready fair ready (List.Nodup.of_map _ once) member
      (fun other inside different => ⟨clear other inside different, away other inside different⟩)
    exact ⟨BuildResult.mem_reports.mpr ⟨_, reported⟩, held⟩

/-- A manifest with one entry for each name is built unless a layout is refused, and then nothing is
written. A build fails when a table is not reported. A table whose source compiles is written and
reported whatever the other sources hold, as long as its asset can be written and the other assets are
neither its source nor in its way. This holds one table after another, and also when the tables take
turns in any order. -/
theorem build_isolates (parsed : parse? text = some manifest)
    (distinct : (manifest.tables.map TableEntry.name).Nodup) (file : Path)
    (sourceDir outputDir : Option Path) (tree : FileTree) :
    let placed := (manifest.below file).overrideDirs sourceDir outputDir
    (∀ entry ∈ placed.tables, ∀ cause, placed.resolve entry = .error cause →
      ∃ first, runOn tree (placed.build []) = (.error (.content first), tree)) ∧
    ∀ tables, placed.allSettings = .ok tables →
      (∃ result after, runOn tree (placed.build []) = (.ok result, after) ∧
        Isolates placed tree tables result after) ∧
      ∀ turns, Batch.Fair tables turns →
        Isolates placed tree tables
          (.ofEntries ((Batch.start tables tree).run .standard turns).entries)
          ((Batch.start tables tree).run .standard turns).files := by
  intro placed
  have named : placed.Named := fun entry member => named_of_parse? parsed entry member
  refine ⟨fun entry member cause refused => build_of_refused member refused tree, ?_⟩
  intro tables resolved
  refine ⟨⟨_, _, build_of_ok resolved tree, ?_⟩,
    fun turns fair => isolates_of_fair named distinct resolved tree fair⟩
  -- One table after another is one way of taking turns.
  obtain ⟨turns, fair, files, entries⟩ := Batch.exists_turns_start .standard tables tree
  have isolated := isolates_of_fair named distinct resolved tree fair
  rwa [files, Batch.entries_eq entries] at isolated

/-! Two tables, of which one has a source -/

def sourceTree : FileTree :=
  ⟨[(⟨.working 0, ["source".toList, "Armor.txt".toList]⟩,
      Text.Utf8.encode "#\tArmor\t\n#\tId\tMaxHP\n#\tid\tint\n#\t\t\n\t1\t10\n".toList)],
    [⟨.working 0, ["source".toList]⟩]⟩

def placedAt (manifest : Manifest) : Manifest :=
  (manifest.below standardFile).overrideDirs none none

theorem build_isolates_armor : ∃ manifest compiled result after,
    parse? twoText = some manifest ∧
      resultIn .standard sourceTree (shortSettings "Armor" 1) = .ok compiled ∧
      runOn sourceTree (manifest.placedAt.build []) = (.ok result, after) ∧
      (shortSettings "Armor" 1).report compiled ∈ result.reports ∧
      contentOf after ⟨"bytes/Armor.bytes"⟩ = .ok compiled.encoded.blob ∧
      (Outcome.ofBuild .json .summary result).exit ≠ 0 := by
  have reads : (parse? twoText).bind (fun manifest =>
      manifest.placedAt.allSettings.toOption.bind (fun tables =>
        (resultIn .standard sourceTree (shortSettings "Armor" 1)).toOption.bind (fun _ =>
          (runOn sourceTree (manifest.placedAt.build [])).1.toOption.bind (fun result =>
            some (tables, manifest.tables.map TableEntry.name,
              result.reports.map TableReport.name))))) =
      some ([shortSettings "Armor" 1, shortSettings "Music" 2],
        [⟨"Armor", none⟩, ⟨"Music", none⟩], [⟨"Armor", none⟩]) := by decide +kernel
  have takes : sourceTree.Takes (shortSettings "Armor" 1).output := by decide +kernel
  have apart : (shortSettings "Armor" 1).source.destination ≠
      (shortSettings "Music" 2).output.destination := by decide +kernel
  obtain ⟨manifest, parsed, reads⟩ := Option.bind_eq_some_iff.mp reads
  obtain ⟨tables, resolved, reads⟩ := Traversal.toOption_bind_eq_some.mp reads
  obtain ⟨compiled, armor, reads⟩ := Traversal.toOption_bind_eq_some.mp reads
  obtain ⟨built, ran, reads⟩ := Traversal.toOption_bind_eq_some.mp reads
  simp only [Option.some.injEq, Prod.mk.injEq] at reads
  obtain ⟨rfl, names, reported⟩ := reads
  have distinct : (manifest.tables.map TableEntry.name).Nodup := by
    rw [names]
    decide
  have plain : ∀ entry ∈ manifest.tables, '/' ∉ entry.name.text.toList := by
    rw [← List.forall_mem_map (P := fun name : TableName => '/' ∉ name.text.toList), names]
    decide
  obtain ⟨result, after, done, _, exit, written⟩ :=
    ((build_isolates parsed distinct standardFile none none sourceTree).2 _ resolved).1
  obtain ⟨listed, held⟩ := written (shortSettings "Armor" 1) List.mem_cons_self compiled armor
    (fun _ => FileTree.write_eq_ok.mpr takes)
    (List.forall_mem_cons.mpr ⟨fun different => absurd rfl different,
      List.forall_mem_singleton.mpr fun _ => apart⟩)
    (Or.inl plain)
  refine ⟨manifest, compiled, result, after, parsed, armor, done, listed, held, ?_⟩
  refine (exit .json .summary).mpr ⟨shortSettings "Music" 2, by simp, fun report member music => ?_⟩
  have same : built = result := by
    rw [placedAt, done] at ran
    exact (Except.ok.inj ran).symm
  have inside := List.mem_map_of_mem (f := TableReport.name) member
  rw [← same, reported, music] at inside
  revert inside
  decide

/-- One layout that is refused keeps a table from being written that compiles on its own. -/
def refusedText : String :=
  "[[tables]]\nname = \"Armor\"\n[[tables]]\nname = \"Music\"\nid_column = -1\n"

theorem build_of_refused_layout : ∃ manifest entry compiled cause,
    parse? refusedText = some manifest ∧ (manifest.tables.map TableEntry.name).Nodup ∧
      entry ∈ manifest.placedAt.tables ∧
      manifest.placedAt.resolve entry = .ok (shortSettings "Armor" 1) ∧
      resultIn .standard sourceTree (shortSettings "Armor" 1) = .ok compiled ∧
      sourceTree.Takes (shortSettings "Armor" 1).output ∧
      runOn sourceTree (manifest.placedAt.build []) = (.error (.content cause), sourceTree) ∧
      contentOf sourceTree (shortSettings "Armor" 1).output = .error .notFound := by
  have reads : (parse? refusedText).bind (fun manifest =>
      manifest.placedAt.tables.head?.bind (fun entry =>
        (manifest.placedAt.resolve entry).toOption.bind (fun settings =>
          (resultIn .standard sourceTree (shortSettings "Armor" 1)).toOption.bind (fun _ =>
            some (settings, manifest.tables.map TableEntry.name,
              manifest.placedAt.allSettings.toOption))))) =
      some (shortSettings "Armor" 1, [⟨"Armor", none⟩, ⟨"Music", none⟩], none) := by decide +kernel
  have takes : sourceTree.Takes (shortSettings "Armor" 1).output := by decide +kernel
  have missing : contentOf sourceTree (shortSettings "Armor" 1).output = .error .notFound := by
    decide +kernel
  obtain ⟨manifest, parsed, reads⟩ := Option.bind_eq_some_iff.mp reads
  obtain ⟨entry, first, reads⟩ := Option.bind_eq_some_iff.mp reads
  obtain ⟨settings, resolved, reads⟩ := Traversal.toOption_bind_eq_some.mp reads
  obtain ⟨compiled, armor, reads⟩ := Traversal.toOption_bind_eq_some.mp reads
  simp only [Option.some.injEq, Prod.mk.injEq] at reads
  obtain ⟨rfl, names, refused⟩ := reads
  have distinct : (manifest.tables.map TableEntry.name).Nodup := by
    rw [names]
    decide
  cases settled : manifest.placedAt.allSettings with
  | ok tables =>
    rw [settled] at refused
    cases refused
  | error cause =>
    exact ⟨manifest, entry, compiled, cause, parsed, distinct, List.mem_of_mem_head? first, resolved,
      armor, takes, build_of_error settled sourceTree, missing⟩

end Manifest

end GameSheet
