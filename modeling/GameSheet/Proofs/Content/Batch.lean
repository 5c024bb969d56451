import GameSheet.Proofs.Content.Actions

/-!
Batches of tables. Each table accesses the files twice: its source is read, and then its asset is
written. However the accesses of different tables are mixed, every table comes to what its own source
says, and only the assets of those that compile are touched.
-/

namespace GameSheet

inductive Stage where
  | waiting
  | compiled (table : CompiledTable)
  | finished (outcome : Except ContentError TableReport)

structure Job where
  settings : TableSettings
  stage : Stage

structure Batch (σ : Type) where
  files : σ
  jobs : List Job

def Batch.start {σ : Type} (tables : List TableSettings) (files : σ) : Batch σ :=
  ⟨files, tables.map (fun settings => ⟨settings, .waiting⟩)⟩

theorem Batch.settings_start {σ : Type} (tables : List TableSettings) (files : σ) :
    (start tables files).jobs.map Job.settings = tables := by
  rw [start, List.map_map]
  exact List.map_id tables

section Runs

variable {σ : Type} [FileAccess (StateM σ)] (registry : TypeRegistry)

def Job.advance (job : Job) (files : σ) : Job × σ :=
  match job.stage with
  | .waiting =>
    match runOn files (job.settings.compileInMemory registry) with
    | (.ok table, after) => (⟨job.settings, .compiled table⟩, after)
    | (.error cause, after) => (⟨job.settings, .finished (.error cause)⟩, after)
  | .compiled table =>
    match runOn files (job.settings.write table.encoded.blob) with
    | (written, after) =>
      (⟨job.settings, .finished (written.map (fun _ => job.settings.report table))⟩, after)
  | .finished _ => (job, files)

namespace Batch

def step (batch : Batch σ) (turn : Nat) : Batch σ :=
  match batch.jobs[turn]? with
  | none => batch
  | some job => ⟨(job.advance registry batch.files).2,
      batch.jobs.set turn (job.advance registry batch.files).1⟩

def run (batch : Batch σ) (turns : List Nat) : Batch σ := turns.foldl (step registry) batch

variable {job : Job}

theorem advance_settings (job : Job) (files : σ) :
    (job.advance registry files).1.settings = job.settings := by
  unfold Job.advance
  split
  · split <;> rfl
  · rfl
  · rfl

theorem step_eq {batch : Batch σ} {turn : Nat} (found : batch.jobs[turn]? = some job) :
    batch.jobs = batch.jobs.take turn ++ job :: batch.jobs.drop (turn + 1) ∧
      batch.step registry turn = ⟨(job.advance registry batch.files).2,
        batch.jobs.take turn ++ (job.advance registry batch.files).1 ::
          batch.jobs.drop (turn + 1)⟩ := by
  obtain ⟨inside, rfl⟩ := List.getElem?_eq_some_iff.mp found
  constructor
  · rw [List.getElem_cons_drop, List.take_append_drop]
  · rw [step, found]
    simp only
    rw [List.set_eq_take_append_cons_drop, if_pos inside]

theorem settings_step (batch : Batch σ) (turn : Nat) :
    (batch.step registry turn).jobs.map Job.settings = batch.jobs.map Job.settings := by
  cases found : batch.jobs[turn]? with
  | none => rw [step, found]
  | some job =>
    obtain ⟨split, stepped⟩ := step_eq registry found
    rw [stepped]
    conv_rhs => rw [split]
    simp only [List.map_append, List.map_cons, advance_settings]

theorem settings_run (batch : Batch σ) (turns : List Nat) :
    (batch.run registry turns).jobs.map Job.settings = batch.jobs.map Job.settings := by
  induction turns generalizing batch with
  | nil => rfl
  | cons turn turns ih => exact (ih (batch.step registry turn)).trans (settings_step registry batch turn)

end Batch

/-! Two turns finish a table -/

def Stage.rank : Stage → Nat
  | waiting => 0
  | compiled _ => 1
  | finished _ => 2

def Job.Done (job : Job) : Prop := ∃ outcome, job.stage = .finished outcome

namespace Batch

variable {job : Job}

theorem rank_advance (job : Job) (files : σ) :
    min 2 (job.stage.rank + 1) ≤ (job.advance registry files).1.stage.rank := by
  unfold Job.advance
  cases stage : job.stage with
  | waiting =>
    simp only
    split <;> simp [Stage.rank]
  | compiled table => simp [Stage.rank]
  | finished outcome => simp [stage, Stage.rank]

theorem rank_step {batch : Batch σ} {position : Nat} (found : batch.jobs[position]? = some job)
    (turn : Nat) : ∃ next, (batch.step registry turn).jobs[position]? = some next ∧
      min 2 (job.stage.rank + [turn].count position) ≤ next.stage.rank := by
  by_cases own : turn = position
  · rw [own, step, found]
    refine ⟨(job.advance registry batch.files).1, ?_, ?_⟩
    · rw [List.getElem?_set_self (List.getElem?_eq_some_iff.mp found).1]
    · rw [List.count_singleton_self]
      exact rank_advance registry job batch.files
  · refine ⟨job, ?_, ?_⟩
    · rw [step]
      split
      · exact found
      · rw [List.getElem?_set_ne own, found]
    · rw [List.count_eq_zero_of_not_mem (by simpa using Ne.symm own)]
      exact Nat.min_le_right 2 _

theorem rank_run {batch : Batch σ} {position : Nat} (found : batch.jobs[position]? = some job)
    (turns : List Nat) : ∃ later, (batch.run registry turns).jobs[position]? = some later ∧
      min 2 (job.stage.rank + turns.count position) ≤ later.stage.rank := by
  induction turns generalizing batch job with
  | nil => exact ⟨job, found, by simp⟩
  | cons turn turns ih =>
    obtain ⟨next, here, first⟩ := rank_step registry found turn
    obtain ⟨later, there, rest⟩ := ih here
    refine ⟨later, there, ?_⟩
    have count : (turn :: turns).count position = [turn].count position + turns.count position := by
      rw [← List.count_append, List.singleton_append]
    omega

def Fair (tables : List TableSettings) (turns : List Nat) : Prop :=
  ∀ position < tables.length, 2 ≤ turns.count position

theorem done_of_fair {tables : List TableSettings} {turns : List Nat} (fair : Fair tables turns)
    (files : σ) :
    ∀ job ∈ ((Batch.start tables files).run registry turns).jobs, job.Done := by
  intro job member
  obtain ⟨position, inside, rfl⟩ := List.mem_iff_getElem.mp member
  have same := congrArg List.length (settings_run registry (start tables files) turns)
  rw [List.length_map, settings_start] at same
  have within : position < tables.length := same ▸ inside
  have begins : (start tables files).jobs[position]? = some ⟨tables[position], .waiting⟩ := by
    simp only [start, List.getElem?_map, List.getElem?_eq_getElem within, Option.map_some]
  obtain ⟨later, there, enough⟩ := rank_run registry begins turns
  rw [List.getElem?_eq_getElem inside] at there
  have twice := fair position within
  rw [Option.some.inj there]
  cases stage : later.stage with
  | finished outcome => exact ⟨outcome, stage⟩
  | waiting =>
    rw [stage] at enough
    simp only [Stage.rank] at enough
    omega
  | compiled table =>
    rw [stage] at enough
    simp only [Stage.rank] at enough
    omega

end Batch

/-! One table after another -/

def Job.entry? (job : Job) : Option (TableName × Except ContentError TableReport) :=
  match job.stage with
  | .finished outcome => some (job.settings.name, outcome)
  | _ => none

namespace Batch

theorem compileAll_cons (settings : TableSettings) (tables : List TableSettings) (files : σ) :
    compileAll (m := StateM σ) registry (settings :: tables) files =
      (((settings.name, (runOn files (settings.compile registry)).1) ::
          (compileAll (m := StateM σ) registry tables
            (runOn files (settings.compile registry)).2).1),
        (compileAll (m := StateM σ) registry tables
          (runOn files (settings.compile registry)).2).2) := by
  rw [compileAll, forEachTable, List.mapM_cons]
  rfl

/-- Two turns are a whole compilation. -/
theorem advance_twice (settings : TableSettings) (files : σ) :
    ((Job.mk settings .waiting).advance registry files).1.advance registry
        ((Job.mk settings .waiting).advance registry files).2 =
      (⟨settings, .finished (runOn files (settings.compile registry)).1⟩,
        (runOn files (settings.compile registry)).2) := by
  have first := settings.runOn_compileInMemory registry files
  cases result : settings.compiledFrom registry (contentOf files settings.source) with
  | error cause =>
    rw [result] at first
    simp only [Job.advance, first, TableSettings.runOn_compile_error result]
  | ok table =>
    rw [result] at first
    simp only [Job.advance, first, TableSettings.runOn_compile_ok result]

theorem step_at (files : σ) (front back : List Job) (job : Job) :
    (Batch.mk files (front ++ job :: back)).step registry front.length =
      ⟨(job.advance registry files).2, front ++ (job.advance registry files).1 :: back⟩ := by
  have here : (front ++ job :: back)[front.length]? = some job := by simp
  simp only [step, here, List.set_append_right _ _ le_rfl, Nat.sub_self, List.set_cons_zero]

/-- To compile tables one after another is one way of taking turns. -/
theorem exists_turns (tables : List TableSettings) (files : σ) (front : List Job) :
    ∃ turns, (∀ position < tables.length, 2 ≤ turns.count (front.length + position)) ∧
      ((Batch.mk files (front ++ (start tables files).jobs)).run registry turns).files =
        (compileAll (m := StateM σ) registry tables files).2 ∧
      ((Batch.mk files (front ++ (start tables files).jobs)).run registry turns).jobs.map
          Job.entry? =
        front.map Job.entry? ++ (compileAll (m := StateM σ) registry tables files).1.map some := by
  induction tables generalizing files front with
  | nil => exact ⟨[], nofun, rfl, by simp [start, run, compileAll, forEachTable, pure, StateT.pure]⟩
  | cons settings tables ih =>
    rcases compiled : runOn files (settings.compile registry) with ⟨outcome, after⟩
    obtain ⟨turns, fair, left, entries⟩ := ih after (front ++ [⟨settings, .finished outcome⟩])
    have twice : (Batch.mk files (front ++ (start (settings :: tables) files).jobs)).run registry
        (front.length :: front.length :: turns) =
        (Batch.mk after (front ++ [⟨settings, .finished outcome⟩] ++ (start tables after).jobs)).run
          registry turns := by
      have two := advance_twice registry settings files
      rw [compiled] at two
      simp only [run, List.foldl_cons, start, List.map_cons, step_at, two, List.append_assoc,
        List.singleton_append]
    refine ⟨front.length :: front.length :: turns, ?_, ?_, ?_⟩
    · intro position inside
      rw [List.count_cons, List.count_cons]
      cases position with
      | zero =>
        rw [Nat.add_zero, beq_self_eq_true, if_pos rfl]
        exact Nat.le_add_left 2 _
      | succ position =>
        have later := fair position (Nat.lt_of_succ_lt_succ inside)
        rw [List.length_append, List.length_singleton, Nat.add_assoc, Nat.add_comm 1] at later
        omega
    · rw [twice, left, compileAll_cons, compiled]
    · rw [twice, entries, compileAll_cons, compiled]
      simp [Job.entry?]

theorem exists_turns_start (tables : List TableSettings) (files : σ) :
    ∃ turns, Fair tables turns ∧
      ((start tables files).run registry turns).files =
        (compileAll (m := StateM σ) registry tables files).2 ∧
      ((start tables files).run registry turns).jobs.map Job.entry? =
        (compileAll (m := StateM σ) registry tables files).1.map some := by
  obtain ⟨turns, fair, left, entries⟩ := exists_turns registry tables files []
  refine ⟨turns, fun position inside => ?_, left, entries⟩
  have count := fair position inside
  rwa [List.length_nil, Nat.zero_add] at count

end Batch

/-! What each table comes to -/

def resultIn (files : σ) (settings : TableSettings) : Except ContentError CompiledTable :=
  settings.compiledFrom registry (contentOf files settings.source)

/-- Tables with outputs of their own, which are no sources, in files that are observed. -/
structure Separate (observed : Path → Prop) (tables : List TableSettings) : Prop where
  sources : ∀ settings ∈ tables, observed settings.source
  outputs : ∀ settings ∈ tables, observed settings.output
  distinct : (tables.map TableSettings.output).Nodup
  apart : ∀ settings ∈ tables, ∀ other ∈ tables, settings.output ≠ other.source

namespace Job

def Follows (job : Job) (result : Except ContentError CompiledTable) : Prop :=
  match job.stage with
  | .waiting => True
  | .compiled table => result = .ok table
  | .finished outcome => outcome = result.map job.settings.report

end Job

/-- What stays true while tables take turns: the asset of a table that compiles is written once the
table is finished, and nothing else changes. -/
structure Batch.Holds (observed : Path → Prop) (sound : σ → Prop) (begun : σ) (batch : Batch σ) :
    Prop where
  sound : sound batch.files
  follows : ∀ job ∈ batch.jobs, job.Follows (resultIn registry begun job.settings)
  written : ∀ job ∈ batch.jobs, job.Done → ∀ table, resultIn registry begun job.settings = .ok table →
    contentOf batch.files job.settings.output = .ok table.encoded.blob
  kept : ∀ path, observed path →
    (∀ job ∈ batch.jobs, job.settings.output = path →
      ∀ table, resultIn registry begun job.settings = .ok table → ¬job.Done) →
    contentOf batch.files path = contentOf begun path

namespace Batch

variable {registry} {observed : Path → Prop} {sound : σ → Prop} {begun files after : σ}
  {front back : List Job} {job next : Job}

theorem mem_jobs {other : Job} :
    other ∈ front ++ job :: back ↔ other = job ∨ other ∈ front ++ back := by
  rw [List.mem_append, List.mem_cons, List.mem_append, or_left_comm]

theorem holds_quiet (holds : Holds registry observed sound begun ⟨files, front ++ job :: back⟩)
    (settings : next.settings = job.settings)
    (follows : next.Follows (resultIn registry begun job.settings))
    (done : ∀ table, resultIn registry begun job.settings = .ok table → (next.Done ↔ job.Done)) :
    Holds registry observed sound begun ⟨files, front ++ next :: back⟩ := by
  refine ⟨holds.sound, ?_, ?_, ?_⟩
  · intro other member
    rcases mem_jobs.mp member with rfl | old
    · rwa [settings]
    · exact holds.follows other (mem_jobs.mpr (Or.inr old))
  · intro other member finished table compiled
    rcases mem_jobs.mp member with rfl | old
    · rw [settings] at compiled ⊢
      exact holds.written job (mem_jobs.mpr (Or.inl rfl)) ((done table compiled).mp finished) table
        compiled
    · exact holds.written other (mem_jobs.mpr (Or.inr old)) finished table compiled
  · intro path looked unwritten
    apply holds.kept path looked
    intro other member same table compiled finished
    rcases mem_jobs.mp member with rfl | old
    · have again := (done table compiled).mpr finished
      rw [← settings] at same compiled
      exact unwritten next (mem_jobs.mpr (Or.inl rfl)) same table compiled again
    · exact unwritten other (mem_jobs.mpr (Or.inr old)) same table compiled finished

theorem holds_write (holds : Holds registry observed sound begun ⟨files, front ++ job :: back⟩)
    (distinct : ((front ++ job :: back).map (fun job => job.settings.output)).Nodup)
    (outputs : ∀ other ∈ front ++ job :: back, observed other.settings.output)
    {table : CompiledTable} (result : resultIn registry begun job.settings = .ok table)
    (serves : sound after)
    (wrote : ∀ other, observed other → contentOf after other =
      if other = job.settings.output then .ok table.encoded.blob else contentOf files other)
    (settings : next.settings = job.settings)
    (stage : next.stage = .finished (.ok (job.settings.report table))) :
    Holds registry observed sound begun ⟨after, front ++ next :: back⟩ := by
  have different (other : Job) (member : other ∈ front ++ back) :
      other.settings.output ≠ job.settings.output := by
    rw [List.map_append, List.map_cons, List.nodup_middle, ← List.map_append] at distinct
    intro same
    exact (List.nodup_cons.mp distinct).1 (List.mem_map.mpr ⟨other, member, same⟩)
  refine ⟨serves, ?_, ?_, ?_⟩
  · intro other member
    rcases mem_jobs.mp member with rfl | old
    · rw [Job.Follows, stage, settings, result]
      rfl
    · exact holds.follows other (mem_jobs.mpr (Or.inr old))
  · intro other member finished found compiled
    rcases mem_jobs.mp member with rfl | old
    · rw [settings, result] at compiled
      rw [settings, wrote _ (outputs job (mem_jobs.mpr (Or.inl rfl))), if_pos rfl,
        Except.ok.inj compiled]
    · have before : other ∈ front ++ job :: back := mem_jobs.mpr (Or.inr old)
      rw [wrote _ (outputs other before), if_neg (different other old)]
      exact holds.written other before finished found compiled
  · intro path looked unwritten
    have elsewhere : path ≠ job.settings.output := by
      rintro rfl
      rw [← settings] at result unwritten
      exact unwritten next (mem_jobs.mpr (Or.inl rfl)) rfl table result ⟨_, stage⟩
    rw [wrote path looked, if_neg elsewhere]
    apply holds.kept path looked
    intro other member same found compiled finished
    rcases mem_jobs.mp member with rfl | old
    · exact elsewhere same.symm
    · exact unwritten other (mem_jobs.mpr (Or.inr old)) same found compiled finished

variable {tables : List TableSettings} {batch : Batch σ}

theorem holds_waiting {outputs : Path → Prop} (map : ActsAsMap observed outputs sound)
    (separate : Separate observed tables)
    (listed : ∀ other ∈ front ++ job :: back, other.settings ∈ tables)
    (holds : Holds registry observed sound begun ⟨files, front ++ job :: back⟩)
    (stage : job.stage = .waiting) :
    Holds registry observed sound begun
      ⟨(job.advance registry files).2, front ++ (job.advance registry files).1 :: back⟩ := by
  have here : job.settings ∈ tables := listed job (mem_jobs.mpr (Or.inl rfl))
  have looked := separate.sources _ here
  have source : contentOf files job.settings.source = contentOf begun job.settings.source := by
    apply holds.kept _ looked
    intro other member clash
    exact absurd clash (separate.apart _ (listed other member) _ here)
  have read : runOn files (job.settings.compileInMemory registry) =
      (resultIn registry begun job.settings, files) := by
    rw [TableSettings.runOn_compileInMemory, map.reads _ _ holds.sound looked, source]
    rfl
  cases result : resultIn registry begun job.settings with
  | ok table =>
    have advanced : job.advance registry files = (⟨job.settings, .compiled table⟩, files) := by
      simp only [Job.advance, stage, read, result]
    rw [advanced]
    refine holds_quiet holds rfl result (fun _ _ => ?_)
    simp [Job.Done, stage]
  | error cause =>
    have advanced : job.advance registry files =
        (⟨job.settings, .finished (.error cause)⟩, files) := by
      simp only [Job.advance, stage, read, result]
    rw [advanced]
    refine holds_quiet holds rfl (by rw [result]; rfl) (fun table compiled => ?_)
    rw [result] at compiled
    cases compiled

theorem holds_compiled
    (map : ActsAsMap observed (fun path => path ∈ tables.map TableSettings.output) sound)
    (separate : Separate observed tables)
    (same : (front ++ job :: back).map Job.settings = tables)
    (holds : Holds registry observed sound begun ⟨files, front ++ job :: back⟩)
    {table : CompiledTable} (stage : job.stage = .compiled table) :
    Holds registry observed sound begun
      ⟨(job.advance registry files).2, front ++ (job.advance registry files).1 :: back⟩ := by
  have listed (other : Job) (member : other ∈ front ++ job :: back) : other.settings ∈ tables := by
    rw [← same]
    exact List.mem_map_of_mem member
  have here : job ∈ front ++ job :: back := mem_jobs.mpr (Or.inl rfl)
  have follows := holds.follows job here
  rw [Job.Follows, stage] at follows
  obtain ⟨after, wrote, serves, contents⟩ := map.writes files job.settings.output
    table.encoded.blob holds.sound (List.mem_map_of_mem (listed job here))
  have advanced : job.advance registry files =
      (⟨job.settings, .finished (.ok (job.settings.report table))⟩, after) := by
    simp only [Job.advance, stage, TableSettings.runOn_write, wrote, Except.mapError, Except.map]
  have distinct := separate.distinct
  rw [← same, List.map_map] at distinct
  rw [advanced]
  exact holds_write holds distinct (fun other member => separate.outputs _ (listed other member))
    follows serves contents rfl rfl

theorem holds_step
    (map : ActsAsMap observed (fun path => path ∈ tables.map TableSettings.output) sound)
    (separate : Separate observed tables) (same : batch.jobs.map Job.settings = tables)
    (holds : Holds registry observed sound begun batch) (turn : Nat) :
    Holds registry observed sound begun (batch.step registry turn) := by
  cases found : batch.jobs[turn]? with
  | none => rwa [step, found]
  | some job =>
    obtain ⟨split, stepped⟩ := step_eq registry found
    have whole : Holds registry observed sound begun
        ⟨batch.files, batch.jobs.take turn ++ job :: batch.jobs.drop (turn + 1)⟩ := by
      rwa [← split]
    rw [split] at same
    rw [stepped]
    cases stage : job.stage with
    | waiting =>
      refine holds_waiting map separate (fun other member => ?_) whole stage
      rw [← same]
      exact List.mem_map_of_mem member
    | compiled table => exact holds_compiled map separate same whole stage
    | finished outcome =>
      have advanced : job.advance registry batch.files = (job, batch.files) := by
        simp only [Job.advance, stage]
      rwa [advanced]

/-- Whatever turns the tables take. -/
theorem holds_run
    (map : ActsAsMap observed (fun path => path ∈ tables.map TableSettings.output) sound)
    (separate : Separate observed tables) (same : batch.jobs.map Job.settings = tables)
    (holds : Holds registry observed sound begun batch) (turns : List Nat) :
    Holds registry observed sound begun (batch.run registry turns) := by
  induction turns generalizing batch with
  | nil => exact holds
  | cons turn turns ih =>
    exact ih ((settings_step registry batch turn).trans same) (holds_step map separate same holds turn)

theorem holds_start (tables : List TableSettings) (serves : sound begun) :
    Holds registry observed sound begun (start tables begun) := by
  refine ⟨serves, ?_, ?_, fun _ _ _ => rfl⟩
  · intro job member
    obtain ⟨settings, _, rfl⟩ := List.mem_map.mp member
    trivial
  · intro job member finished
    obtain ⟨settings, _, rfl⟩ := List.mem_map.mp member
    obtain ⟨outcome, stage⟩ := finished
    cases stage

end Batch

structure Leaves (observed : Path → Prop) (tables : List TableSettings) (begun files : σ) : Prop where
  written : ∀ settings ∈ tables, ∀ table, resultIn registry begun settings = .ok table →
    contentOf files settings.output = .ok table.encoded.blob
  spared : ∀ settings ∈ tables, ∀ cause, resultIn registry begun settings = .error cause →
    contentOf files settings.output = contentOf begun settings.output
  kept : ∀ path, observed path → path ∉ tables.map TableSettings.output →
    contentOf files path = contentOf begun path

def entriesIn (begun : σ) (tables : List TableSettings) :
    List (TableName × Except ContentError TableReport) :=
  tables.map (fun settings =>
    (settings.name, (resultIn registry begun settings).map settings.report))

variable {registry} {observed : Path → Prop} {sound : σ → Prop} {begun : σ}
  {tables : List TableSettings} {batch : Batch σ}

theorem Batch.leaves_of_done (holds : batch.Holds registry observed sound begun)
    (separate : Separate observed tables) (same : batch.jobs.map Job.settings = tables)
    (done : ∀ job ∈ batch.jobs, job.Done) : Leaves registry observed tables begun batch.files := by
  have listed (settings : TableSettings) (member : settings ∈ tables) :
      ∃ job ∈ batch.jobs, job.settings = settings := by
    rw [← same] at member
    exact List.mem_map.mp member
  have unlisted (job : Job) (member : job ∈ batch.jobs) : job.settings ∈ tables := by
    rw [← same]
    exact List.mem_map_of_mem member
  refine ⟨?_, ?_, ?_⟩
  · intro settings member table compiled
    obtain ⟨job, here, rfl⟩ := listed settings member
    exact holds.written job here (done job here) table compiled
  · intro settings member cause refused
    apply holds.kept _ (separate.outputs settings member)
    intro job here clash table compiled
    have own := List.inj_on_of_nodup_map separate.distinct (unlisted job here) member clash
    rw [own, refused] at compiled
    cases compiled
  · intro path looked other
    apply holds.kept path looked
    intro job here clash
    exact absurd (List.mem_map.mpr ⟨job.settings, unlisted job here, clash⟩) other

theorem Batch.entries_of_done (holds : batch.Holds registry observed sound begun)
    (same : batch.jobs.map Job.settings = tables) (done : ∀ job ∈ batch.jobs, job.Done) :
    batch.jobs.map Job.entry? = (entriesIn registry begun tables).map some := by
  rw [entriesIn, ← same, List.map_map, List.map_map]
  apply List.map_congr_left
  intro job member
  have follows := holds.follows job member
  obtain ⟨outcome, stage⟩ := done job member
  rw [Job.Follows, stage] at follows
  simp only [Job.entry?, stage, Function.comp, follows]

/-- In a file system that acts as a map, tables with outputs of their own come to the same results and
leave the same files in whatever order their sources are read and their assets written. -/
theorem compileAll_any_order
    (map : ActsAsMap observed (fun path => path ∈ tables.map TableSettings.output) sound)
    (separate : Separate observed tables) (serves : sound begun) :
    ((compileAll (m := StateM σ) registry tables begun).1 = entriesIn registry begun tables ∧
      Leaves registry observed tables begun
        (compileAll (m := StateM σ) registry tables begun).2) ∧
    ∀ turns, Batch.Fair tables turns →
      ((Batch.start tables begun).run registry turns).jobs.map Job.entry? =
          (entriesIn registry begun tables).map some ∧
        Leaves registry observed tables begun
          ((Batch.start tables begun).run registry turns).files := by
  have any (turns : List Nat) (fair : Batch.Fair tables turns) :
      ((Batch.start tables begun).run registry turns).jobs.map Job.entry? =
          (entriesIn registry begun tables).map some ∧
        Leaves registry observed tables begun
          ((Batch.start tables begun).run registry turns).files := by
    have begins := Batch.settings_start tables begun
    have holds : Batch.Holds registry observed sound begun _ :=
      Batch.holds_run map separate begins (Batch.holds_start tables serves) turns
    have same := (Batch.settings_run registry _ turns).trans begins
    have done := Batch.done_of_fair registry fair begun
    exact ⟨Batch.entries_of_done holds same done, Batch.leaves_of_done holds separate same done⟩
  refine ⟨?_, any⟩
  obtain ⟨turns, fair, files, entries⟩ := Batch.exists_turns_start registry tables begun
  obtain ⟨same, leaves⟩ := any turns fair
  rw [files] at leaves
  rw [entries] at same
  exact ⟨List.map_injective_iff.mpr (Option.some_injective _) same, leaves⟩

end Runs

/-! Two tables, one without a source -/

def pairSettings (name : String) : TableSettings :=
  ⟨⟨name, none⟩, ⟨"in/" ++ name ++ ".txt"⟩, ⟨"out/" ++ name ++ ".bytes"⟩, ⟨'\t', []⟩,
    ⟨0, 1, none, none, 2, 0⟩, .raw, .reject⟩

def pairTables : List TableSettings := [pairSettings "Armor", pairSettings "Music"]

def pairPaths : List Path := pairTables.flatMap (fun settings => [settings.source, settings.output])

def pairTree : FileTree :=
  ⟨[(⟨.working 0, ["in".toList, "Armor.txt".toList]⟩,
      Text.Utf8.encode "Id\tMaxHP\nid\tint\n1\t10\n".toList),
    (⟨.working 0, ["out".toList, "Music.bytes".toList]⟩, [7])],
    [⟨.working 0, ["in".toList]⟩, ⟨.working 0, ["out".toList]⟩]⟩

theorem compileAll_any_order_pair : ∃ table,
    resultIn .standard pairTree (pairSettings "Armor") = .ok table ∧
      ((Batch.start pairTables pairTree).run .standard [1, 0, 0, 1]).jobs.map Job.entry? =
        [some (⟨"Armor", none⟩, .ok ((pairSettings "Armor").report table)),
          some (⟨"Music", none⟩, .error (.unreadable ⟨"in/Music.txt"⟩ .notFound))] ∧
      contentOf ((Batch.start pairTables pairTree).run .standard [1, 0, 0, 1]).files
        ⟨"out/Armor.bytes"⟩ = .ok table.encoded.blob ∧
      contentOf ((Batch.start pairTables pairTree).run .standard [1, 0, 0, 1]).files
        ⟨"out/Music.bytes"⟩ = .ok [7] := by
  let outputs : List Path := pairTables.map TableSettings.output
  have ends : ∀ path ∈ outputs, ∀ other ∈ outputs, path ≠ other →
      path.destination ≠ other.destination := by decide +kernel
  have ways : ∀ path ∈ outputs, ∀ other ∈ outputs, path.destination ∉ other.way := by
    decide +kernel
  have others : ∀ path ∈ pairPaths, path ∉ outputs → ∀ output ∈ outputs,
      ¬path.Passes output.destination := by decide +kernel
  have takes : ∀ path ∈ outputs, pairTree.Takes path := by decide +kernel
  have reached : ∀ path ∈ outputs, ∀ place ∈ path.way, pairTree.isDirectory place = true := by
    decide +kernel
  have apart : FileTree.Apart (· ∈ pairPaths) (· ∈ outputs) :=
    ⟨fun path other own also => ends path own other also, fun path other own also =>
      ways path own other also, fun path output looked own also => others path looked own output also⟩
  have serves : FileTree.Serves (· ∈ pairPaths) (· ∈ outputs) pairTree :=
    ⟨takes, fun path own => Or.inr (reached path own), fun _ output _ _ also place onWay _ =>
      reached output also place onWay⟩
  have separate : Separate (· ∈ pairPaths) pairTables := by
    constructor <;> decide +kernel
  have fair : Batch.Fair pairTables [1, 0, 0, 1] := by
    unfold Batch.Fair
    decide +kernel
  have compiles : (resultIn .standard pairTree (pairSettings "Armor")).toOption.isSome = true := by
    decide +kernel
  obtain ⟨table, found⟩ := Option.isSome_iff_exists.mp compiles
  have armor := Traversal.toOption_eq_some.mp found
  have missing : contentOf pairTree (pairSettings "Music").source = .error .notFound := by
    decide +kernel
  have music : resultIn .standard pairTree (pairSettings "Music") =
      .error (.unreadable (pairSettings "Music").source .notFound) := by
    rw [resultIn, TableSettings.compiledFrom, missing]
    rfl
  have old : contentOf pairTree (pairSettings "Music").output = .ok [7] := by decide +kernel
  have both : _ ∧ Leaves .standard (· ∈ pairPaths) pairTables pairTree _ :=
    (compileAll_any_order (FileTree.actsAsMap apart) separate serves).2 [1, 0, 0, 1] fair
  obtain ⟨entries, leaves⟩ := both
  refine ⟨table, armor, ?_, ?_, ?_⟩
  · rw [entries]
    simp only [entriesIn, pairTables, List.map_cons, List.map_nil, armor, music, Except.map]
    rfl
  · exact leaves.written (pairSettings "Armor") (List.mem_cons_self) table armor
  · rw [← old]
    exact leaves.spared (pairSettings "Music") (by simp [pairTables]) _ music

end GameSheet
