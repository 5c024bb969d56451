import GameSheet.Proofs.Command.Builds
import GameSheet.Proofs.Content.Sources
import GameSheet.Proofs.Table.RoundTrip

/-!
Inspecting what was built. The asset is read with the row layout that the source has by then and in
the format that the manifest names, neither of which the build has left word of. A source that is as
it was gives the layout of the build again.
-/

namespace GameSheet

def SheetLayout.identifier? (layout : SheetLayout) (cells : List String) : Option Int :=
  match cells[layout.idColumn]?.map Codec.id.parse with
  | some (.ok (.integer .int id)) => some id.toInt
  | _ => none

theorem Schema.Ships.identifier? {schema : Schema} {cells : List String} {record : Record}
    (ships : schema.Ships cells record) :
    schema.layout.identifier? cells = some record.id.toInt := by
  obtain ⟨text, cell, parsed⟩ := ships.identifier
  rw [SheetLayout.identifier?, cell, Option.map_some, parsed]

def TableReport.inspection (report : TableReport) (records : List Record) : Inspection :=
  ⟨report.output, report.bytes, report.format, report.fingerprint, records⟩

theorem runOn_adapt {σ ε ε' α : Type} (files : σ) (onError : ε → ε')
    (action : ExceptT ε (StateM σ) α) :
    runOn files (action.adapt onError) =
      ((runOn files action).1.mapError onError, (runOn files action).2) := rfl

namespace Schema

variable {schema : Schema} {content : List (Nat × List String)} {records : List Record}

theorem map_identifier? (ships : List.Forall₂ (fun row record => schema.Ships row.2 record)
    content records) :
    content.map (fun row => schema.layout.identifier? row.2) =
      records.map (fun record => some record.id.toInt) :=
  Traversal.map_eq_map_iff.mpr (ships.imp fun _ _ shipped => shipped.identifier?)

theorem exists_identifier_iff (ships : List.Forall₂ (fun row record => schema.Ships row.2 record)
    content records) (id : Int) :
    (∃ record ∈ records, record.id.toInt = id) ↔
      ∃ row ∈ content, schema.layout.identifier? row.2 = some id := by
  have row_iff : some id ∈ content.map (fun row => schema.layout.identifier? row.2) ↔
      some id ∈ records.map (fun record => some record.id.toInt) := by
    rw [map_identifier? ships]
  simp only [List.mem_map, Option.some.injEq] at row_iff
  exact row_iff.symm

theorem filter_ships (ships : List.Forall₂ (fun row record => schema.Ships row.2 record)
    content records) (id : Int) :
    List.Forall₂ (fun row record => schema.Ships row.2 record)
      (content.filter (fun row => schema.layout.identifier? row.2 = some id))
      (records.filter (fun record => record.id.toInt = id)) := by
  refine List.rel_filter (fun row record shipped => ?_) ships
  change decide (_ = _) = true ↔ decide (_ = _) = true
  rw [shipped.identifier?, decide_eq_true_eq, decide_eq_true_eq, Option.some.injEq]

end Schema

/-! What is printed -/

def Record.lineWithout (record : Record) (place : Nat) : String :=
  s!"  {record.id.toInt} " ++ "  ".intercalate ((record.fields.eraseIdx place).map fieldText)

theorem Record.summary_eq (record : Record) : record.summary = record.lineWithout 0 := by
  rw [summary, lineWithout, List.eraseIdx_zero, List.drop_one]

def OutputForm.rows (debug : DebugTexts) (records : List Record) : OutputForm → String
  | .summary => unlines (s!"=== {records.length} rows ===" ::
      records.map (fun record => record.lineWithout 0))
  | .json => (Json.array (records.map Record.json)).text ++ "\n"
  | .debug => debug.records records ++ "\n"

namespace Outcome

def shows (debug : DebugTexts) (form : OutputForm) (inspection : Inspection) : Outcome :=
  ⟨0, inspection.head ++ form.rows debug inspection.records, ""⟩

theorem ofInspection_eq (debug : DebugTexts) (form : OutputForm) (inspection : Inspection) :
    ofInspection debug form inspection = shows debug form inspection := by
  cases form with
  | summary =>
    rw [ofInspection, OutputForm.choose, Inspection.summary, funext Record.summary_eq]
    rfl
  | json => rfl
  | debug => rfl

def Prints (outcome : Outcome) (line : String) : Prop :=
  ∃ before behind, outcome.output = before ++ (line ++ "\n") ++ behind

theorem prints_fingerprint (debug : DebugTexts) (form : OutputForm) (report : TableReport)
    (records : List Record) :
    (shows debug form (report.inspection records)).Prints
      s!"Fingerprint: {report.fingerprint.text}" := by
  refine ⟨unlines [s!"Asset: {report.output.text}", s!"Size: {Text.ByteSize.text report.bytes}",
      s!"Format: {report.format.name}"], "\n" ++ form.rows debug records, ?_⟩
  simp only [shows, Inspection.head, TableReport.inspection, unlines, List.map_cons, List.map_nil,
    String.join_cons, String.join_nil, String.append_assoc, String.empty_append,
    String.append_empty]

end Outcome

/-! Tables that were built -/

section Built

variable {registry : TypeRegistry} {tree : FileTree} {settings : TableSettings}
  {compiled : CompiledTable}

theorem Ready.checked (ready : Ready registry tree settings compiled) :
    ∃ text, (runOn tree (readText settings.source)).1 = .ok text ∧
      checkSource registry settings.options settings.layout text =
        .ok (compiled.sheet, compiled.schema) ∧
      compiled.schema.encode compiled.sheet settings.format = .ok compiled.encoded := by
  obtain ⟨text, found, made⟩ := Traversal.bind_eq_ok.mp ready.result
  obtain ⟨checked, encoded, _⟩ := compileSource_eq_ok.mp (Traversal.mapError_eq_ok.mp made)
  exact ⟨text, by rw [runOn_readText, found], checked, encoded⟩

theorem Ready.decodes (ready : Ready .standard tree settings compiled) :
    compiled.schema.layout = settings.layout ∧ ∃ records,
      compiled.schema.rowLayout.decode settings.format compiled.encoded.blob = .ok records ∧
      (settings.report compiled).rows =
        (compiled.sheet.contentRows settings.layout.contentStart).length ∧
      List.Forall₂ (fun row record => compiled.schema.Ships row.2 record)
        (compiled.sheet.contentRows settings.layout.contentStart) records := by
  obtain ⟨_, _, checked, encoded⟩ := ready.checked
  obtain ⟨_, built, _⟩ := checkSource_eq_ok.mp checked
  have layout : compiled.schema.layout = settings.layout := (Schema.build_eq_ok built).2.2.2
  obtain ⟨frames, framed, made⟩ := Schema.encode_eq_ok.mp encoded
  rw [layout] at framed
  obtain ⟨records, decoded, ships⟩ :=
    Schema.decode_framed TypeRegistry.standard_lawful built settings.format framed
  refine ⟨layout, records, ?_, ?_, ships⟩
  · rw [made]
    exact decoded
  · rw [TableSettings.report, made]
    exact framed.length_eq.symm

theorem Ready.source_after_compile (ready : Ready registry tree settings compiled)
    (apart : settings.source.destination ≠ settings.output.destination) :
    (runOn tree (settings.compile registry)).2.read settings.source = tree.read settings.source := by
  obtain ⟨content, wrote⟩ := wrote_of_compile registry tree settings
  obtain ⟨bytes, read⟩ := exists_read ready.result
  rw [read, wrote.read read apart]

end Built

/-! Inspections -/

namespace Inspection

variable {settings : TableSettings} {schema : Schema} {records : List Record}

theorem pick_some (table : TableName) (id : Int) (records : List Record) :
    pick table (some id) records =
      if ∃ record ∈ records, record.id.toInt = id then
        .ok (records.filter (fun record => record.id.toInt = id))
      else .error (.noRow table id) := by
  have empty_iff : (records.filter (fun record => record.id.toInt = id)).isEmpty = true ↔
      ¬∃ record ∈ records, record.id.toInt = id := by
    simp
  exact (if_congr empty_iff rfl rfl).trans (ite_not _ _ _)

theorem ofBlob_of_decode {format : BlobFormat} {blob : List UInt8}
    (decoded : schema.rowLayout.decode format blob = .ok records) (id : Option Int) :
    ofBlob settings schema id format blob =
      (pick settings.name id records).map
        (fun found => ⟨settings.output, blob.length, format, schema.fingerprint, found⟩) := by
  rw [ofBlob, decoded]
  rfl

end Inspection

namespace Manifest

variable {manifest : Manifest} {table : String} {settings : TableSettings} {tree : FileTree}
  {sheet : Sheet} {schema : Schema} {text : String} {blob : List UInt8}

theorem runOn_schemaOf (source : (runOn tree (readText settings.source)).1 = .ok text)
    (checked : checkSource .standard settings.options settings.layout text = .ok (sheet, schema)) :
    runOn tree (schemaOf settings) = (.ok schema, tree) := by
  have read : runOn tree (readText settings.source) = (.ok text, tree) :=
    Prod.ext source (by rw [runOn_readText, FileTree.afterRead_eq])
  have passed : settings.checkText .standard text = .ok schema := by
    rw [TableSettings.checkText, checked]
    rfl
  have done : runOn tree (settings.check .standard) = (.ok schema, tree) := by
    rw [TableSettings.check, runOn_bind_ok read, runOn_pure, passed]
  rw [schemaOf, runOn_adapt, done]
  rfl

theorem runOn_readAsset (held : tree.read settings.output = .ok blob) :
    runOn tree (readAsset settings) = (.ok blob, tree) := by
  have there : runOn tree (liftM (FileAccess.contains (m := StateM FileTree) settings.output) :
      ExceptT CommandError (StateM FileTree) Bool) = (.ok true, tree) := by
    rw [← FileTree.contains_of_read held]
    exact runOn_lift tree _
  have read : runOn tree (liftM (FileAccess.read (m := StateM FileTree) settings.output) :
      ExceptT CommandError (StateM FileTree) (Except FileFault (List UInt8))) =
        (.ok (.ok blob), tree) := by
    rw [← held]
    exact runOn_lift tree _
  rw [readAsset, runOn_bind_ok there]
  simp only [Bool.not_true, Bool.false_eq_true, if_false]
  rw [runOn_bind_ok read]
  rfl

theorem runOn_inspect (named : manifest.named table = .ok settings)
    (source : (runOn tree (readText settings.source)).1 = .ok text)
    (checked : checkSource .standard settings.options settings.layout text = .ok (sheet, schema))
    (held : tree.read settings.output = .ok blob) (id : Option Int) (format : Option BlobFormat) :
    runOn tree (manifest.inspect table id format) =
      (Inspection.ofBlob settings schema id (format.getD settings.format) blob, tree) := by
  have first : runOn tree (ExceptT.mk (pure (manifest.named table))) = (.ok settings, tree) := by
    rw [runOn_pure, named]
  rw [inspect, runOn_bind_ok first, runOn_bind_ok (runOn_schemaOf source checked),
    runOn_bind_ok (runOn_readAsset held), runOn_pure]

theorem perform_inspect {id : Option Int} {format : Option BlobFormat} {inspection : Inspection}
    {after : FileTree}
    (done : runOn tree (manifest.inspect table id format) = (.ok inspection, after))
    (debug : DebugTexts) (form : OutputForm) :
    runOn tree ((Command.inspect table id format form).perform debug manifest) =
      (.ok (.shows debug form inspection), after) := by
  rw [Command.perform, runOn_bind_ok done, ← Outcome.ofInspection_eq]
  rfl

theorem perform_inspect_error {id : Option Int} {format : Option BlobFormat} {cause : CommandError}
    {after : FileTree} (failed : runOn tree (manifest.inspect table id format) = (.error cause, after))
    (debug : DebugTexts) (form : OutputForm) :
    runOn tree ((Command.inspect table id format form).perform debug manifest) =
      (.error cause, after) := by
  rw [Command.perform, runOn_bind_error failed]

theorem select_one (named : manifest.named table = .ok settings) :
    manifest.select [table] = .ok [settings] := by
  rw [select, List.mapM_cons, named]
  rfl

/-- A build of one table that succeeds compiles it and reports nothing else. -/
theorem built_alone {result : BuildResult} {after : FileTree}
    (named : manifest.named table = .ok settings)
    (built : runOn tree (manifest.build [table]) = (.ok result, after))
    (succeeded : result.error? = none) :
    ∃ compiled, Ready .standard tree settings compiled ∧
      result.reports = [settings.report compiled] ∧
      after = (runOn tree (settings.compile .standard)).2 := by
  rw [build_of_select (select_one named), Batch.compileAll_cons] at built
  obtain ⟨same, rfl⟩ := Prod.mk.inj built
  rw [← Except.ok.inj same, BuildResult.error?_eq_none] at succeeded
  cases outcome : (runOn tree (settings.compile .standard)).1 with
  | error cause =>
    rw [outcome] at succeeded
    cases succeeded
  | ok report =>
    obtain ⟨compiled, ready, rfl⟩ := ready_of_compile outcome
    rw [← Except.ok.inj same, outcome]
    exact ⟨compiled, ready, rfl, rfl⟩

theorem inspect_of_ready {later : FileTree} {compiled : CompiledTable} {records : List Record}
    (named : manifest.named table = .ok settings) (ready : Ready .standard tree settings compiled)
    (source : later.read settings.source = tree.read settings.source)
    (asset : later.read settings.output = .ok compiled.encoded.blob)
    (decoded : compiled.schema.rowLayout.decode settings.format compiled.encoded.blob = .ok records)
    (id : Option Int) :
    runOn later (manifest.inspect table id none) =
      ((Inspection.pick settings.name id records).map (settings.report compiled).inspection,
        later) := by
  obtain ⟨text, found, checked, encoded⟩ := ready.checked
  obtain ⟨frames, _, made⟩ := Schema.encode_eq_ok.mp encoded
  have again : (runOn later (readText settings.source)).1 = .ok text := by
    rw [runOn_readText, FileTree.contentOf_eq] at found ⊢
    rw [source]
    exact found
  have shown : (settings.report compiled).inspection = fun records => ⟨settings.output,
      compiled.encoded.blob.length, settings.format, compiled.schema.fingerprint, records⟩ := by
    funext records
    simp only [TableReport.inspection, TableSettings.report, made]
  rw [runOn_inspect named again checked asset, Option.getD_none,
    Inspection.ofBlob_of_decode decoded, shown]

/-- A table that was built on its own is inspected to the row: each record is what a content row
ships, in order, and all of them are printed below the fingerprint that was reported. Asking for an
identifier prints the rows that have it or, if there is none, fails. -/
theorem inspect_after_build {result : BuildResult} {after later : FileTree}
    (named : manifest.named table = .ok settings)
    (built : runOn tree (manifest.build [table]) = (.ok result, after))
    (succeeded : result.error? = none)
    (apart : settings.source.destination ≠ settings.output.destination)
    (source : later.read settings.source = after.read settings.source)
    (asset : later.read settings.output = after.read settings.output) :
    ∃ report text sheet schema records,
      result.reports = [report] ∧
      (runOn tree (readText settings.source)).1 = .ok text ∧
      checkSource .standard settings.options settings.layout text = .ok (sheet, schema) ∧
      let content := sheet.contentRows settings.layout.contentStart
      report.rows = content.length ∧
      List.Forall₂ (fun row record => schema.Ships row.2 record) content records ∧
      runOn later (manifest.inspect table none none) = (.ok (report.inspection records), later) ∧
      (∀ debug form,
        (Outcome.shows debug form (report.inspection records)).Prints
          s!"Fingerprint: {report.fingerprint.text}" ∧
        runOn later ((Command.inspect table none none form).perform debug manifest) =
          (.ok (.shows debug form (report.inspection records)), later)) ∧
      ∀ id : Int,
        let found := records.filter (fun record => record.id.toInt = id)
        List.Forall₂ (fun row record => schema.Ships row.2 record)
          (content.filter (fun row => settings.layout.identifier? row.2 = some id)) found ∧
        runOn later (manifest.inspect table (some id) none) =
          (if ∃ row ∈ content, settings.layout.identifier? row.2 = some id then
              .ok (report.inspection found)
            else .error (.noRow settings.name id), later) ∧
        ∀ debug form,
          runOn later ((Command.inspect table (some id) none form).perform debug manifest) =
            (if ∃ row ∈ content, settings.layout.identifier? row.2 = some id then
                .ok (.shows debug form (report.inspection found))
              else .error (.noRow settings.name id), later) := by
  obtain ⟨compiled, ready, reports, rfl⟩ := built_alone named built succeeded
  obtain ⟨text, read, checked, _⟩ := ready.checked
  obtain ⟨layout, records, decoded, count, ships⟩ := ready.decodes
  rw [ready.source_after_compile apart] at source
  rw [ready.read_after_compile] at asset
  have inspects := inspect_of_ready named ready source asset decoded
  have whole : runOn later (manifest.inspect table none none) =
      (.ok ((settings.report compiled).inspection records), later) := inspects none
  have present := Schema.exists_identifier_iff ships
  have chosen := Schema.filter_ships ships
  rw [layout] at present chosen
  refine ⟨settings.report compiled, text, compiled.sheet, compiled.schema, records, reports, read,
    checked, count, ships, whole, fun debug form => ⟨?_, perform_inspect whole debug form⟩,
    fun id => ?_⟩
  · exact Outcome.prints_fingerprint debug form (settings.report compiled) records
  · have one := inspects (some id)
    rw [Inspection.pick_some, if_congr (present id) rfl rfl] at one
    by_cases there : ∃ row ∈ compiled.sheet.contentRows settings.layout.contentStart,
        settings.layout.identifier? row.2 = some id
    · rw [if_pos there] at one
      simp only [if_pos there]
      exact ⟨chosen id, one, fun debug form => perform_inspect one debug form⟩
    · rw [if_neg there] at one
      simp only [if_neg there]
      exact ⟨chosen id, one, fun debug form => perform_inspect_error one debug form⟩

/-! A table with a fallback, a comment and two rows of one identifier -/

def stockText : String :=
  "Count\tId\tName\nint\tid\tstring\n5\t\t\n3\t1\tone\n#\t9\tnine\nmany\t2\ttwo\n4\t1\tother\n"

def stockTree : FileTree :=
  ⟨[(⟨.working 0, ["source".toList, "Armor.txt".toList]⟩, Text.Utf8.encode stockText.toList)],
    [⟨.working 0, ["source".toList]⟩]⟩

def stockManifest : Manifest :=
  ⟨⟨"source"⟩, ⟨"bytes"⟩,
    { TableDefaults.standard with
      layout := ⟨0, 1, some 2, none, 3, 1⟩
      format := .fingerprinted },
    [.plain ⟨"Armor", none⟩]⟩

/-- The texts of the rows that inspecting the stock shows. -/
def stockShown (tree : FileTree) (id : Option Int) : Option (List (List String)) :=
  (runOn tree (stockManifest.inspect "Armor" id none)).1.toOption.map (fun inspection =>
    inspection.records.map (fun record => record.values.map Value.text))

theorem inspect_after_build_stock : ∃ result after report records,
    runOn stockTree (stockManifest.build ["Armor"]) = (.ok result, after) ∧
      result.reports = [report] ∧ report.rows = 3 ∧ report.fallbacks.length = 1 ∧
      runOn after (stockManifest.inspect "Armor" none none) =
        (.ok (report.inspection records), after) ∧
      records.map (fun record => record.values.map Value.text) =
        [["3", "1", "one"], ["5", "2", "two"], ["4", "1", "other"]] ∧
      (∃ found, runOn after (stockManifest.inspect "Armor" (some 1) none) =
          (.ok (report.inspection found), after) ∧
        runOn after ((Command.inspect "Armor" (some 1) none .summary).perform .json stockManifest) =
          (.ok (.shows .json .summary (report.inspection found)), after) ∧
        found.map (fun record => record.values.map Value.text) =
          [["3", "1", "one"], ["4", "1", "other"]]) ∧
      runOn after (stockManifest.inspect "Armor" (some 9) none) =
        (.error (.noRow ⟨"Armor", none⟩ 9), after) := by
  have names : (stockManifest.named "Armor").toOption.map (fun settings => (settings.name,
      decide (settings.source.destination ≠ settings.output.destination))) =
      some (⟨"Armor", none⟩, true) := by decide +kernel
  have reports : (runOn stockTree (stockManifest.build ["Armor"])).1.toOption.map (fun result =>
      (result.failures.length,
        result.reports.map (fun report => (report.rows, report.fallbacks.length)))) =
      some (0, [(3, 1)]) := by decide +kernel
  have shown : [none, some 1, some 9].map
      (stockShown (runOn stockTree (stockManifest.build ["Armor"])).2) =
      [some [["3", "1", "one"], ["5", "2", "two"], ["4", "1", "other"]],
        some [["3", "1", "one"], ["4", "1", "other"]], none] := by decide +kernel
  obtain ⟨settings, named, same⟩ := Option.map_eq_some_iff.mp names
  obtain ⟨name, apart⟩ := Prod.mk.inj same
  generalize ran : runOn stockTree (stockManifest.build ["Armor"]) = run at reports shown
  obtain ⟨outcome, after⟩ := run
  obtain ⟨result, done, same⟩ := Option.map_eq_some_iff.mp reports
  obtain rfl : outcome = .ok result := Traversal.toOption_eq_some.mp done
  obtain ⟨failures, reported⟩ := Prod.mk.inj same
  simp only [List.map_cons, List.map_nil, List.cons.injEq, and_true] at shown
  obtain ⟨whole, twice, missing⟩ := shown
  have succeeded : result.error? = none :=
    BuildResult.error?_eq_none.mpr (List.length_eq_zero_iff.mp failures)
  obtain ⟨report, _, _, _, records, reports, _, _, _, _, all, _, each⟩ :=
    inspect_after_build (Traversal.toOption_eq_some.mp named) ran succeeded
      (of_decide_eq_true apart) rfl rfl
  rw [reports, List.map_singleton, List.cons.injEq, Prod.mk.injEq] at reported
  rw [stockShown, all] at whole
  rw [stockShown, (each 1).2.1] at twice
  rw [stockShown, (each 9).2.1] at missing
  refine ⟨result, after, report, records, rfl, reports, reported.1.1, reported.1.2, all,
    Option.some.inj whole, ?_, ?_⟩
  · have picked := (each 1).2.1
    have printed := (each 1).2.2 .json .summary
    split_ifs at twice picked printed
    · exact ⟨_, picked, printed, Option.some.inj twice⟩
    · cases twice
  · rw [(each 9).2.1, name]
    split_ifs at missing ⊢
    · cases missing
    · rfl

end Manifest

end GameSheet
