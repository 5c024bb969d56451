import GameSheet.Command.Tables
import GameSheet.Proofs.Content.TableNames
import GameSheet.Proofs.Files.Siblings

/-!
Manifests with one entry for each name. Whether a table's settings are asked for by its name or come
with those of all tables, they are the same then, and assets that lie below the output directory are
different files.
-/

namespace GameSheet

namespace TableName

variable {name : TableName}

theorem parts_assetFile (whole : '/' ∉ name.text.toList) :
    (⟨name.assetFile⟩ : Path).parts = [name.assetFile.toList] := by
  apply Text.pieces_of_not_mem
  rw [Path.chars, assetFile, String.toList_append, List.mem_append, not_or]
  exact ⟨whole, by decide⟩

theorem descends_assetFile (whole : '/' ∉ name.text.toList) :
    (⟨name.assetFile⟩ : Path).Descends := by
  have long : 6 ≤ name.assetFile.toList.length := by
    rw [assetFile, String.toList_append, List.length_append]
    exact Nat.le_add_left 6 _
  intro part member
  rw [parts_assetFile whole, List.mem_singleton] at member
  rw [← member] at long
  constructor
  · rw [← Bool.not_eq_true]
    intro void
    rw [Path.isVoid, Bool.or_eq_true, List.isEmpty_iff, beq_iff_eq] at void
    rcases void with rfl | rfl <;> simp at long
  · rintro rfl
    simp at long

end TableName

/-! Entries that are read -/

theorem readField_eq_some {α : Type} {fields : List (String × Toml.Datum)} {name : String}
    {read : Toml.Datum → Option α} {value : α} :
    readField fields name read = some (some value) ↔
      ∃ datum, fields.lookup name = some datum ∧ read datum = some value := by
  unfold readField
  cases fields.lookup name with
  | none => simp
  | some datum => simp

theorem exists_of_mapM_some {α β : Type} {f : α → Option β} {items : List α} {values : List β}
    (read : items.mapM f = some values) {value : β} (member : value ∈ values) :
    ∃ item ∈ items, f item = some value := by
  induction items generalizing values with
  | nil =>
    rw [List.mapM_nil] at read
    rw [← Option.some.inj read] at member
    cases member
  | cons item items ih =>
    rw [List.mapM_cons] at read
    obtain ⟨first, here, later⟩ := Option.bind_eq_some_iff.mp read
    obtain ⟨rest, there, same⟩ := Option.bind_eq_some_iff.mp later
    rw [← Option.some.inj same] at member
    rcases List.mem_cons.mp member with rfl | deeper
    · exact ⟨item, List.mem_cons_self, here⟩
    · obtain ⟨other, inside, found⟩ := ih there deeper
      exact ⟨other, List.mem_cons_of_mem item inside, found⟩

theorem TableEntry.parse_of_ofToml? {value : Toml.Datum} {entry : TableEntry}
    (read : ofToml? value = some entry) : ∃ text, TableName.parse text = .ok entry.name := by
  unfold ofToml? at read
  obtain ⟨fields, _, rest⟩ := Option.bind_eq_some_iff.mp read
  obtain ⟨found, held, rest⟩ := Option.bind_eq_some_iff.mp rest
  obtain ⟨name, given, rest⟩ := Option.bind_eq_some_iff.mp rest
  -- The fields behind the name do not change it.
  iterate 11 obtain ⟨_, _, rest⟩ := Option.bind_eq_some_iff.mp rest
  rw [← Option.some.inj rest]
  rw [given] at held
  obtain ⟨datum, _, named⟩ := readField_eq_some.mp held
  obtain ⟨text, _, parsed⟩ := Option.bind_eq_some_iff.mp named
  refine ⟨text, ?_⟩
  split at parsed
  next name same => rw [same, ← Option.some.inj parsed]
  next => cases parsed

namespace Manifest

variable {text : String} {manifest : Manifest}

def Named (manifest : Manifest) : Prop :=
  ∀ entry ∈ manifest.tables, TableName.parse entry.name.text = .ok entry.name

theorem named_of_parse? (parsed : parse? text = some manifest) : manifest.Named := by
  intro entry member
  unfold parse? at parsed
  simp only [bind, Option.bind_eq_some_iff, pure, Option.some.injEq] at parsed
  obtain ⟨_, _, fields, _, _, _, _, _, _, _, tables, read, rfl⟩ := parsed
  cases tables with
  | none => cases member
  | some entries =>
    obtain ⟨datum, _, items⟩ := readField_eq_some.mp read
    cases datum with
    | array values =>
      obtain ⟨value, _, found⟩ := exists_of_mapM_some items member
      obtain ⟨text, name⟩ := TableEntry.parse_of_ofToml? found
      exact TableName.parse_text (TableName.parse_eq_ok.mp name).1
    | _ => cases items

variable {entry : TableEntry} {settings : TableSettings} {tables : List TableSettings}

theorem resolve_eq_ok (resolved : manifest.resolve entry = .ok settings) :
    settings.name = entry.name ∧ settings.output = manifest.outputDir.join ⟨entry.name.assetFile⟩ := by
  obtain ⟨layout, _, same⟩ := Traversal.bind_eq_ok.mp resolved
  rw [← Except.ok.inj same]
  exact ⟨rfl, rfl⟩

theorem entry?_of_distinct (distinct : (manifest.tables.map TableEntry.name).Nodup)
    (member : entry ∈ manifest.tables) : manifest.entry? entry.name = some entry := by
  unfold entry?
  cases found : manifest.tables.find? (fun other => other.name = entry.name) with
  | none =>
    have other := List.find?_eq_none.mp found entry member
    simp at other
  | some other =>
    have same := List.find?_some found
    rw [decide_eq_true_eq] at same
    rw [List.inj_on_of_nodup_map distinct (List.mem_of_find?_eq_some found) member same]

theorem settings_of_distinct (distinct : (manifest.tables.map TableEntry.name).Nodup)
    (member : entry ∈ manifest.tables) : manifest.settings entry.name = manifest.resolve entry := by
  rw [Manifest.settings, entry?_of_distinct distinct member]
  rfl

theorem named_of_distinct (named : manifest.Named)
    (distinct : (manifest.tables.map TableEntry.name).Nodup) (member : entry ∈ manifest.tables) :
    manifest.named entry.name.text = (manifest.resolve entry).mapError .content := by
  rw [Manifest.named, named entry member, ← settings_of_distinct distinct member]
  rfl

/-- Entries whose names hold no slash have their assets in one directory. -/
theorem exists_way (plain : ∀ entry ∈ manifest.tables, '/' ∉ entry.name.text.toList)
    (resolved : manifest.allSettings = .ok tables) :
    ∃ way, ∀ settings ∈ tables, settings.output.way = way := by
  obtain ⟨way, there, joined⟩ := manifest.outputDir.exists_way_join
  refine ⟨way ++ [there], fun settings member => ?_⟩
  obtain ⟨entry, inside, done⟩ := Traversal.exists_of_mapM resolved member
  have whole := plain entry inside
  obtain ⟨same, _⟩ := joined _ (TableName.descends_assetFile whole)
  rw [(resolve_eq_ok done).2, same, TableName.parts_assetFile whole]
  rfl

theorem destinations_of_distinct (named : manifest.Named)
    (distinct : (manifest.tables.map TableEntry.name).Nodup)
    (below : ∀ entry ∈ manifest.tables, (⟨entry.name.assetFile⟩ : Path).Descends)
    (resolved : manifest.allSettings = .ok tables) :
    (tables.map (fun settings => settings.output.destination)).Nodup := by
  obtain ⟨_, there, joined⟩ := manifest.outputDir.exists_way_join
  have same : manifest.tables.map (fun entry =>
      (⟨there.base, there.names ++ (⟨entry.name.assetFile⟩ : Path).parts⟩ : Location)) =
      tables.map (fun settings => settings.output.destination) := by
    apply Traversal.map_eq_map_iff.mpr
    apply Traversal.forall₂_imp_of_mem (Traversal.mapM_eq_ok.mp resolved)
    intro entry member settings done
    rw [(resolve_eq_ok done).2, (joined _ (below entry member)).2]
  rw [← same]
  refine List.Nodup.map_on ?_ (List.Nodup.of_map _ distinct)
  intro entry member other inside clash
  have parts := List.append_cancel_left (congrArg Location.names clash)
  have texts := congrArg Path.text (Path.parts_inj.mp parts)
  rw [TableName.assetFile, TableName.assetFile, String.append_left_inj] at texts
  have names := named entry member
  rw [texts, named other inside] at names
  exact List.inj_on_of_nodup_map distinct member inside (Except.ok.inj names).symm

/-- With one entry for each name, settings by name are those of the entry with it; and if the assets
lie below the output directory, no two of them are one file. -/
theorem allSettings_of_distinct (parsed : parse? text = some manifest)
    (resolved : manifest.allSettings = .ok tables)
    (distinct : (manifest.tables.map TableEntry.name).Nodup) :
    (∀ (position : Nat) (entry : TableEntry), manifest.tables[position]? = some entry → ∃ settings,
      tables[position]? = some settings ∧ manifest.settings entry.name = .ok settings ∧
        manifest.named entry.name.text = .ok settings) ∧
    ((∀ entry ∈ manifest.tables, (⟨entry.name.assetFile⟩ : Path).Descends) →
      (tables.map TableSettings.output).Nodup ∧
        (tables.map (fun settings => settings.output.destination)).Nodup) := by
  have named := named_of_parse? parsed
  constructor
  · intro position entry found
    have member := List.mem_of_getElem? found
    obtain ⟨settings, there, done⟩ :=
      Traversal.forall₂_getElem? (Traversal.mapM_eq_ok.mp resolved) found
    refine ⟨settings, there, ?_, ?_⟩
    · rw [settings_of_distinct distinct member, done]
    · rw [named_of_distinct named distinct member, done]
      rfl
  · intro below
    have apart := destinations_of_distinct named distinct below resolved
    refine ⟨?_, apart⟩
    apply List.Nodup.of_map Path.destination
    rwa [List.map_map]

/-! Short manifests -/

def shortSettings (name : String) (idColumn : Nat) : TableSettings :=
  ⟨⟨name, none⟩, ⟨"source/" ++ name ++ ".txt"⟩, ⟨"bytes/" ++ name ++ ".bytes"⟩, ⟨'\t', ['"']⟩,
    ⟨1, 2, none, some 3, 4, idColumn⟩, .raw, .reject⟩

def twoText : String :=
  "[[tables]]\nname = \"Armor\"\n[[tables]]\nname = \"Music\"\nid_column = 2\n"

theorem allSettings_of_distinct_two : ∃ manifest tables, parse? twoText = some manifest ∧
    manifest.allSettings = .ok tables ∧ tables[1]? = some (shortSettings "Music" 2) ∧
    manifest.named "Music" = .ok (shortSettings "Music" 2) ∧
    (tables.map TableSettings.output).Nodup := by
  have reads : (parse? twoText).bind (fun manifest => manifest.allSettings.toOption.bind (fun tables =>
      some (tables, manifest.tables.map TableEntry.name))) =
      some ([shortSettings "Armor" 1, shortSettings "Music" 2],
        [⟨"Armor", none⟩, ⟨"Music", none⟩]) := by decide +kernel
  obtain ⟨manifest, parsed, reads⟩ := Option.bind_eq_some_iff.mp reads
  obtain ⟨tables, resolved, reads⟩ := Traversal.toOption_bind_eq_some.mp reads
  obtain ⟨rfl, names⟩ := Prod.mk.inj (Option.some.inj reads)
  have distinct : (manifest.tables.map TableEntry.name).Nodup := by
    rw [names]
    decide
  have below : ∀ entry ∈ manifest.tables, (⟨entry.name.assetFile⟩ : Path).Descends := by
    rw [← List.forall_mem_map (P := fun name : TableName => (⟨name.assetFile⟩ : Path).Descends),
      names]
    decide
  obtain ⟨lookups, outputs⟩ := allSettings_of_distinct parsed resolved distinct
  obtain ⟨entry, second, name⟩ : ∃ entry, manifest.tables[1]? = some entry ∧
      entry.name = ⟨"Music", none⟩ := by
    have second := congrArg (fun names => names[1]?) names
    rw [List.getElem?_map] at second
    exact Option.map_eq_some_iff.mp second
  obtain ⟨settings, there, _, looked⟩ := lookups 1 entry second
  rw [name] at looked
  refine ⟨manifest, _, parsed, resolved, rfl, ?_, (outputs below).1⟩
  rw [Option.some.inj there]
  exact looked

def twiceText : String :=
  "[[tables]]\nname = \"Armor\"\n[[tables]]\nname = \"Armor\"\nid_column = 2\n"

def slashText : String :=
  "output_dir = \"/b\"\n[[tables]]\nname = \"x\"\n[[tables]]\nname = \"/b/x\"\n"

/-- The second entry of a name is built with its own settings, but looked up as the first one. Both are
built into one file, and so are two names of one path. -/
theorem entries_clash :
    (∃ manifest, parse? twiceText = some manifest ∧
      manifest.allSettings = .ok [shortSettings "Armor" 1, shortSettings "Armor" 2] ∧
      manifest.tables[1]?.map TableEntry.name = some ⟨"Armor", none⟩ ∧
      manifest.settings ⟨"Armor", none⟩ = .ok (shortSettings "Armor" 1) ∧
      shortSettings "Armor" 1 ≠ shortSettings "Armor" 2 ∧
      (shortSettings "Armor" 1).output = (shortSettings "Armor" 2).output) ∧
    ∃ manifest first second, parse? slashText = some manifest ∧
      manifest.allSettings = .ok [first, second] ∧ first.name ≠ second.name ∧
      first.output = second.output := by
  have twice : (parse? twiceText).bind (fun manifest => manifest.allSettings.toOption.bind (fun tables =>
      (manifest.settings ⟨"Armor", none⟩).toOption.bind (fun found =>
        some (tables, manifest.tables[1]?.map TableEntry.name, found)))) =
      some ([shortSettings "Armor" 1, shortSettings "Armor" 2], some ⟨"Armor", none⟩,
        shortSettings "Armor" 1) := by decide +kernel
  have slash : (parse? slashText).bind (fun manifest => manifest.allSettings.toOption.bind some) =
      some [{ shortSettings "x" 1 with output := ⟨"/b/x.bytes"⟩ },
        { shortSettings "/b/x" 1 with source := ⟨"/b/x.txt"⟩, output := ⟨"/b/x.bytes"⟩ }] := by
    decide +kernel
  constructor
  · obtain ⟨manifest, parsed, twice⟩ := Option.bind_eq_some_iff.mp twice
    obtain ⟨tables, resolved, twice⟩ := Traversal.toOption_bind_eq_some.mp twice
    obtain ⟨found, looked, twice⟩ := Traversal.toOption_bind_eq_some.mp twice
    simp only [Option.some.injEq, Prod.mk.injEq] at twice
    obtain ⟨rfl, name, rfl⟩ := twice
    exact ⟨manifest, parsed, resolved, name, looked, by decide, rfl⟩
  · obtain ⟨manifest, parsed, slash⟩ := Option.bind_eq_some_iff.mp slash
    obtain ⟨tables, resolved, slash⟩ := Traversal.toOption_bind_eq_some.mp slash
    obtain rfl := Option.some.inj slash
    exact ⟨manifest, _, _, parsed, resolved, by decide, rfl⟩

end Manifest

end GameSheet
