import GameSheet.Proofs.Content.Actions
import GameSheet.Proofs.Content.Kinds
import GameSheet.Proofs.Content.Sources

/-!
Tables from sources and tables from assets. A source of a kind's columns is loaded straight away
exactly as its asset is once it is compiled, as long as no default is taken on the way.
-/

namespace GameSheet

namespace Schema

variable {source : Sheet} {layout : SheetLayout} {schema : Schema} {expected : RowLayout}

theorem records_expected (built : build source layout .standard = .ok schema)
    (standard : expected.Standard) (same : schema.rowLayout.signature = expected.signature)
    (sheet : Sheet) : schema.records sheet expected = schema.records sheet schema.rowLayout := by
  have alike := RowLayout.alike_of_signature (rowLayout_standard built) standard same
  have fingerprint : schema.rowLayout.fingerprint = expected.fingerprint := congrArg Fingerprint.of same
  simp only [records, Schema.fingerprint, fingerprint, RowLayout.record_congr alike]

end Schema

namespace AssetLibrary

variable {library : AssetLibrary} {settings : TableSettings} {kind : TableKind} {tree : FileTree}
  {text : String} {sheet : Sheet} {schema : Schema} {layout : RowLayout} {records : List Record}

theorem tableOfText_eq (standard : library.registry = .standard)
    (laid : library.layout kind = .ok layout)
    (checked : checkSource .standard settings.options settings.layout text = .ok (sheet, schema)) :
    library.tableOfText settings kind text = (do
      let records ← (schema.records sheet layout).mapError (.unreadText settings.name)
      index settings.name kind settings.duplicateIds records) := by
  obtain ⟨loaded, built, _⟩ := checkSource_eq_ok.mp checked
  simp only [tableOfText, loaded, standard, built, laid, Except.mapError, bind, Except.bind]

theorem layout_eq_ok (standard : library.registry = .standard)
    (made : kind.layout .standard = .ok layout) : library.layout kind = .ok layout := by
  rw [AssetLibrary.layout, standard, made]
  rfl

theorem loadText_eq (standard : library.registry = .standard)
    (source : (runOn tree (readText settings.source)).1 = .ok text)
    (checked : checkSource .standard settings.options settings.layout text = .ok (sheet, schema))
    (made : kind.layout .standard = .ok layout)
    (same : schema.rowLayout.signature = layout.signature) :
    (runOn tree (library.loadText settings kind)).1 = (do
      let records ← (schema.records sheet schema.rowLayout).mapError (.unreadText settings.name)
      index settings.name kind settings.duplicateIds records) := by
  obtain ⟨_, built, _⟩ := checkSource_eq_ok.mp checked
  have likewise := RowLayout.declare_standard made
  rw [runOn_readText] at source
  replace source : textFrom settings.source (contentOf tree settings.source) = .ok text := source
  rw [runOn_loadText, source, ← Schema.records_expected built likewise same,
    ← tableOfText_eq standard (layout_eq_ok standard made) checked]
  rfl

theorem compile_eq (source : (runOn tree (readText settings.source)).1 = .ok text)
    (checked : checkSource .standard settings.options settings.layout text = .ok (sheet, schema))
    (takes : tree.Takes settings.output) {encoded : EncodedTable}
    (done : schema.encode sheet settings.format = .ok encoded) :
    ∃ report after, runOn tree (settings.compile .standard) = (.ok report, after) ∧
      report.fallbacks = encoded.fallbacks ∧
      contentOf after settings.output = .ok encoded.blob := by
  rw [runOn_readText] at source
  replace source : textFrom settings.source (contentOf tree settings.source) = .ok text := source
  let compiled : CompiledTable :=
    ⟨sheet, schema, .build sheet schema.columns schema.layout.contentStart, encoded⟩
  have made : settings.compiledFrom .standard (contentOf tree settings.source) = .ok compiled := by
    rw [TableSettings.compiledFrom, source]
    exact Traversal.mapError_eq_ok.mpr (compileSource_eq_ok.mpr ⟨checked, done, rfl⟩)
  have succeeds : (tree.write settings.output encoded.blob).2 = .ok () :=
    FileTree.write_eq_ok.mpr takes
  have held := FileTree.read_write takes encoded.blob
  rcases wrote : tree.write settings.output encoded.blob with ⟨after, outcome⟩
  rw [wrote] at succeeds held
  replace succeeds : outcome = .ok () := succeeds
  have written : runOn tree (settings.write encoded.blob) = (.ok (), after) := by
    rw [TableSettings.runOn_write, FileTree.access_write, wrote, succeeds]
    rfl
  refine ⟨settings.report compiled, after, ?_, rfl, held⟩
  rw [TableSettings.runOn_compile_ok made, FileTree.afterRead_eq, written]
  rfl

theorem encoded_of_compile {report : TableReport} {after : FileTree}
    (source : (runOn tree (readText settings.source)).1 = .ok text)
    (checked : checkSource .standard settings.options settings.layout text = .ok (sheet, schema))
    (done : runOn tree (settings.compile .standard) = (.ok report, after)) :
    ∃ encoded, schema.encode sheet settings.format = .ok encoded := by
  rw [runOn_readText] at source
  replace source : textFrom settings.source (contentOf tree settings.source) = .ok text := source
  cases made : settings.compiledFrom .standard (contentOf tree settings.source) with
  | error cause =>
    rw [TableSettings.runOn_compile_error made] at done
    cases done
  | ok compiled =>
    rw [TableSettings.compiledFrom, source] at made
    obtain ⟨again, encoded, _⟩ := compileSource_eq_ok.mp (Traversal.mapError_eq_ok.mp made)
    obtain ⟨rfl, rfl⟩ := Prod.mk.inj (Except.ok.inj (checked.symm.trans again))
    exact ⟨compiled.encoded, encoded⟩

theorem loadTable_eq {after : FileTree} {encoded : EncodedTable}
    (laid : library.layout kind = .ok layout) (asset : library.assetPath settings.name = settings.output)
    (alike : List.Forall₂ RowLayout.Alike schema.rowLayout.fields layout.fields)
    (held : contentOf after settings.output = .ok encoded.blob)
    (decoded : schema.rowLayout.decode settings.format encoded.blob = .ok records) :
    (runOn after (library.loadTable kind
      ⟨settings.name, settings.format, settings.duplicateIds⟩)).1 =
      index settings.name kind settings.duplicateIds records := by
  rw [RowLayout.decode_congr alike] at decoded
  simp only [runOn_loadTable library kind after _ laid, asset, held, AssetLibrary.records, decoded,
    Except.mapError, bind, Except.bind]

/-- A source of a kind's columns gives a table, or one that cannot be indexed or typed, exactly when
it compiles without defaults and its asset gives the same. -/
theorem loadText_iff_loadTable (standard : library.registry = .standard)
    (asset : library.assetPath settings.name = settings.output)
    (writable : ∀ blob, (tree.write settings.output blob).2 = .ok ())
    (source : (runOn tree (readText settings.source)).1 = .ok text)
    (checked : checkSource .standard settings.options settings.layout text = .ok (sheet, schema))
    (columns : schema.rowLayout.signature = kind.columns)
    (short : ∀ row ∈ sheet.contentRows settings.layout.contentStart, schema.Short row)
    (result : Except RowBuildError (DataTable kind.Row)) :
    (runOn tree (library.loadText settings kind)).1 = result.mapError (.unindexed settings.name) ↔
      ∃ report after, runOn tree (settings.compile .standard) = (.ok report, after) ∧
        report.fallbacks = [] ∧
        (runOn after (library.loadTable kind
          ⟨settings.name, settings.format, settings.duplicateIds⟩)).1 =
          result.mapError (.unindexed settings.name) := by
  obtain ⟨_, built, _⟩ := checkSource_eq_ok.mp checked
  obtain ⟨layout, made, likewise, fields⟩ := kind.exists_layout
  have takes : tree.Takes settings.output := FileTree.write_eq_ok.mp (writable [])
  have same : schema.rowLayout.signature = layout.signature := by rw [columns, fields]
  have alike := RowLayout.alike_of_signature (Schema.rowLayout_standard built) likewise same
  rw [← (Schema.build_eq_ok built).2.2.2] at short
  rw [loadText_eq standard source checked made same]
  cases read : schema.records sheet schema.rowLayout with
  | error fault =>
    constructor
    · intro unread
      cases result <;> cases unread
    · rintro ⟨report, after, compiled, silent, _⟩
      -- Without notices the text would have records.
      obtain ⟨encoded, done⟩ := encoded_of_compile source checked compiled
      obtain ⟨again, _, twice, told, _⟩ := compile_eq source checked takes done
      have same := Except.ok.inj (Prod.mk.inj (twice.symm.trans compiled)).1
      have agrees := Schema.records_agrees built short done
      rw [← told, same, silent, read] at agrees
      obtain ⟨_, absent⟩ := agrees
      cases absent
  | ok records =>
    obtain ⟨encoded, done, silent, decoded⟩ :=
      Schema.encode_records built (Or.inr (Schema.columns_length built).symm) short read
        settings.format
    obtain ⟨report, after, compiled, told, held⟩ := compile_eq source checked takes done
    have loaded := loadTable_eq (layout_eq_ok standard made) asset alike held decoded
    constructor
    · intro indexed
      exact ⟨report, after, compiled, told.trans silent, loaded.trans indexed⟩
    · rintro ⟨again, later, twice, _, indexed⟩
      obtain ⟨_, rfl⟩ := Prod.mk.inj (compiled.symm.trans twice)
      exact loaded.symm.trans indexed

def armorText : String := "Id\tMaxHP\tDefense\nid\tint\tint\n1\t10\t2\n1\t20\t3\n"

def armorTree : FileTree :=
  ⟨[(⟨.working 0, ["in".toList, "Armor.txt".toList]⟩, Text.Utf8.encode armorText.toList)],
    [⟨.working 0, ["in".toList]⟩]⟩

def armorLibrary : AssetLibrary := ⟨⟨"out"⟩, .standard⟩

def armorSettings : TableSettings :=
  ⟨⟨"Armor", none⟩, ⟨"in/Armor.txt"⟩, ⟨"out/Armor.bytes"⟩, ⟨'\t', []⟩, ⟨0, 1, none, none, 2, 0⟩,
    .fingerprinted, .override⟩

theorem loadText_iff_loadTable_armor : ∃ report after table,
    runOn armorTree (armorSettings.compile .standard) = (.ok report, after) ∧
      report.fallbacks = [] ∧ table.ids = [1] ∧ table.overridden = [1] ∧
      (runOn armorTree (armorLibrary.loadText armorSettings .armor)).1 = .ok table ∧
      (runOn after (armorLibrary.loadTable .armor
        ⟨⟨"Armor", none⟩, .fingerprinted, .override⟩)).1 = .ok table := by
  have source : (runOn armorTree (readText armorSettings.source)).1.toOption = some armorText := by
    decide +kernel
  have standard : armorLibrary.registry = .standard := rfl
  have asset : armorLibrary.assetPath armorSettings.name = armorSettings.output := by
    decide +kernel
  have takes : armorTree.Takes armorSettings.output := by decide +kernel
  have checks : (checkSource .standard armorSettings.options armorSettings.layout
      armorText).toOption.bind (fun pair => some (pair.2.rowLayout.signature,
        decide (∀ row ∈ pair.1.contentRows 2, pair.2.Short row))) =
      some (TableKind.armor.columns, true) := by decide +kernel
  have loads : (runOn armorTree (armorLibrary.loadText armorSettings .armor)).1.toOption.bind
      (fun table => some (table.ids, table.overridden)) = some ([1], [1]) := by decide +kernel
  obtain ⟨⟨sheet, schema⟩, checked, same⟩ := Traversal.toOption_bind_eq_some.mp checks
  obtain ⟨columns, short⟩ := Prod.mk.inj (Option.some.inj same)
  obtain ⟨table, loaded, same⟩ := Traversal.toOption_bind_eq_some.mp loads
  obtain ⟨ids, overridden⟩ := Prod.mk.inj (Option.some.inj same)
  have both := loadText_iff_loadTable standard asset
    (fun _ => FileTree.write_eq_ok.mpr takes) (Traversal.toOption_eq_some.mp source) checked columns
    (of_decide_eq_true short) (.ok table)
  obtain ⟨report, after, compiled, silent, again⟩ := both.mp loaded
  exact ⟨report, after, table, compiled, silent, ids, overridden, loaded, again⟩

end AssetLibrary

end GameSheet
