import GameSheet.Proofs.Command.Inspections
import GameSheet.Proofs.Schema.Separators
import GameSheet.Proofs.Table.Lookup

/-!
The lines that an inspection prints of rows. Each leaves out the field that is first on the wire. It is
the line without the identifier exactly if every column to the left of the identifier's is a comment;
otherwise the first field is missing from the line, and the identifier is on it twice.
-/

namespace GameSheet

open Schema

namespace Record

variable {record : Record}

theorem toList_fieldText (field : String × Value) :
    (fieldText field).toList = field.1.toList ++ '=' :: field.2.text.toList := by
  simp only [fieldText, String.toList_append, List.append_assoc]
  rfl

theorem toList_fieldTexts (first : String × Value) (rest : List (String × Value)) :
    ∃ behind, ("  ".intercalate ((first :: rest).map fieldText)).toList =
      first.1.toList ++ '=' :: behind := by
  cases rest with
  | nil => exact ⟨first.2.text.toList, toList_fieldText first⟩
  | cons second rest =>
    rw [List.map_cons, List.map_cons, String.intercalate_cons_cons, String.toList_append,
      String.toList_append, toList_fieldText, List.append_assoc, List.append_assoc, List.cons_append]
    exact ⟨_, rfl⟩

/-- The line without the first field tells another first name than every other line. -/
theorem lineWithout_zero_eq_iff (unambiguous : record.Unambiguous) {place : Nat}
    (inside : place < record.fields.length) :
    record.lineWithout 0 = record.lineWithout place ↔ place = 0 := by
  constructor
  · intro same
    have names : record.fields.map Prod.fst = record.names :=
      List.map_fst_zip unambiguous.aligned.ge
    have distinct := unambiguous.distinct
    have proper := unambiguous.proper
    rw [← names] at distinct proper
    rw [lineWithout, lineWithout, String.append_right_inj, ← String.toList_inj] at same
    generalize record.fields = fields at same distinct proper inside
    cases place with
    | zero => rfl
    | succ place =>
      cases fields with
      | nil => simp at inside
      | cons first others =>
        cases others with
        | nil => simp at inside
        | cons second rest =>
          obtain ⟨_, left⟩ := toList_fieldTexts second rest
          obtain ⟨_, right⟩ := toList_fieldTexts first ((second :: rest).eraseIdx place)
          rw [List.eraseIdx_cons_zero, List.eraseIdx_cons_succ, left, right] at same
          have plain : '=' ∉ first.1.toList := (proper first.1 (by simp)).not_mem (by decide)
          have bare : '=' ∉ second.1.toList := (proper second.1 (by simp)).not_mem (by decide)
          obtain ⟨name, _⟩ := Fingerprint.append_cons_inj bare plain same
          rw [String.toList_inj] at name
          simp [name] at distinct
  · rintro rfl
    rfl

end Record

namespace Schema

variable {sheet : Sheet} {layout : SheetLayout} {registry : TypeRegistry} {schema : Schema}

theorem identifier_eq_zero_iff (built : build sheet layout registry = .ok schema) :
    schema.rowLayout.identifier = 0 ↔
      ∀ column ∈ schema.columns, column.index < layout.idColumn → column.isComment = true := by
  obtain ⟨identifier, place, index, _⟩ := getElem?_identifier built
  have ascending := encodedColumns_ascending built
  cases encoded : schema.encodedColumns with
  | nil => simp [encoded] at place
  | cons first rest =>
    rw [encoded] at place ascending
    obtain ⟨below, _⟩ := List.pairwise_cons.mp ascending
    cases position : schema.rowLayout.identifier with
    | zero =>
      rw [position] at place
      obtain rfl := Option.some.inj place
      refine iff_of_true rfl (fun column member left => ?_)
      by_contra plain
      have kept := mem_encodedColumns.mpr ⟨member, Bool.eq_false_iff.mpr plain⟩
      rw [encoded, List.mem_cons] at kept
      rcases kept with rfl | behind
      · omega
      · have := below column behind
        omega
    | succ before =>
      rw [position] at place
      have behind := below identifier (List.mem_of_getElem? place)
      have kept : first ∈ schema.encodedColumns := by
        rw [encoded]
        exact List.mem_cons_self
      obtain ⟨member, plain⟩ := mem_encodedColumns.mp kept
      refine iff_of_false (Nat.succ_ne_zero _) (fun each => ?_)
      have comment := each first member (by omega)
      rw [plain] at comment
      cases comment

theorem getElem?_fields_identifier {record : Record} (built : build sheet layout registry = .ok schema)
    (shapes : schema.rowLayout.Shapes record) :
    record.fields[schema.rowLayout.identifier]? = some ("Id", .integer .int record.id) :=
  List.getElem?_zip_eq_some.mpr ⟨getElem?_names_identifier built shapes, shapes.identifier⟩

end Schema

namespace Manifest

variable {manifest : Manifest} {table : String} {settings : TableSettings} {tree : FileTree}
  {sheet : Sheet} {schema : Schema} {text : String} {blob : List UInt8} {format : Option BlobFormat}
  {records : List Record}

theorem perform_inspect_summary (named : manifest.named table = .ok settings)
    (source : (runOn tree (readText settings.source)).1 = .ok text)
    (checked : checkSource .standard settings.options settings.layout text = .ok (sheet, schema))
    (held : tree.read settings.output = .ok blob)
    (decoded : schema.rowLayout.decode (format.getD settings.format) blob = .ok records)
    {id : Option Int} {found : List Record}
    (picked : Inspection.pick settings.name id records = .ok found) (debug : DebugTexts) :
    runOn tree ((Command.inspect table id format .summary).perform debug manifest) =
      (.ok (.success ((Inspection.mk settings.output blob.length (format.getD settings.format)
          schema.fingerprint found).head ++ unlines (s!"=== {found.length} rows ===" ::
            found.map (fun record => record.lineWithout 0)))), tree) := by
  have shown := runOn_inspect named source checked held id format
  rw [Inspection.ofBlob_of_decode decoded, picked] at shown
  exact perform_inspect shown debug .summary

/-- Inspecting an asset of a checked table prints a line for each row, which has the identifier and all
fields but the first one on the wire. The identifier's field is the one to leave out, and the line
without it is printed exactly if every column to the left of the identifier's is a comment. -/
theorem inspect_prints_lines (named : manifest.named table = .ok settings)
    (source : (runOn tree (readText settings.source)).1 = .ok text)
    (checked : checkSource .standard settings.options settings.layout text = .ok (sheet, schema))
    (held : tree.read settings.output = .ok blob)
    (decoded : schema.rowLayout.decode (format.getD settings.format) blob = .ok records) :
    (∀ debug id found, Inspection.pick settings.name id records = .ok found →
      runOn tree ((Command.inspect table id format .summary).perform debug manifest) =
        (.ok (.success ((Inspection.mk settings.output blob.length (format.getD settings.format)
            schema.fingerprint found).head ++ unlines (s!"=== {found.length} rows ===" ::
              found.map (fun record => record.lineWithout 0)))), tree)) ∧
    ∀ record ∈ records,
      record.fields[schema.rowLayout.identifier]? = some ("Id", .integer .int record.id) ∧
      (record.lineWithout 0 = record.lineWithout schema.rowLayout.identifier ↔
        ∀ column ∈ schema.columns, column.index < settings.layout.idColumn →
          column.isComment = true) := by
  obtain ⟨_, built, proper⟩ := checkSource_eq_ok.mp checked
  refine ⟨fun debug id found picked =>
    perform_inspect_summary named source checked held decoded picked debug, ?_⟩
  intro record member
  have shapes := RowLayout.shapes_of_decode decoded member
  have located := getElem?_fields_identifier built shapes
  have inside := (List.getElem?_eq_some_iff.mp located).1
  refine ⟨located, ?_⟩
  rw [Record.lineWithout_zero_eq_iff (unambiguous_of_shapes built proper shapes) inside,
    identifier_eq_zero_iff built]

def keyedTree : FileTree :=
  ⟨[(⟨.working 0, ["source".toList, "Armor.txt".toList]⟩, Text.Utf8.encode keyedText.toList),
      (⟨.working 0, ["bytes".toList, "Armor.bytes".toList]⟩, [0x03, 0x01, 0x61, 0x07])],
    [⟨.working 0, ["source".toList]⟩, ⟨.working 0, ["bytes".toList]⟩]⟩

def keyedManifest : Manifest :=
  ⟨⟨"source"⟩, ⟨"bytes"⟩,
    { TableDefaults.standard with
      layout := ⟨0, 1, none, none, 2, 2⟩
      format := .raw },
    [.plain ⟨"Armor", none⟩]⟩

theorem inspect_prints_lines_keyed : ∃ (head : String) (schema : Schema) (record : Record),
    runOn keyedTree ((Command.inspect "Armor" none none .summary).perform .json keyedManifest) =
      (.ok (.success (head ++ unlines ["=== 1 rows ===", record.lineWithout 0])), keyedTree) ∧
    record.fields[schema.rowLayout.identifier]? = some ("Id", .integer .int record.id) ∧
    record.lineWithout 0 ≠ record.lineWithout schema.rowLayout.identifier := by
  have runs : (keyedManifest.named "Armor").toOption.bind (fun settings =>
      (runOn keyedTree (readText settings.source)).1.toOption.bind (fun text =>
        (checkSource .standard settings.options settings.layout text).toOption.bind (fun source =>
          (keyedTree.read settings.output).toOption.bind (fun blob =>
            (source.2.rowLayout.decode (none.getD settings.format) blob).toOption.bind (fun records =>
              some (records.length, decide (∀ column ∈ source.2.columns,
                column.index < settings.layout.idColumn → column.isComment = true))))))) =
      some (1, false) := by decide +kernel
  obtain ⟨settings, named, runs⟩ := Traversal.toOption_bind_eq_some.mp runs
  obtain ⟨text, read, runs⟩ := Traversal.toOption_bind_eq_some.mp runs
  obtain ⟨⟨sheet, schema⟩, checked, runs⟩ := Traversal.toOption_bind_eq_some.mp runs
  obtain ⟨blob, held, runs⟩ := Traversal.toOption_bind_eq_some.mp runs
  obtain ⟨records, decoded, runs⟩ := Traversal.toOption_bind_eq_some.mp runs
  obtain ⟨count, labelled⟩ := Prod.mk.inj (Option.some.inj runs)
  obtain ⟨record, rfl⟩ := List.length_eq_one_iff.mp count
  obtain ⟨shown, each⟩ := inspect_prints_lines named read checked held decoded
  obtain ⟨identified, complete⟩ := each record List.mem_cons_self
  have printed := shown .json none [record] rfl
  have header : s!"=== {[record].length} rows ===" = "=== 1 rows ===" := by
    rw [List.length_singleton]
    decide
  rw [header] at printed
  exact ⟨_, schema, record, printed, identified,
    fun same => of_decide_eq_false labelled (complete.mp same)⟩

/-- The label of row 7 is not on its line. -/
theorem keyed_line_lacks_label : ∃ (sheet : Sheet) (schema : Schema) (record : Record),
    checkSource .standard .standard keyedLayout keyedText = .ok (sheet, schema) ∧
    schema.rowLayout.decode .raw [0x03, 0x01, 0x61, 0x07] = .ok [record] ∧
    record.summary = "  7 Id=7" ∧
    record.lineWithout schema.rowLayout.identifier = "  7 Label=a" := by
  have runs : (checkSource .standard .standard keyedLayout keyedText).toOption.bind (fun source =>
      (source.2.rowLayout.decode .raw [0x03, 0x01, 0x61, 0x07]).toOption.bind (fun records =>
        some (records.map (fun record =>
          (record.summary, record.lineWithout source.2.rowLayout.identifier))))) =
      some [("  7 Id=7", "  7 Label=a")] := by decide +kernel
  obtain ⟨⟨sheet, schema⟩, checked, runs⟩ := Traversal.toOption_bind_eq_some.mp runs
  obtain ⟨records, decoded, runs⟩ := Traversal.toOption_bind_eq_some.mp runs
  obtain ⟨record, rfl, lines⟩ := List.map_eq_singleton_iff.mp (Option.some.inj runs)
  obtain ⟨told, whole⟩ := Prod.mk.inj lines
  exact ⟨sheet, schema, record, checked, decoded, told, whole⟩

end Manifest

end GameSheet
