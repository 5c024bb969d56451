import GameSheet.Content.LoadedTable
import GameSheet.Proofs.Table.Indexing

/-!
Typed tables of records. Records are indexed first, so duplicates are told before any field, and only
the last record of each identifier is converted. No conversion changes an identifier: the rows of a
typed table stand under their own identifiers.
-/

namespace GameSheet

namespace DataTable

variable {ρ σ ε : Type} {table : DataTable ρ} {mapped : DataTable σ} {convert : ρ → Except ε σ}

def convertEntry (convert : ρ → Except ε σ) (entry : Int × ρ) : Except ε (Int × σ) :=
  (convert entry.2).map (fun row => (entry.1, row))

theorem mapRows_eq (convert : ρ → Except ε σ) (table : DataTable ρ) :
    table.mapRows convert = (table.rows.entries.mapM (convertEntry convert)).map
      (fun entries => ⟨⟨entries⟩, table.overridden⟩) := rfl

theorem toList_mapRows (convert : ρ → Except ε σ) (table : DataTable ρ) :
    (table.mapRows convert).map toList = table.toList.mapM convert := by
  have each : ∀ entry ∈ table.rows.entries,
      convert entry.2 = ((convertEntry convert entry).map Prod.snd).mapError id := by
    intro entry _
    rw [convertEntry]
    cases convert entry.2 <;> rfl
  rw [mapRows_eq, toList, OrderedMap.values, Traversal.mapM_renamed each]
  cases table.rows.entries.mapM (convertEntry convert) <;> rfl

theorem mapRows_eq_error {fault : ε} : table.mapRows convert = .error fault ↔
    ∃ front row back, table.toList = front ++ row :: back ∧
      (∀ earlier ∈ front, ∃ value, convert earlier = .ok value) ∧ convert row = .error fault := by
  rw [← Traversal.map_eq_error (f := toList), toList_mapRows, Traversal.mapM_eq_error]

theorem mapRows_eq_ok (done : table.mapRows convert = .ok mapped) :
    mapped.ids = table.ids ∧ mapped.overridden = table.overridden ∧
      List.Forall₂ (fun row value => convert row = .ok value) table.toList mapped.toList := by
  have rows : table.toList.mapM convert = .ok mapped.toList := by
    rw [← toList_mapRows, done]
    rfl
  rw [mapRows_eq] at done
  obtain ⟨entries, converted, rfl⟩ := Traversal.map_eq_ok.mp done
  refine ⟨?_, rfl, Traversal.mapM_eq_ok.mp rows⟩
  symm
  apply Traversal.map_eq_map_iff.mpr
  apply (Traversal.mapM_eq_ok.mp converted).imp
  intro entry placed converts
  obtain ⟨row, _, rfl⟩ := Traversal.map_eq_ok.mp converts
  rfl

namespace Indexes

variable {idOf : ρ → Int} {rows : List ρ} {other : DataTable ρ}

/-- Tables of the same rows have the same rows, whatever their policies. -/
theorem toList_eq (indexes : table.Indexes idOf rows) (again : other.Indexes idOf rows) :
    table.toList = other.toList := by
  have ids : table.ids = other.ids := by
    apply indexes.ids_ascending.eq_of_mem_iff again.ids_ascending
    intro id
    rw [indexes.mem_ids, again.mem_ids]
  have found : table.get? = other.get? := by
    funext id
    rw [indexes.last, again.last]
  apply List.map_injective_iff.mpr (Option.some_injective ρ)
  rw [← indexes.map_get?, ← again.map_get?, ids, found]

end Indexes

end DataTable

namespace TableKind

def Gives {ε α : Type} (property : α → Prop) (result : Except ε α) : Prop :=
  ∀ value, result = .ok value → property value

section Gives

variable {ε α β : Type} {property : β → Prop}

theorem Gives.bind {result : Except ε α} {next : α → Except ε β}
    (each : ∀ value, Gives property (next value)) : Gives property (result >>= next) := by
  intro value done
  obtain ⟨first, _, rest⟩ := Traversal.bind_eq_ok.mp done
  exact each first value rest

theorem gives_pure {value : β} (holds : property value) :
    Gives property (pure value : Except ε β) := by
  intro other same
  rwa [← Except.ok.inj same]

end Gives

theorem rowOfRecord_gives (kind : TableKind) (record : Record) :
    Gives (fun row => kind.rowId row = record.id.toInt) (kind.rowOfRecord record) := by
  cases kind
  all_goals
    simp only [rowOfRecord, AircraftRow.ofRecord, ArmorRow.ofRecord, AsteroidRow.ofRecord,
      EntityRow.ofRecord, MusicRow.ofRecord, SceneRow.ofRecord, SoundRow.ofRecord,
      ThrusterRow.ofRecord, UiFormRow.ofRecord, UiSoundRow.ofRecord, WeaponRow.ofRecord,
      UpgradeRow.ofRecord]
    repeat
      with_reducible apply Gives.bind
      intro
    exact gives_pure rfl

variable {kind : TableKind} {policy : DuplicateIdPolicy} {records : List Record}
  {indexed : DataTable Record} {table : DataTable kind.Row}

theorem build_of_index_error {cause : IndexError}
    (failed : DataTable.ofRows (fun record => record.id.toInt) policy records = .error cause) :
    kind.build policy records = .error (.index cause) := by
  rw [build, failed]
  rfl

section Indexed

variable (done : DataTable.ofRows (fun record => record.id.toInt) policy records = .ok indexed)

include done

theorem build_of_index :
    kind.build policy records = (indexed.mapRows kind.rowOfRecord).mapError .field := by
  rw [build, done]
  rfl

/-- Records that were indexed fail as the first of those that stayed that does not convert. -/
theorem build_eq_error {fault : RowBuildError} :
    kind.build policy records = .error fault ↔
      ∃ front record back cause, indexed.toList = front ++ record :: back ∧
        (∀ earlier ∈ front, ∃ row, kind.rowOfRecord earlier = .ok row) ∧
        kind.rowOfRecord record = .error cause ∧ fault = .field cause := by
  rw [build_of_index done, Traversal.mapError_eq_error]
  constructor
  · rintro ⟨cause, failed, rfl⟩
    obtain ⟨front, record, back, split, earlier, first⟩ := DataTable.mapRows_eq_error.mp failed
    exact ⟨front, record, back, cause, split, earlier, first, rfl⟩
  · rintro ⟨front, record, back, cause, split, earlier, first, rfl⟩
    exact ⟨cause, DataTable.mapRows_eq_error.mpr ⟨front, record, back, split, earlier, first⟩, rfl⟩

theorem build_eq_ok (built : kind.build policy records = .ok table) :
    table.ids = indexed.ids ∧ table.overridden = indexed.overridden ∧
      List.Forall₂ (fun record row => kind.rowOfRecord record = .ok row) indexed.toList
        table.toList := by
  rw [build_of_index done] at built
  exact DataTable.mapRows_eq_ok (Traversal.mapError_eq_ok.mp built)

theorem rowId_of_entry (built : kind.build policy records = .ok table) :
    ∀ entry ∈ table.rows.entries, kind.rowId entry.2 = entry.1 := by
  obtain ⟨ids, _, converted⟩ := build_eq_ok done built
  have rows : table.toList.map kind.rowId = table.ids := by
    rw [ids, ← (DataTable.indexes_ofRows done).map_idOf]
    symm
    apply Traversal.map_eq_map_iff.mpr
    apply converted.imp
    intro record row taken
    exact (rowOfRecord_gives kind record row taken).symm
  unfold DataTable.toList DataTable.ids OrderedMap.values OrderedMap.keys at rows
  rw [List.map_map] at rows
  exact List.map_inj_left.mp rows

end Indexed

/-- Whatever the kind and the records: where duplicates are rejected and there are some, the first
identifier that comes again is told, whatever else is wrong. Otherwise the last record of every
identifier is converted, in ascending order, up to the first that does not convert; a table that comes
about has the rows of these records under their own identifiers, and the identifiers that were replaced
are those of the index. -/
theorem build_by_identifier (kind : TableKind) (records : List Record) :
    let idOf : Record → Int := fun record => record.id.toInt
    (¬(records.map idOf).Nodup → ∃ front record back, records = front ++ record :: back ∧
      (front.map idOf).Nodup ∧ idOf record ∈ front.map idOf ∧
      kind.build .reject records = .error (.index (.duplicateId (idOf record)))) ∧
    ∃ latest : List Record,
      (latest.map idOf).Pairwise (· < ·) ∧
      (∀ record, record ∈ latest ↔
        (records.filter (fun other => idOf other = idOf record)).getLast? = some record) ∧
      ∀ policy, (policy = .reject → (records.map idOf).Nodup) →
        (∀ fault, kind.build policy records = .error fault ↔
          ∃ front record back cause, latest = front ++ record :: back ∧
            (∀ earlier ∈ front, ∃ row, kind.rowOfRecord earlier = .ok row) ∧
            kind.rowOfRecord record = .error cause ∧ fault = .field cause) ∧
        ∀ table, kind.build policy records = .ok table →
          List.Forall₂ (fun record row => kind.rowOfRecord record = .ok row) latest table.toList ∧
          (∀ entry ∈ table.rows.entries, kind.rowId entry.2 = entry.1) ∧
          table.ids.Pairwise (· < ·) ∧
          (∀ id, id ∈ table.ids ↔ id ∈ records.map idOf) ∧
          ∃ indexed, DataTable.ofRows idOf policy records = .ok indexed ∧
            table.overridden = indexed.overridden := by
  intro idOf
  have made : ∃ indexed, DataTable.ofRows idOf .override records = .ok indexed :=
    DataTable.exists_ofRows (by simp)
  obtain ⟨replacing, replaced⟩ := made
  have indexes := DataTable.indexes_ofRows replaced
  refine ⟨fun repeated => ?_, replacing.toList, ?_, fun record => ?_, fun policy fits => ?_⟩
  · obtain ⟨front, record, back, rfl, distinct, again⟩ := DataTable.exists_first_repeat repeated
    refine ⟨front, record, back, rfl, distinct, again, ?_⟩
    exact build_of_index_error (DataTable.ofRows_duplicate distinct again)
  · rw [indexes.map_idOf]
    exact indexes.ids_ascending
  · rw [indexes.mem_toList, indexes.last]
  · obtain ⟨indexed, done⟩ := DataTable.exists_ofRows fits
    have again := DataTable.indexes_ofRows done
    rw [indexes.toList_eq again]
    refine ⟨fun fault => build_eq_error done, fun table built => ?_⟩
    obtain ⟨ids, overridden, converted⟩ := build_eq_ok done built
    refine ⟨converted, rowId_of_entry done built, ?_, fun id => ?_, indexed, done, overridden⟩
    · rw [ids]
      exact again.ids_ascending
    · rw [ids, again.mem_ids]

end TableKind

end GameSheet
