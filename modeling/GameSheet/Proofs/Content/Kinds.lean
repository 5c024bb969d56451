import GameSheet.Content.LoadedTable
import GameSheet.Proofs.Table.OtherLayouts

/-!
Fingerprinted assets under another kind. The fingerprint is one of columns, not of a row type: an
asset of one kind is refused as another exactly when the two kinds have different columns, and two of
the kinds have the same.
-/

namespace GameSheet.TableKind

theorem mem_all (kind : TableKind) : kind ∈ all := by
  cases kind <;> decide

/-- Kinds whose assets cannot be told apart. -/
def Interchangeable (kind other : TableKind) : Prop :=
  kind = other ∨ (kind = .entity ∧ other = .music) ∨ (kind = .music ∧ other = .entity)

instance (kind other : TableKind) : Decidable (kind.Interchangeable other) :=
  inferInstanceAs (Decidable (_ ∨ _))

theorem columns_eq_iff {kind other : TableKind} :
    kind.columns = other.columns ↔ kind.Interchangeable other := by
  have pairs : ∀ kind ∈ all, ∀ other ∈ all,
      (kind.columns = other.columns ↔ kind.Interchangeable other) := by decide
  exact pairs kind (mem_all kind) other (mem_all other)

/-- On the columns of the kinds the truncated digest does not collide. -/
theorem columns_of_fingerprint {kind other : TableKind}
    (same : Fingerprint.of kind.columns = Fingerprint.of other.columns) :
    kind.columns = other.columns := by
  have pairs : ∀ kind ∈ all, ∀ other ∈ all,
      Fingerprint.of kind.columns = Fingerprint.of other.columns → kind.columns = other.columns := by
    decide +kernel
  exact pairs kind (mem_all kind) other (mem_all other) same

theorem exists_layout (kind : TableKind) : ∃ layout, kind.layout .standard = .ok layout ∧
    layout.Standard ∧ layout.signature = kind.columns := by
  have declared : ∀ kind ∈ all,
      (kind.layout .standard).toOption.bind (fun layout => some layout.signature) =
        some kind.columns := by decide +kernel
  obtain ⟨layout, made, fields⟩ :=
    Traversal.toOption_bind_eq_some.mp (declared kind (mem_all kind))
  exact ⟨layout, made, RowLayout.declare_standard made, Option.some.inj fields⟩

/-- A fingerprinted blob of one kind has the same records under an interchangeable kind, and under
every other kind it is a mismatch. -/
theorem decode_as_other (kind other : TableKind) : ∃ layout expected,
    kind.layout .standard = .ok layout ∧ other.layout .standard = .ok expected ∧
      ∀ blob records, layout.decode .fingerprinted blob = .ok records →
        (kind.Interchangeable other → expected.decode .fingerprinted blob = .ok records) ∧
        (¬kind.Interchangeable other → expected.decode .fingerprinted blob =
          .error (.fingerprintMismatch expected.fingerprint layout.fingerprint)) := by
  obtain ⟨layout, made, standard, fields⟩ := exists_layout kind
  obtain ⟨expected, declared, likewise, columns⟩ := exists_layout other
  refine ⟨layout, expected, made, declared, ?_⟩
  intro blob records decoded
  constructor
  · intro twins
    have same : layout.signature = expected.signature := by
      rw [fields, columns, columns_eq_iff.mpr twins]
    rwa [← RowLayout.decode_congr (RowLayout.alike_of_signature standard likewise same)]
  · intro different
    have apart : layout.fingerprint ≠ expected.fingerprint := by
      intro same
      rw [RowLayout.fingerprint, RowLayout.fingerprint, fields, columns] at same
      exact different (columns_eq_iff.mp (columns_of_fingerprint same))
    obtain ⟨rows, rfl, _⟩ := RowLayout.decode_eq_ok.mp decoded
    exact RowLayout.decode_mismatch apart rows

def assetBlob : List UInt8 :=
  BlobFormat.magic ++ [0x77, 0xaf, 0xb0, 0xf3, 0x42, 0xeb, 0x6f, 0x27] ++ [0x03, 0x01, 0x01, 0x61]

theorem decode_as_other_thruster : ∃ layout expected records,
    TableKind.music.layout .standard = .ok layout ∧
      TableKind.thruster.layout .standard = .ok expected ∧
      layout.decode .fingerprinted assetBlob = .ok records ∧ records.length = 1 ∧
      expected.decode .fingerprinted assetBlob =
        .error (.fingerprintMismatch expected.fingerprint layout.fingerprint) := by
  have runs : (TableKind.music.layout .standard).toOption.bind (fun layout =>
      (layout.decode .fingerprinted assetBlob).toOption.bind (fun records =>
        some records.length)) = some 1 := by decide +kernel
  obtain ⟨layout, made, runs⟩ := Traversal.toOption_bind_eq_some.mp runs
  obtain ⟨records, decoded, count⟩ := Traversal.toOption_bind_eq_some.mp runs
  obtain ⟨own, expected, again, declared, both⟩ := decode_as_other .music .thruster
  rw [Except.ok.inj (again.symm.trans made)] at both
  obtain ⟨_, refused⟩ := both assetBlob records decoded
  exact ⟨layout, expected, records, made, declared, decoded, Option.some.inj count,
    refused (by decide)⟩

/-- An asset of entities is read as one of music. -/
theorem decode_entity_as_music : ∃ layout expected records,
    TableKind.entity.layout .standard = .ok layout ∧
      TableKind.music.layout .standard = .ok expected ∧
      layout.decode .fingerprinted assetBlob = .ok records ∧ records.length = 1 ∧
      expected.decode .fingerprinted assetBlob = .ok records := by
  have runs : (TableKind.entity.layout .standard).toOption.bind (fun layout =>
      (TableKind.music.layout .standard).toOption.bind (fun expected =>
      (layout.decode .fingerprinted assetBlob).toOption.bind (fun records =>
      (expected.decode .fingerprinted assetBlob).toOption.bind (fun read =>
        some (records.length, decide (read = records)))))) = some (1, true) := by decide +kernel
  obtain ⟨layout, made, runs⟩ := Traversal.toOption_bind_eq_some.mp runs
  obtain ⟨expected, declared, runs⟩ := Traversal.toOption_bind_eq_some.mp runs
  obtain ⟨records, decoded, runs⟩ := Traversal.toOption_bind_eq_some.mp runs
  obtain ⟨read, accepted, runs⟩ := Traversal.toOption_bind_eq_some.mp runs
  obtain ⟨count, same⟩ := Prod.mk.inj (Option.some.inj runs)
  rw [of_decide_eq_true same] at accepted
  exact ⟨layout, expected, records, made, declared, decoded, count, accepted⟩

end GameSheet.TableKind
