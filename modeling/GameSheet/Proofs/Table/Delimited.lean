import GameSheet.Proofs.Table.Canonical
import GameSheet.Proofs.Wire.Locality

/-!
Rows tell their own end. The codecs of the standard types are local readers, so where the fields of a
row end does not depend on what follows. Bytes behind a row that decodes are left over, and a row that
lacks some of its bytes fails in the field whose bytes end too early.
-/

namespace GameSheet

open Wire Wire.Reader

namespace Codec

theorem local_readInteger (kind : Number.IntegerKind) : Local (readInteger kind) := by
  unfold readInteger
  split
  · exact (local_fixed _).map _
  · exact (local_varint _).map _

theorem local_readSingle : Local readSingle := (local_fixed 4).map _

theorem local_readSingles (count : Nat) : Local (readSingles count) := by
  induction count with
  | zero => exact local_pure _
  | succ count ih =>
    exact ih.bind (fun earlier => local_readSingle.bind (fun bits => local_pure _))

end Codec

theorem ColumnType.codec_local (type : ColumnType) : Local type.codec.read := by
  cases type with
  | id => exact (Codec.local_readInteger .int).map _
  | bool => exact local_bool.map _
  | integer kind => exact (Codec.local_readInteger kind).map _
  | float => exact Codec.local_readSingle.map _
  | double => exact (local_fixed 8).map _
  | char => exact local_char.map _
  | string => exact local_string.map _
  | datetime => exact (local_fixed 8).map _
  | tuple shape => exact (Codec.local_readSingles shape.arity).map _
  | color32 => exact (local_fixed 4).bind (fun pattern => local_pure _)
  | comment => exact local_throw _

namespace RowLayout

variable {layout : RowLayout} {fields : List Field} {ordinal position : Nat} {bytes : List UInt8}

theorem readFields_append_ok (heeds : ∀ field ∈ fields, Local field.codec.read)
    {values : List Value} {last : Cursor}
    (read : readFields ordinal fields ⟨position, bytes⟩ = .ok (values, last)) (suffix : List UInt8) :
    readFields ordinal fields ⟨position, bytes ++ suffix⟩ =
      .ok (values, ⟨last.position, last.unread ++ suffix⟩) := by
  induction fields generalizing position bytes values with
  | nil =>
    obtain ⟨rfl, rfl⟩ := Prod.mk.inj (Except.ok.inj read)
    rfl
  | cons field fields ih =>
    obtain ⟨first, later⟩ := List.forall_mem_cons.mp heeds
    rw [readFields] at read ⊢
    cases taken : field.codec.read ⟨position, bytes⟩ with
    | error fault next => simp [taken] at read
    | ok value next =>
      rw [taken] at read
      obtain ⟨⟨rest, stop⟩, tail, same⟩ := Traversal.map_eq_ok.mp read
      obtain ⟨rfl, rfl⟩ := Prod.mk.inj same
      simp only [first.ok taken suffix, ih later tail, Except.map]

/-- Fields that cannot be read cannot be read in front of other bytes, or they lack bytes. -/
theorem readFields_append_error (heeds : ∀ field ∈ fields, Local field.codec.read)
    {fault : DecodeError} (failed : readFields ordinal fields ⟨position, bytes⟩ = .error fault)
    (suffix : List UInt8) :
    (∃ field ∈ fields, ∃ cause : ReadError, cause.Ended ∧ fault = .field ordinal field.name cause) ∨
      readFields ordinal fields ⟨position, bytes ++ suffix⟩ = .error fault := by
  induction fields generalizing position bytes with
  | nil => simp [readFields] at failed
  | cons field fields ih =>
    obtain ⟨first, later⟩ := List.forall_mem_cons.mp heeds
    rw [readFields] at failed ⊢
    cases taken : field.codec.read ⟨position, bytes⟩ with
    | error cause next =>
      rw [taken] at failed
      obtain rfl := Except.error.inj failed
      rcases first.error taken suffix with ended | ⟨after, same⟩
      · exact Or.inl ⟨field, List.mem_cons_self, cause, ended, rfl⟩
      · exact Or.inr (by rw [same])
    | ok value next =>
      rw [taken] at failed
      have tail := Traversal.map_eq_error.mp failed
      rw [first.ok taken suffix]
      rcases ih later tail with ⟨other, member, ended⟩ | same
      · exact Or.inl ⟨other, List.mem_cons_of_mem field member, ended⟩
      · exact Or.inr (Traversal.map_eq_error.mpr same)

theorem decodeRow_of_read {row : List UInt8} {values : List Value} {last : Cursor}
    (read : readFields ordinal layout.fields (Cursor.start row) = .ok (values, last)) :
    layout.decodeRow ordinal row =
      if last.atEnd then layout.record ordinal values
      else .error (.trailingBytes ordinal last.remaining) := by
  rw [decodeRow, read]
  rfl

theorem decodeRow_of_error {row : List UInt8} {fault : DecodeError}
    (failed : readFields ordinal layout.fields (Cursor.start row) = .error fault) :
    layout.decodeRow ordinal row = .error fault := by
  rw [decodeRow, failed]
  rfl

theorem Standard.heeds (standard : layout.Standard) :
    ∀ field ∈ layout.fields, Local field.codec.read := by
  intro field member
  obtain ⟨type, same⟩ := standard field member
  rw [same]
  exact type.codec_local

/-- Bytes behind a row that decodes are reported as left over, and every part from the front of the
row short of all of it fails in a field whose bytes end too early. -/
theorem decodeRow_delimited (standard : layout.Standard) {row : List UInt8} {record : Record}
    (decoded : layout.decodeRow ordinal row = .ok record) :
    (∀ suffix ≠ [], layout.decodeRow ordinal (row ++ suffix) =
      .error (.trailingBytes ordinal suffix.length)) ∧
    ∀ front, front <+: row → front ≠ row → ∃ field ∈ layout.fields, ∃ cause : ReadError,
      cause.Ended ∧ layout.decodeRow ordinal front = .error (.field ordinal field.name cause) := by
  obtain ⟨last, values, done, _⟩ := decodeRow_eq_ok.mp decoded
  have read : readFields ordinal layout.fields (Cursor.start row) = .ok (record.values, last) :=
    readFields_eq_ok.mpr values
  constructor
  · intro suffix some
    have more := readFields_append_ok standard.heeds read suffix
    have left : Cursor.atEnd ⟨last.position, last.unread ++ suffix⟩ = false := by
      simpa [Cursor.atEnd, done] using some
    rw [decodeRow_of_read more, left, if_neg Bool.false_ne_true, Cursor.remaining, done,
      List.nil_append]
  · rintro front ⟨back, rfl⟩ short
    cases taken : readFields ordinal layout.fields (Cursor.start front) with
    | ok pair =>
      -- Then the whole row would read the same, with the bytes cut off left over.
      have whole := readFields_append_ok standard.heeds taken back
      rw [Cursor.start] at read
      rw [read] at whole
      obtain ⟨_, rfl⟩ := Prod.mk.inj (Except.ok.inj whole)
      obtain ⟨_, rfl⟩ := List.append_eq_nil_iff.mp done
      exact absurd (List.append_nil front).symm short
    | error fault =>
      rcases readFields_append_error standard.heeds taken back with ⟨field, member, ended⟩ | same
      · obtain ⟨cause, ended, rfl⟩ := ended
        exact ⟨field, member, cause, ended, decodeRow_of_error taken⟩
      · rw [Cursor.start, same] at read
        cases read

/-- The row of a label of two bytes, between whose bytes it is cut. -/
theorem decodeRow_delimited_label :
    labels.decodeRow 3 [0x05, 0x02, 0xC3, 0xA9, 0x00, 0x00] = .error (.trailingBytes 3 2) ∧
      ∃ field ∈ labels.fields, ∃ cause : ReadError, cause.Ended ∧
        labels.decodeRow 3 [0x05, 0x02, 0xC3] = .error (.field 3 field.name cause) := by
  have decoded : labels.decodeRow 3 [0x05, 0x02, 0xC3, 0xA9] =
      .ok (labelled ⟨5, by decide, by decide⟩ "é") := by decide +kernel
  obtain ⟨longer, shorter⟩ := decodeRow_delimited labels_standard decoded
  exact ⟨longer [0x00, 0x00] (by decide), shorter [0x05, 0x02, 0xC3] (by decide) (by decide)⟩

end RowLayout

end GameSheet
