import GameSheet.Proofs.Codec.Laws
import GameSheet.Proofs.Table.Rows

/-!
Blobs that decode, written again. The records of a raw blob can be written back field by field; the
blob that comes of it has the same records and is the one they came from unless it is shorter. What
a decoder lets pass beyond that are numerals with more bytes than they need.
-/

namespace GameSheet.RowLayout

open Wire

def Standard (layout : RowLayout) : Prop :=
  ∀ field ∈ layout.fields, ∃ type : ColumnType, field.codec = type.codec

def writeFields : List Field → List Value → Except PartialWrite (List UInt8)
  | field :: fields, value :: values => do
    let front ← field.codec.write value
    let back ← writeFields fields values
    return front ++ back
  | _, _ => return []

def writeRecords (layout : RowLayout) : List Record → Except PartialWrite (List UInt8)
  | [] => return []
  | record :: records => do
    let row ← writeFields layout.fields record.values
    let rest ← layout.writeRecords records
    return Frame.encode row ++ rest

/-- Fields that were read canonically are written back as parts that read alike. -/
theorem writeFields_read {fields : List Field} {parts : List (List UInt8 × Value)}
    (faithful : ∀ field ∈ fields, field.codec.Faithful)
    (read : List.Forall₂ (fun field part => ∃ written, field.codec.write part.2 = .ok written ∧
      Shortens written part.1) fields parts) :
    ∃ again : List (List UInt8 × Value),
      writeFields fields (parts.map Prod.snd) = .ok (again.flatMap Prod.fst) ∧
      again.map Prod.snd = parts.map Prod.snd ∧
      List.Forall₂ (fun field part => field.codec.read.Yields part.1 part.2) fields again ∧
      Shortens (again.flatMap Prod.fst) (parts.flatMap Prod.fst) := by
  induction read with
  | nil => exact ⟨[], rfl, rfl, List.Forall₂.nil, Or.inl rfl⟩
  | @cons field part fields parts first _ ih =>
    obtain ⟨front, written, shorter⟩ := first
    obtain ⟨again, back, values, yields, shortens⟩ :=
      ih (fun other member => faithful other (List.mem_cons_of_mem field member))
    refine ⟨(front, part.2) :: again, ?_, ?_, ?_, shorter.append shortens⟩
    · rw [List.map_cons, writeFields, written, back]
      rfl
    · rw [List.map_cons, List.map_cons, values]
    · exact List.Forall₂.cons (faithful field List.mem_cons_self part.2 front written) yields

variable {layout : RowLayout}

theorem writeFields_decodes (standard : layout.Standard) {row : List UInt8} {record : Record}
    (decodes : layout.Decodes row record) :
    ∃ again, writeFields layout.fields record.values = .ok again ∧ layout.Decodes again record ∧
      Shortens again row := by
  obtain ⟨last, read, done, holds⟩ := decodes
  have canonical : ∀ field ∈ layout.fields, field.codec.read.Accepts (fun taken value =>
      ∃ written, field.codec.write value = .ok written ∧ Shortens written taken) := by
    intro field member
    obtain ⟨type, same⟩ := standard field member
    rw [same]
    exact type.codec_canonical
  have faithful : ∀ field ∈ layout.fields, field.codec.Faithful := by
    intro field member
    obtain ⟨type, same⟩ := standard field member
    rw [same]
    exact type.codec_faithful
  obtain ⟨taken, ⟨parts, rfl, values, related⟩, split, _⟩ :=
    accepts_values canonical _ _ _ read
  have whole : row = parts.flatMap Prod.fst := by
    have unread := congrArg Cursor.unread split
    rw [done, List.append_nil] at unread
    exact unread
  obtain ⟨again, written, same, yields, shortens⟩ := writeFields_read faithful related
  refine ⟨again.flatMap Prod.fst, ?_, ?_, ?_⟩
  · rw [values, written]
  · apply decodes_of_yields yields
    rw [same, ← values]
    exact holds
  · rw [whole]
    exact shortens

theorem writeRecords_stream (standard : layout.Standard) {forms : List Frame.Form}
    {records : List Record}
    (decoded : List.Forall₂ (fun form record => layout.Decodes form.row record) forms records) :
    ∃ again, layout.writeRecords records = .ok (Frame.stream again) ∧
      List.Forall₂ (fun form record => layout.Decodes form.row record) again records ∧
      Shortens (Frame.stream again) (Frame.stream forms) := by
  induction decoded with
  | nil => exact ⟨[], rfl, List.Forall₂.nil, Or.inl rfl⟩
  | @cons form record forms records first _ ih =>
    obtain ⟨row, written, decodes, shorter⟩ := writeFields_decodes standard first
    obtain ⟨again, rest, related, shortens⟩ := ih
    have short : row.length < 2 ^ 32 :=
      Nat.lt_of_le_of_lt shorter.length_le form.announces.lt_bits
    refine ⟨.ofRow row short :: again, ?_, List.Forall₂.cons decodes related, ?_⟩
    · rw [writeRecords, written, rest]
      rfl
    · rw [Frame.stream_cons, Frame.stream_cons]
      exact (form.ofRow_shortens short shorter).append shortens

/-- The records of a raw blob written back are a blob of the same records. It takes no more bytes
than the first, and with as many it is the first. -/
theorem decode_writeRecords (standard : layout.Standard) {blob : List UInt8} {records : List Record}
    (decoded : layout.decode .raw blob = .ok records) :
    ∃ again, layout.writeRecords records = .ok again ∧ layout.decode .raw again = .ok records ∧
      again.length ≤ blob.length ∧ (again = blob ↔ again.length = blob.length) := by
  obtain ⟨forms, rfl, related⟩ := decode_raw_eq_ok.mp decoded
  obtain ⟨again, written, decodes, shortens⟩ := writeRecords_stream standard related
  refine ⟨Frame.stream again, written, ?_, shortens.length_le, shortens.eq_iff⟩
  exact decode_raw_eq_ok.mpr ⟨again, rfl, decodes⟩

def labels : RowLayout where
  fields := [⟨"Id", 0, .id⟩, ⟨"Label", 1, .string⟩]
  identifier := 0
  single := rfl
  named := by simp [Codec.string, Codec.id, identifierName]

theorem labels_standard : labels.Standard := by
  intro field member
  rcases List.mem_cons.mp member with rfl | other
  · exact ⟨.id, rfl⟩
  · rcases List.mem_singleton.mp other with rfl
    exact ⟨.string, rfl⟩

def labelled (id : Number.Bounded .int) (label : String) : Record :=
  ⟨id, labels.names, [.integer .int id, .string label]⟩

def longLabel : List UInt8 := [0x85, 0x00, 0x85, 0x00, 0x81, 0x00, 0x61]

theorem decode_writeRecords_longLabel :
    labels.decode .raw longLabel = .ok [labelled ⟨5, by decide, by decide⟩ "a"] ∧
      ∃ again, labels.writeRecords [labelled ⟨5, by decide, by decide⟩ "a"] = .ok again ∧
        again = [0x03, 0x05, 0x01, 0x61] ∧
        labels.decode .raw again = .ok [labelled ⟨5, by decide, by decide⟩ "a"] ∧
        again.length ≤ longLabel.length ∧ (again = longLabel ↔ again.length = longLabel.length) := by
  have decoded : labels.decode .raw longLabel = .ok [labelled ⟨5, by decide, by decide⟩ "a"] := by
    decide +kernel
  have short : labels.writeRecords [labelled ⟨5, by decide, by decide⟩ "a"] =
      .ok [0x03, 0x05, 0x01, 0x61] := by decide +kernel
  obtain ⟨again, written, rest⟩ := decode_writeRecords labels_standard decoded
  rw [short] at written
  exact ⟨decoded, again, short.trans written, (Except.ok.inj written).symm, rest⟩

end GameSheet.RowLayout
