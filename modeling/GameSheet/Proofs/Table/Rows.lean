import GameSheet.Proofs.Table.Header
import GameSheet.Proofs.Table.Stream
import GameSheet.Proofs.Traversal
import GameSheet.Proofs.Wire.Reader
import GameSheet.Table.Decode

/-!
Rows and tables that decode. A row decodes when its fields, read one after another, take all of its
bytes and give an identifier; a row stream decodes when it consists of frames whose rows do. Neither
depends on the numbers that only go into errors.
-/

namespace GameSheet.RowLayout

open Wire

def valuesReader (fields : List Field) : Reader (List Value) :=
  fields.mapM (fun field => field.codec.read)

theorem readFields_eq_ok {row : Nat} {fields : List Field} {cursor last : Cursor}
    {values : List Value} : readFields row fields cursor = .ok (values, last) ↔
      valuesReader fields cursor = .ok values last := by
  induction fields generalizing cursor values with
  | nil =>
    rw [readFields, valuesReader, List.mapM_nil]
    change Except.ok ([], cursor) = _ ↔ EStateM.Result.ok [] cursor = _
    simp
  | cons field fields ih =>
    rw [readFields, valuesReader, List.mapM_cons, Reader.bind_eq_ok]
    cases read : field.codec.read cursor with
    | error fault next => simp
    | ok value next =>
      rw [Traversal.map_eq_ok]
      constructor
      · intro given
        rcases given with ⟨⟨later, stop⟩, rest, same⟩
        obtain ⟨rfl, rfl⟩ := Prod.mk.inj same
        refine ⟨value, next, rfl, Reader.bind_eq_ok.mpr ⟨later, stop, ih.mp rest, rfl⟩⟩
      · intro given
        rcases given with ⟨_, _, head, rest⟩
        obtain ⟨rfl, rfl⟩ := EStateM.Result.ok.inj head
        obtain ⟨later, stop, tail, same⟩ := Reader.bind_eq_ok.mp rest
        obtain ⟨rfl, rfl⟩ := EStateM.Result.ok.inj same
        exact ⟨(later, stop), ih.mpr tail, rfl⟩

theorem yields_values {fields : List Field} {parts : List (List UInt8 × Value)}
    (related : List.Forall₂ (fun field part => field.codec.read.Yields part.1 part.2) fields parts) :
    (valuesReader fields).Yields (parts.flatMap Prod.fst) (parts.map Prod.snd) := by
  unfold valuesReader
  induction related with
  | nil => exact Reader.yields_pure []
  | cons first _ ih =>
    rw [List.mapM_cons, List.flatMap_cons, List.map_cons]
    exact first.bind (ih.finish (Reader.yields_pure _))

theorem accepts_values {law : Field → List UInt8 → Value → Prop} {fields : List Field}
    (each : ∀ field ∈ fields, field.codec.read.Accepts (law field)) :
    (valuesReader fields).Accepts (fun bytes values => ∃ parts : List (List UInt8 × Value),
      bytes = parts.flatMap Prod.fst ∧ values = parts.map Prod.snd ∧
        List.Forall₂ (fun field part => law field part.1 part.2) fields parts) := by
  unfold valuesReader
  induction fields with
  | nil =>
    apply (Reader.accepts_pure []).imp
    intro bytes values given
    rcases given with ⟨rfl, rfl⟩
    exact ⟨[], rfl, rfl, List.Forall₂.nil⟩
  | cons field fields ih =>
    rw [List.mapM_cons]
    have first := each field List.mem_cons_self
    have later := ih (fun other member => each other (List.mem_cons_of_mem field member))
    apply (first.bind (fun value => later.bind (fun values => Reader.accepts_pure _))).imp
    intro _ _ given
    rcases given with ⟨head, _, value, rfl, held, tail, _, values, rfl, ⟨parts, rfl, rfl, rest⟩, rfl, rfl⟩
    refine ⟨(head, value) :: parts, ?_, rfl, List.Forall₂.cons held rest⟩
    rw [List.flatMap_cons, List.append_nil]

variable {layout : RowLayout}

def Holds (layout : RowLayout) (values : List Value) (record : Record) : Prop :=
  values[layout.identifier]? = some (.integer .int record.id) ∧ record.names = layout.names ∧
    record.values = values

theorem record_eq_ok {row : Nat} {values : List Value} {record : Record} :
    layout.record row values = .ok record ↔ layout.Holds values record := by
  unfold RowLayout.record Holds
  constructor
  · intro built
    split at built
    next id found =>
      rw [← Except.ok.inj built]
      exact ⟨found, rfl, rfl⟩
    · simp at built
    · simp at built
  · intro given
    rcases given with ⟨found, names, same⟩
    rw [found]
    simp only [← names, ← same]

def Decodes (layout : RowLayout) (row : List UInt8) (record : Record) : Prop :=
  ∃ last, valuesReader layout.fields (Cursor.start row) = .ok record.values last ∧
    last.unread = [] ∧ layout.Holds record.values record

theorem decodeRow_eq_ok {ordinal : Nat} {row : List UInt8} {record : Record} :
    layout.decodeRow ordinal row = .ok record ↔ layout.Decodes row record := by
  unfold decodeRow Decodes
  rw [Traversal.bind_eq_ok]
  constructor
  · intro given
    rcases given with ⟨⟨values, last⟩, read, rest⟩
    simp only at rest
    split at rest
    next done =>
      have holds := record_eq_ok.mp rest
      have same := holds.2.2
      rw [same]
      exact ⟨last, readFields_eq_ok.mp read, List.isEmpty_iff.mp done, holds⟩
    next => simp [throw, throwThe, MonadExceptOf.throw] at rest
  · intro given
    rcases given with ⟨last, read, done, holds⟩
    refine ⟨(record.values, last), readFields_eq_ok.mpr read, ?_⟩
    have atEnd : last.atEnd = true := by rw [Cursor.atEnd, done, List.isEmpty_nil]
    simp only [if_pos atEnd]
    exact record_eq_ok.mpr holds

theorem decodes_of_yields {parts : List (List UInt8 × Value)} {record : Record}
    (related : List.Forall₂ (fun field part => field.codec.read.Yields part.1 part.2)
      layout.fields parts) (holds : layout.Holds (parts.map Prod.snd) record) :
    layout.Decodes (parts.flatMap Prod.fst) record := by
  have same := holds.2.2
  have read := yields_values related 0 []
  rw [List.append_nil, ← same] at read
  rw [← same] at holds
  exact ⟨_, read, rfl, holds⟩

theorem decodeFrame_ok {ordinal : Nat} {row : List UInt8} {record : Record} :
    layout.decodeFrame (.ok (ordinal, row)) = .ok record ↔ layout.Decodes row record :=
  decodeRow_eq_ok

theorem numbered_eq_ok {ordinal : Nat} {forms : List Frame.Form} {records : List Record} :
    (Frame.numbered ordinal forms).mapM layout.decodeFrame = .ok records ↔
      List.Forall₂ (fun form record => layout.Decodes form.row record) forms records := by
  rw [Traversal.mapM_eq_ok]
  induction forms generalizing ordinal records with
  | nil => simp [Frame.numbered]
  | cons form forms ih =>
    rw [Frame.numbered, List.forall₂_cons_left_iff, List.forall₂_cons_left_iff]
    simp only [decodeFrame_ok, ih]

theorem forms_of_decodeFrom {ordinal offset : Nat} {bytes : List UInt8} {records : List Record}
    (decoded : (Frame.decodeFrom ordinal offset bytes).mapM layout.decodeFrame = .ok records) :
    ∃ forms, bytes = Frame.stream forms ∧
      List.Forall₂ (fun form record => layout.Decodes form.row record) forms records := by
  induction ordinal, offset, bytes using Frame.decodeFrom.induct generalizing records with
  | case1 ordinal offset =>
    rw [Frame.decodeFrom_nil, Traversal.mapM_eq_ok, List.forall₂_nil_left_iff] at decoded
    exact ⟨[], rfl, by rw [decoded]; exact List.Forall₂.nil⟩
  | case2 ordinal offset first more fault taken =>
    rw [Frame.decodeFrom_step (List.cons_ne_nil _ _), taken] at decoded
    simp [decodeFrame, Except.mapError, bind, Except.bind] at decoded
  | case3 ordinal offset first more step taken ih =>
    rw [Frame.decodeFrom_step (List.cons_ne_nil _ _), taken] at decoded
    rw [Traversal.mapM_eq_ok, List.forall₂_cons_left_iff] at decoded
    obtain ⟨record, later, head, tail, rfl⟩ := decoded
    obtain ⟨forms, split, related⟩ := ih (Traversal.mapM_eq_ok.mpr tail)
    obtain ⟨form, front, row, _⟩ := Frame.form_of_next taken
    rw [row, decodeFrame_ok] at head
    refine ⟨form :: forms, ?_, List.Forall₂.cons head related⟩
    rw [front, split, Frame.stream_cons]

theorem decode_raw (layout : RowLayout) (blob : List UInt8) :
    layout.decode .raw blob = (Frame.decode blob).mapM layout.decodeFrame := rfl

theorem decode_raw_eq_ok {blob : List UInt8} {records : List Record} :
    layout.decode .raw blob = .ok records ↔ ∃ forms, blob = Frame.stream forms ∧
      List.Forall₂ (fun form record => layout.Decodes form.row record) forms records := by
  rw [decode_raw]
  constructor
  · exact forms_of_decodeFrom
  · intro given
    rcases given with ⟨forms, rfl, related⟩
    rw [Frame.decode_stream]
    exact numbered_eq_ok.mpr related

/-- Behind its header a blob decodes as a raw one. -/
theorem decode_header (layout : RowLayout) (format : BlobFormat) (rows : List UInt8) :
    layout.decode format (format.header layout.fingerprint ++ rows) = layout.decode .raw rows := by
  rw [decode, BlobFormat.splitHeader_eq_ok.mpr rfl]
  rfl

theorem decode_eq_ok {format : BlobFormat} {blob : List UInt8} {records : List Record} :
    layout.decode format blob = .ok records ↔ ∃ rows,
      blob = format.header layout.fingerprint ++ rows ∧ layout.decode .raw rows = .ok records := by
  constructor
  · intro decoded
    rw [decode, Traversal.bind_eq_ok] at decoded
    obtain ⟨rows, split, read⟩ := decoded
    exact ⟨rows, BlobFormat.splitHeader_eq_ok.mp (Traversal.mapError_eq_ok.mp split), read⟩
  · intro given
    rcases given with ⟨rows, rfl, read⟩
    rw [decode_header, read]

theorem decode_mismatch {found : Fingerprint} (other : found ≠ layout.fingerprint)
    (rows : List UInt8) :
    layout.decode .fingerprinted (BlobFormat.fingerprinted.header found ++ rows) =
      .error (.fingerprintMismatch layout.fingerprint found) := by
  rw [decode, BlobFormat.splitHeader_fingerprinted, if_neg other]
  rfl

end GameSheet.RowLayout
