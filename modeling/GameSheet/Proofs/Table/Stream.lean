import GameSheet.Proofs.Wire.Varint
import GameSheet.Table.Frame

/-!
Streams of frames. A frame in a stream is a row behind some numeral of its length; cutting a stream
into frames gives these rows again, and a stream that ends inside a frame is told by the kind of the
part it lacks.
-/

namespace GameSheet.Frame

open Wire

/-- A row with the numeral that stands in front of it, which need not be the shortest one. -/
structure Form where
  lead : List UInt8
  row : List UInt8
  announces : Varint.Form .narrow 0 lead row.length

namespace Form

def bytes (form : Form) : List UInt8 := form.lead ++ form.row

theorem bytes_length (form : Form) :
    form.bytes.length = form.lead.length + form.row.length := by
  rw [bytes, List.length_append]

theorem bytes_ne_nil (form : Form) : form.bytes ≠ [] := by
  apply List.ne_nil_of_length_pos
  have positive := form.announces.length_pos
  rw [bytes_length]
  omega

def ofRow (row : List UInt8) (short : row.length < 2 ^ 32) : Form :=
  ⟨Varint.encode row.length, row, Varint.encode_form short⟩

theorem ofRow_shortens (form : Form) {row : List UInt8} (short : row.length < 2 ^ 32)
    (shorter : Shortens row form.row) : Shortens (ofRow row short).bytes form.bytes := by
  rcases shorter with rfl | fewer
  · exact form.announces.shortens.append (Or.inl rfl)
  · right
    have lead := Varint.encode_length_mono fewer.le
    have least := form.announces.shortens.length_le
    rw [bytes_length, bytes_length]
    simp only [ofRow]
    omega

theorem next_append (form : Form) (ordinal offset : Nat) (suffix : List UInt8) :
    next ordinal offset (form.bytes ++ suffix) = .ok ⟨form.row, form.bytes.length, suffix⟩ := by
  have split : form.bytes ++ suffix = form.lead ++ (form.row ++ suffix) := by
    rw [bytes, List.append_assoc]
  have decoded : Varint.decode .narrow (form.bytes ++ suffix) =
      .ok (form.row.length, form.lead.length) :=
    Varint.decode_eq_ok_iff.mpr ⟨form.lead, form.row ++ suffix, split, rfl, form.announces⟩
  simp only [next, decoded]
  rw [split, List.drop_left, List.take_left, List.drop_left, if_neg (lt_irrefl _), bytes_length]

def cut (form : Form) (ordinal offset count : Nat) : FrameError :=
  if count < form.lead.length then .badLength offset (.truncated count)
  else .overrun ordinal offset form.row.length (count - form.lead.length)

theorem next_take (form : Form) (ordinal offset : Nat) {count : Nat}
    (short : count < form.bytes.length) :
    next ordinal offset (form.bytes.take count) = .error (form.cut ordinal offset count) := by
  rw [bytes_length] at short
  by_cases inLead : count < form.lead.length
  · have decoded : Varint.decode .narrow (form.lead.take count) = .error (.truncated count) := by
      have cutShort := form.announces.truncated inLead
      rwa [Nat.zero_add] at cutShort
    rw [cut, if_pos inLead, bytes, List.take_append_of_le_length inLead.le, next, decoded]
  · have taken : form.bytes.take count = form.lead ++ form.row.take (count - form.lead.length) := by
      rw [bytes, List.take_append, List.take_of_length_le (by omega)]
    have left : (form.row.take (count - form.lead.length)).length = count - form.lead.length := by
      rw [List.length_take]
      omega
    have decoded : Varint.decode .narrow (form.bytes.take count) =
        .ok (form.row.length, form.lead.length) :=
      Varint.decode_eq_ok_iff.mpr ⟨form.lead, _, taken, rfl, form.announces⟩
    have missing : ((form.row.take (count - form.lead.length)).take form.row.length).length <
        form.row.length := by
      rw [List.length_take, left]
      omega
    simp only [next, decoded]
    rw [taken, List.drop_left, if_pos missing, left, cut, if_neg inLead]

end Form

theorem form_of_next {ordinal offset : Nat} {bytes : List UInt8} {step : Step}
    (taken : next ordinal offset bytes = .ok step) :
    ∃ form : Form, bytes = form.bytes ++ step.rest ∧ step.row = form.row ∧
      step.size = form.bytes.length := by
  simp only [next] at taken
  split at taken
  next => simp at taken
  next length read decoded =>
    obtain ⟨lead, body, rfl, rfl, numeral⟩ := Varint.decode_eq_ok_iff.mp decoded
    rw [List.drop_left] at taken
    split at taken
    next => simp at taken
    next enough =>
      have size : (body.take length).length = length := by
        have upper := List.length_take_le length body
        omega
      have form : Varint.Form .narrow 0 lead (body.take length).length := by rwa [size]
      rw [← Except.ok.inj taken]
      refine ⟨⟨lead, body.take length, form⟩, ?_, rfl, ?_⟩
      · rw [Form.bytes, List.append_assoc, List.take_append_drop]
      · rw [Form.bytes_length, size]

def stream (forms : List Form) : List UInt8 := forms.flatMap Form.bytes

@[simp] theorem stream_nil : stream [] = [] := rfl

theorem stream_cons (form : Form) (forms : List Form) :
    stream (form :: forms) = form.bytes ++ stream forms := rfl

theorem stream_append (front back : List Form) :
    stream (front ++ back) = stream front ++ stream back := List.flatMap_append

def numbered (ordinal : Nat) : List Form → List (Except FrameError (Nat × List UInt8))
  | [] => []
  | form :: forms => .ok (ordinal, form.row) :: numbered (ordinal + 1) forms

theorem decodeFrom_step {ordinal offset : Nat} {bytes : List UInt8} (some : bytes ≠ []) :
    decodeFrom ordinal offset bytes =
      match next ordinal offset bytes with
      | .error fault => [.error fault]
      | .ok step => .ok (ordinal, step.row) ::
          decodeFrom (ordinal + 1) (offset + step.size) step.rest := by
  cases bytes with
  | nil => exact absurd rfl some
  | cons first more =>
    rw [decodeFrom]
    split <;> rename_i taken <;> rw [taken]

theorem decodeFrom_nil (ordinal offset : Nat) : decodeFrom ordinal offset [] = [] := by
  rw [decodeFrom]

/-- The frames at the front of a stream are cut off one by one. -/
theorem decodeFrom_stream (ordinal offset : Nat) (forms : List Form) (suffix : List UInt8) :
    decodeFrom ordinal offset (stream forms ++ suffix) = numbered ordinal forms ++
      decodeFrom (ordinal + forms.length) (offset + (stream forms).length) suffix := by
  induction forms generalizing ordinal offset with
  | nil => rfl
  | cons form forms ih =>
    have nonempty : form.bytes ++ (stream forms ++ suffix) ≠ [] :=
      fun empty => form.bytes_ne_nil (List.append_eq_nil_iff.mp empty).1
    rw [stream_cons, List.append_assoc, decodeFrom_step nonempty, form.next_append]
    simp only [ih, numbered, List.cons_append, List.length_cons, List.length_append]
    rw [Nat.add_assoc ordinal, Nat.add_comm 1, Nat.add_assoc offset]

theorem decode_stream_append (forms : List Form) (suffix : List UInt8) :
    decode (stream forms ++ suffix) =
      numbered 0 forms ++ decodeFrom forms.length (stream forms).length suffix := by
  rw [decode, decodeFrom_stream, Nat.zero_add, Nat.zero_add]

theorem decode_stream (forms : List Form) : decode (stream forms) = numbered 0 forms := by
  have cut := decode_stream_append forms []
  rwa [List.append_nil, decodeFrom_nil, List.append_nil] at cut

end GameSheet.Frame
