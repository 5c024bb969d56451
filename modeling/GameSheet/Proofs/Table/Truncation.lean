import GameSheet.Proofs.Table.Canonical

/-!
Streams that were cut short. Where a frame ends a stream can be cut and still decodes, as the records
up to there. A cut anywhere else goes through a frame, which is told by its length numeral when that
is cut and by the bytes that its row lacks otherwise.
-/

namespace GameSheet

open Wire

namespace Frame

def boundsFrom (offset : Nat) (bytes : List UInt8) : List Nat :=
  match bytes with
  | [] => [offset]
  | first :: more =>
    match _taken : next 0 offset (first :: more) with
    | .error _ => [offset]
    | .ok step => offset :: boundsFrom (offset + step.size) step.rest
termination_by bytes.length
decreasing_by exact next_shorter _taken

/-- Bound 0 is the start of the stream, and bound j the end of the j-th frame. -/
def bounds (bytes : List UInt8) : List Nat := boundsFrom 0 bytes

theorem boundsFrom_cons (offset : Nat) (form : Form) (forms : List Form) :
    boundsFrom offset (stream (form :: forms)) =
      offset :: boundsFrom (offset + form.bytes.length) (stream forms) := by
  have taken := form.next_append 0 offset (stream forms)
  rw [stream_cons]
  cases split : form.bytes ++ stream forms with
  | nil => exact absurd (List.append_eq_nil_iff.mp split).1 form.bytes_ne_nil
  | cons first more =>
    rw [split] at taken
    rw [boundsFrom]
    split
    next fault failed => simp [taken] at failed
    next step found =>
      rw [taken] at found
      rw [← Except.ok.inj found]

theorem boundsFrom_stream {offset position place : Nat} {forms : List Form} :
    (boundsFrom offset (stream forms))[position]? = some place ↔
      position ≤ forms.length ∧ place = offset + (stream (forms.take position)).length := by
  induction forms generalizing offset position with
  | nil =>
    rw [stream_nil, boundsFrom, List.getElem?_singleton]
    cases position <;> simp [eq_comm]
  | cons form forms ih =>
    rw [boundsFrom_cons]
    cases position with
    | zero => simp [eq_comm]
    | succ position =>
      rw [List.getElem?_cons_succ, ih, List.take_succ_cons, stream_cons, List.length_append,
        List.length_cons, Nat.add_assoc, Nat.succ_le_succ_iff]

theorem boundsFrom_length (offset : Nat) (forms : List Form) :
    (boundsFrom offset (stream forms)).length = forms.length + 1 := by
  induction forms generalizing offset with
  | nil => rw [stream_nil, boundsFrom]; rfl
  | cons form forms ih => rw [boundsFrom_cons, List.length_cons, ih, List.length_cons]

theorem bounds_stream {position place : Nat} {forms : List Form} :
    (bounds (stream forms))[position]? = some place ↔
      position ≤ forms.length ∧ place = (stream (forms.take position)).length := by
  rw [bounds, boundsFrom_stream, Nat.zero_add]

theorem take_stream (forms : List Form) (position : Nat) :
    (stream forms).take (stream (forms.take position)).length = stream (forms.take position) := by
  have split : stream forms = stream (forms.take position) ++ stream (forms.drop position) := by
    rw [← stream_append, List.take_append_drop]
  rw [split, List.take_left]

theorem cut_cases {forms : List Form} {place : Nat} (within : place ≤ (stream forms).length) :
    (∃ position ≤ forms.length, place = (stream (forms.take position)).length) ∨
      ∃ front form back, forms = front ++ form :: back ∧ (stream front).length < place ∧
        place < (stream front).length + form.bytes.length := by
  induction forms generalizing place with
  | nil =>
    left
    rw [stream_nil, List.length_nil, Nat.le_zero] at within
    exact ⟨0, Nat.le_refl 0, within⟩
  | cons form forms ih =>
    rw [stream_cons, List.length_append] at within
    rcases Nat.lt_or_ge place form.bytes.length with inside | beyond
    · rcases Nat.eq_zero_or_pos place with rfl | positive
      · exact Or.inl ⟨0, Nat.zero_le _, rfl⟩
      · exact Or.inr ⟨[], form, forms, rfl, positive, by simpa using inside⟩
    · have rest : place - form.bytes.length ≤ (stream forms).length := by omega
      rcases ih rest with ⟨position, bound, same⟩ | ⟨front, cut, back, rfl, after, before⟩
      · left
        refine ⟨position + 1, Nat.succ_le_succ bound, ?_⟩
        rw [List.take_succ_cons, stream_cons, List.length_append, ← same]
        omega
      · right
        refine ⟨form :: front, cut, back, rfl, ?_, ?_⟩
        · rw [stream_cons, List.length_append]
          omega
        · rw [stream_cons, List.length_append]
          omega

theorem bounds_around (front : List Form) (form : Form) (back : List Form) :
    (bounds (stream (front ++ form :: back)))[front.length]? = some (stream front).length ∧
      (bounds (stream (front ++ form :: back)))[front.length + 1]? =
        some ((stream front).length + form.bytes.length) := by
  have before : (front ++ form :: back).take front.length = front := List.take_left
  have through : (front ++ form :: back).take (front.length + 1) = front ++ [form] :=
    List.take_length_add_append 1
  have reach : (stream (front ++ [form])).length = (stream front).length + form.bytes.length := by
    rw [stream_append, List.length_append, stream_cons, stream_nil, List.append_nil]
  rw [bounds_stream, bounds_stream, before, through, reach]
  exact ⟨⟨by simp, rfl⟩, ⟨by simp, rfl⟩⟩

theorem take_within (front : List Form) {form : Form} (back : List Form) {count : Nat}
    (inside : count ≤ form.bytes.length) :
    (stream (front ++ form :: back)).take ((stream front).length + count) =
      stream front ++ form.bytes.take count := by
  rw [stream_append, stream_cons, List.take_length_add_append,
    List.take_append_of_le_length inside]

theorem decode_numeral (front : List Form) (form : Form) (back : List Form) :
    Varint.decode .narrow ((stream (front ++ form :: back)).drop (stream front).length) =
      .ok (form.row.length, form.lead.length) := by
  rw [stream_append, stream_cons, List.drop_left, Form.bytes, List.append_assoc]
  exact Varint.decode_eq_ok_iff.mpr ⟨form.lead, _, rfl, rfl, form.announces⟩

end Frame

namespace RowLayout

variable {layout : RowLayout}

theorem decode_cut {front : List Frame.Form} {records : List Record}
    (decoded : List.Forall₂ (fun form record => layout.Decodes form.row record) front records)
    (form : Frame.Form) {count : Nat} (some : 0 < count) (short : count < form.bytes.length) :
    layout.decode .raw (Frame.stream front ++ form.bytes.take count) =
      .error (.frame (form.cut front.length (Frame.stream front).length count)) := by
  have nonempty : form.bytes.take count ≠ [] := by
    apply List.ne_nil_of_length_pos
    rw [List.length_take]
    omega
  rw [decode_raw, Frame.decode_stream_append, Frame.decodeFrom_step nonempty,
    form.next_take _ _ short]
  exact Traversal.mapM_append_error (numbered_eq_ok.mpr decoded) rfl

/-- A blob that decodes still does when it is cut at a bound, as the records before it. Cut anywhere
else it fails in the frame around the cut: by its numeral, if not all of that is left, and otherwise
by the bytes that its row lacks. -/
theorem decode_take {blob : List UInt8} {records : List Record}
    (decoded : layout.decode .raw blob = .ok records) {place : Nat} (within : place ≤ blob.length) :
    (Frame.bounds blob).length = records.length + 1 ∧
      (∀ position, (Frame.bounds blob)[position]? = some place →
        layout.decode .raw (blob.take place) = .ok (records.take position)) ∧
      (place ∉ Frame.bounds blob → ∃ position start stop length read,
        (Frame.bounds blob)[position]? = some start ∧
        (Frame.bounds blob)[position + 1]? = some stop ∧ start < place ∧ place < stop ∧
        Varint.decode .narrow (blob.drop start) = .ok (length, read) ∧
        layout.decode .raw (blob.take place) = .error (.frame
          (if place - start < read then .badLength start (.truncated (place - start))
            else .overrun position start length (place - start - read)))) := by
  obtain ⟨forms, rfl, related⟩ := decode_raw_eq_ok.mp decoded
  refine ⟨?_, ?_, ?_⟩
  · rw [Frame.bounds, Frame.boundsFrom_length, related.length_eq]
  · intro position bound
    obtain ⟨_, rfl⟩ := Frame.bounds_stream.mp bound
    rw [Frame.take_stream]
    exact decode_raw_eq_ok.mpr ⟨_, rfl, List.forall₂_take position related⟩
  · intro unbounded
    rcases Frame.cut_cases within with ⟨position, inside, same⟩ | ⟨front, form, back, rfl, after, before⟩
    · have bound := Frame.bounds_stream.mpr ⟨inside, same⟩
      exact absurd (List.mem_of_getElem? bound) unbounded
    · obtain ⟨count, rfl⟩ := Nat.exists_eq_add_of_le after.le
      have earlier := List.forall₂_take front.length related
      rw [List.take_left] at earlier
      obtain ⟨start, stop⟩ := Frame.bounds_around front form back
      refine ⟨front.length, _, _, form.row.length, form.lead.length, start, stop, after, before,
        Frame.decode_numeral front form back, ?_⟩
      rw [Frame.take_within front back (by omega), decode_cut earlier form (by omega) (by omega),
        Nat.add_sub_cancel_left]
      rfl

def twoLabels : List UInt8 := [0x03, 0x05, 0x01, 0x61, 0x83, 0x00, 0x06, 0x01, 0x62]

theorem decode_take_twoLabels :
    labels.decode .raw (twoLabels.take 4) = .ok [labelled ⟨5, by decide, by decide⟩ "a"] ∧
      labels.decode .raw (twoLabels.take 7) = .error (.frame (.overrun 1 4 3 1)) := by
  have decoded : labels.decode .raw twoLabels = .ok [labelled ⟨5, by decide, by decide⟩ "a",
      labelled ⟨6, by decide, by decide⟩ "b"] := by decide +kernel
  have bounds : Frame.bounds twoLabels = [0, 4, 9] := by decide +kernel
  constructor
  · exact (decode_take decoded (by decide)).2.1 1 (by rw [bounds]; rfl)
  · obtain ⟨position, start, stop, length, read, first, second, after, before, numeral, failed⟩ :=
      (decode_take decoded (by decide : 7 ≤ twoLabels.length)).2.2 (by rw [bounds]; decide)
    rw [bounds] at first second
    match position with
    | 0 =>
      obtain rfl := Option.some.inj second
      omega
    | 1 =>
      obtain rfl := Option.some.inj first
      have three : Varint.decode .narrow (twoLabels.drop 4) = .ok (3, 2) := by rfl
      rw [three] at numeral
      obtain ⟨rfl, rfl⟩ := Prod.mk.inj (Except.ok.inj numeral)
      exact failed
    | _ + 2 => simp at second

end RowLayout

end GameSheet
