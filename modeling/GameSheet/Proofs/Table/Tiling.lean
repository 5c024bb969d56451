import GameSheet.Proofs.Table.Canonical

/-!
How frames lie in a stream. They follow each other from its start without a gap, numbered from zero, and
either they use up all of the bytes or one error ends them where no frame begins. Frames that use up
their bytes are the same in front of others, and those behind them only move. So a table decodes piece
by piece, and fails at the first row in the stream that does.
-/

namespace GameSheet

open Wire

def FrameError.moved (rows bytes : Nat) : FrameError → FrameError
  | badLength offset fault => .badLength (bytes + offset) fault
  | overrun row offset length remaining => .overrun (rows + row) (bytes + offset) length remaining

namespace Frame

/-- Bytes that begin with no frame: the numeral cannot be read, or the row lacks some of its bytes. -/
inductive Broken (ordinal offset : Nat) (rest : List UInt8) : FrameError → Prop where
  | numeral {fault : VarintError} (refused : Varint.decode .narrow rest = .error fault) :
      Broken ordinal offset rest (.badLength offset fault)
  | row {length read : Nat} (announced : Varint.decode .narrow rest = .ok (length, read))
      (lacking : rest.length < read + length) :
      Broken ordinal offset rest (.overrun ordinal offset length (rest.length - read))

/-- What is yielded behind the last frame: nothing where the bytes are used up, and one error where
they are not. -/
inductive Ends (ordinal offset : Nat) :
    List UInt8 → List (Except FrameError (Nat × List UInt8)) → Prop where
  | done : Ends ordinal offset [] []
  | broken {rest : List UInt8} {fault : FrameError} (more : rest ≠ [])
      (cause : Broken ordinal offset rest fault) : Ends ordinal offset rest [.error fault]

def Unbroken (bytes : List UInt8) : Prop := ∀ fault, .error fault ∉ decode bytes

def moved (rows bytes : Nat) :
    Except FrameError (Nat × List UInt8) → Except FrameError (Nat × List UInt8)
  | .ok (ordinal, row) => .ok (rows + ordinal, row)
  | .error fault => .error (fault.moved rows bytes)

variable {ordinal offset : Nat}

theorem broken_of_next {bytes : List UInt8} {fault : FrameError}
    (failed : next ordinal offset bytes = .error fault) : Broken ordinal offset bytes fault := by
  simp only [next] at failed
  split at failed
  next cause refused =>
    rw [← Except.error.inj failed]
    exact .numeral refused
  next length read announced =>
    have advance := Varint.decodeFrom_advances announced
    split at failed
    next lacking =>
      rw [List.length_take, List.length_drop] at lacking
      rw [← Except.error.inj failed, List.length_drop]
      exact .row announced (by omega)
    next => cases failed

theorem exists_tiling (ordinal offset : Nat) (bytes : List UInt8) :
    ∃ forms rest last, bytes = stream forms ++ rest ∧
      decodeFrom ordinal offset bytes = numbered ordinal forms ++ last ∧
      Ends (ordinal + forms.length) (offset + (stream forms).length) rest last := by
  induction ordinal, offset, bytes using decodeFrom.induct with
  | case1 ordinal offset => exact ⟨[], [], [], rfl, decodeFrom_nil ordinal offset, .done⟩
  | case2 ordinal offset first more fault taken =>
    refine ⟨[], first :: more, [.error fault], rfl, ?_, ?_⟩
    · rw [decodeFrom_step (List.cons_ne_nil first more), taken]
      rfl
    · exact .broken (List.cons_ne_nil first more) (broken_of_next taken)
  | case3 ordinal offset first more step taken ih =>
    obtain ⟨forms, rest, last, split, yielded, ends⟩ := ih
    obtain ⟨form, front, row, size⟩ := form_of_next taken
    refine ⟨form :: forms, rest, last, ?_, ?_, ?_⟩
    · rw [front, split, stream_cons, List.append_assoc]
    · rw [decodeFrom_step (List.cons_ne_nil first more), taken]
      simp only [yielded, numbered, row, List.cons_append]
    · rw [stream_cons, List.length_append, List.length_cons, ← size]
      rw [Nat.add_assoc, Nat.add_comm 1, Nat.add_assoc] at ends
      exact ends

theorem decode_tiling (bytes : List UInt8) :
    ∃ forms rest last, bytes = stream forms ++ rest ∧ decode bytes = numbered 0 forms ++ last ∧
      Ends forms.length (stream forms).length rest last := by
  have tiling := exists_tiling 0 0 bytes
  simpa only [Nat.zero_add, decode] using tiling

theorem length_numbered (ordinal : Nat) (forms : List Form) :
    (numbered ordinal forms).length = forms.length := by
  induction forms generalizing ordinal with
  | nil => rfl
  | cons form forms ih => rw [numbered, List.length_cons, ih, List.length_cons]

theorem error_not_mem_numbered (fault : FrameError) (ordinal : Nat) (forms : List Form) :
    .error fault ∉ numbered ordinal forms := by
  induction forms generalizing ordinal with
  | nil => exact List.not_mem_nil
  | cons form forms ih =>
    rw [numbered, List.mem_cons, not_or]
    refine ⟨?_, ih (ordinal + 1)⟩
    intro same
    cases same

theorem unbroken_iff {bytes : List UInt8} : Unbroken bytes ↔ ∃ forms, bytes = stream forms := by
  constructor
  · intro unbroken
    obtain ⟨forms, rest, last, split, yielded, ends⟩ := decode_tiling bytes
    cases ends with
    | done => exact ⟨forms, by rw [split, List.append_nil]⟩
    | @broken rest fault more cause =>
      have member : .error fault ∈ decode bytes := by
        rw [yielded]
        exact List.mem_append_right _ List.mem_cons_self
      exact absurd member (unbroken fault)
  · intro given
    rcases given with ⟨forms, rfl⟩
    intro fault
    rw [decode_stream]
    exact error_not_mem_numbered fault 0 forms

theorem length_stream (forms : List Form) : forms.length ≤ (stream forms).length := by
  induction forms with
  | nil => exact Nat.le_refl 0
  | cons form forms ih =>
    have positive := List.length_pos_of_ne_nil form.bytes_ne_nil
    rw [stream_cons, List.length_append, List.length_cons]
    omega

theorem length_decode (bytes : List UInt8) : (decode bytes).length ≤ bytes.length := by
  obtain ⟨forms, rest, last, split, yielded, ends⟩ := decode_tiling bytes
  have rows := length_stream forms
  rw [yielded, split, List.length_append, List.length_append, length_numbered]
  cases ends with
  | done =>
    rw [List.length_nil, List.length_nil]
    omega
  | broken more cause =>
    have positive := List.length_pos_of_ne_nil more
    rw [List.length_singleton]
    omega

theorem next_moved (rows before ordinal offset : Nat) (bytes : List UInt8) :
    next (rows + ordinal) (before + offset) bytes =
      (next ordinal offset bytes).mapError (.moved rows before) := by
  simp only [next]
  split
  next => rfl
  next => split <;> rfl

theorem decodeFrom_moved (rows before ordinal offset : Nat) (bytes : List UInt8) :
    decodeFrom (rows + ordinal) (before + offset) bytes =
      (decodeFrom ordinal offset bytes).map (moved rows before) := by
  induction ordinal, offset, bytes using decodeFrom.induct with
  | case1 ordinal offset => rw [decodeFrom_nil, decodeFrom_nil, List.map_nil]
  | case2 ordinal offset first more fault taken =>
    have some := List.cons_ne_nil first more
    rw [decodeFrom_step some, decodeFrom_step some, next_moved, taken]
    rfl
  | case3 ordinal offset first more step taken ih =>
    have some := List.cons_ne_nil first more
    rw [decodeFrom_step some, decodeFrom_step some, next_moved, taken, Except.mapError, List.map_cons,
      ← ih, ← Nat.add_assoc before]
    rfl

/-- Behind frames that use up their bytes, the frames of other bytes are found again. -/
theorem decode_append {front : List UInt8} (unbroken : Unbroken front) (back : List UInt8) :
    decode (front ++ back) =
      decode front ++ (decode back).map (moved (decode front).length front.length) := by
  obtain ⟨forms, rfl⟩ := unbroken_iff.mp unbroken
  rw [decode_stream, length_numbered, decode_stream_append]
  exact congrArg (numbered 0 forms ++ ·) (decodeFrom_moved forms.length (stream forms).length 0 0 back)

structure Walk where
  position : Nat
  ordinal : Nat
  failed : Bool

namespace Walk

def next (bytes : List UInt8) (walk : Walk) :
    Option (Except FrameError (Nat × List UInt8)) × Walk :=
  if walk.failed ∨ bytes.length ≤ walk.position then (none, walk)
  else
    match Frame.next walk.ordinal walk.position (bytes.drop walk.position) with
    | .error fault => (some (.error fault), { walk with failed := true })
    | .ok step => (some (.ok (walk.ordinal, step.row)),
        ⟨walk.position + step.size, walk.ordinal + 1, false⟩)

def after (bytes : List UInt8) : Nat → Walk
  | 0 => ⟨0, 0, false⟩
  | calls + 1 => ((after bytes calls).next bytes).2

def yields (bytes : List UInt8) (calls : Nat) : Option (Except FrameError (Nat × List UInt8)) :=
  ((after bytes calls).next bytes).1

def ahead (bytes : List UInt8) (walk : Walk) : List (Except FrameError (Nat × List UInt8)) :=
  if walk.failed then [] else decodeFrom walk.ordinal walk.position (bytes.drop walk.position)

theorem next_eq (bytes : List UInt8) (walk : Walk) :
    (walk.next bytes).1 = (walk.ahead bytes).head? ∧
      (walk.next bytes).2.ahead bytes = (walk.ahead bytes).tail := by
  by_cases finished : walk.failed ∨ bytes.length ≤ walk.position
  · have nothing : walk.ahead bytes = [] := by
      rw [ahead]
      rcases finished with failed | past
      · rw [if_pos failed]
      · rw [List.drop_eq_nil_of_le past, decodeFrom_nil, ite_self]
    rw [next, if_pos finished, nothing]
    exact ⟨rfl, rfl⟩
  · obtain ⟨going, within⟩ := not_or.mp finished
    have some : bytes.drop walk.position ≠ [] := by
      rw [ne_eq, List.drop_eq_nil_iff]
      exact within
    rw [next, if_neg finished, ahead, if_neg going, decodeFrom_step some]
    cases taken : Frame.next walk.ordinal walk.position (bytes.drop walk.position) with
    | error fault => exact ⟨rfl, rfl⟩
    | ok step =>
      obtain ⟨form, split, _, size⟩ := form_of_next taken
      -- The walk goes on where the frame's rest begins.
      have rest : bytes.drop (walk.position + step.size) = step.rest := by
        rw [← List.drop_drop, split, size, List.drop_left]
      refine ⟨rfl, ?_⟩
      simp only [ahead, rest, List.tail_cons, Bool.false_eq_true, if_false]

theorem ahead_after (bytes : List UInt8) (calls : Nat) :
    (after bytes calls).ahead bytes = (decode bytes).drop calls := by
  induction calls with
  | zero => rfl
  | succ calls ih => rw [after, (next_eq bytes _).2, ih, List.tail_drop]

theorem yields_eq (bytes : List UInt8) (calls : Nat) :
    yields bytes calls = (decode bytes)[calls]? := by
  rw [yields, (next_eq bytes _).1, ahead_after, List.head?_drop]

end Walk

end Frame

namespace RowLayout

variable {layout : RowLayout}

theorem decode_raw_append {front back : List UInt8} {records later : List Record}
    (decoded : layout.decode .raw front = .ok records) :
    layout.decode .raw (front ++ back) = .ok (records ++ later) ↔
      layout.decode .raw back = .ok later := by
  obtain ⟨forms, rfl, related⟩ := decode_raw_eq_ok.mp decoded
  constructor
  · intro whole
    rw [decode_raw, Frame.decode_stream_append, List.mapM_append, numbered_eq_ok.mpr related,
      Traversal.bind_eq_ok] at whole
    obtain ⟨first, same, rest⟩ := whole
    obtain ⟨second, tail, joined⟩ := Traversal.bind_eq_ok.mp rest
    rw [← Except.ok.inj same] at joined
    -- The rows behind are numbered on from those in front; their records do not know.
    rw [List.append_cancel_left (Except.ok.inj joined)] at tail
    exact decode_raw_eq_ok.mpr (forms_of_decodeFrom tail)
  · intro rest
    obtain ⟨others, rfl, tail⟩ := decode_raw_eq_ok.mp rest
    rw [← Frame.stream_append]
    exact decode_raw_eq_ok.mpr ⟨forms ++ others, rfl, List.rel_append related tail⟩

/-- Calls for frames yield no more than there are bytes: frames numbered from zero that follow each other
from the start of the stream, and one error behind them where they do not use it up. Behind a stream
without an error the frames of another are yielded with their numbers and places moved. A raw table
fails as the first row of the stream that fails, and behind one that decodes another one decodes as if
it stood alone. -/
theorem stream_tiled (layout : RowLayout) (bytes more : List UInt8) :
    (∀ calls, Frame.Walk.yields bytes calls = (Frame.decode bytes)[calls]?) ∧
    (Frame.decode bytes).length ≤ bytes.length ∧
    (∃ forms rest last, bytes = Frame.stream forms ++ rest ∧
      Frame.decode bytes = Frame.numbered 0 forms ++ last ∧
      Frame.Ends forms.length (Frame.stream forms).length rest last) ∧
    (Frame.Unbroken bytes ↔ ∃ forms, bytes = Frame.stream forms) ∧
    (Frame.Unbroken bytes → Frame.decode (bytes ++ more) = Frame.decode bytes ++
      (Frame.decode more).map (Frame.moved (Frame.decode bytes).length bytes.length)) ∧
    (∀ fault, layout.decode .raw bytes = .error fault ↔ ∃ before item behind,
      Frame.decode bytes = before ++ item :: behind ∧
      (∀ earlier ∈ before, ∃ record, layout.decodeFrame earlier = .ok record) ∧
      layout.decodeFrame item = .error fault) ∧
    ∀ records, layout.decode .raw bytes = .ok records → ∀ later,
      (layout.decode .raw (bytes ++ more) = .ok (records ++ later) ↔
        layout.decode .raw more = .ok later) := by
  refine ⟨Frame.Walk.yields_eq bytes, Frame.length_decode bytes, Frame.decode_tiling bytes,
    Frame.unbroken_iff, ?_, ?_, ?_⟩
  · intro unbroken
    exact Frame.decode_append unbroken more
  · intro fault
    exact Traversal.mapM_eq_error
  · intro records decoded later
    exact decode_raw_append decoded

/-- A frame whose numeral is too long, in front of one without its last byte and of a whole one. -/
theorem stream_tiled_label :
    Frame.decode ([0x83, 0x00, 0x05, 0x01, 0x61] ++ [0x03, 0x06, 0x01]) =
        [.ok (0, [0x05, 0x01, 0x61]), .error (.overrun 1 5 3 2)] ∧
      labels.decode .raw ([0x83, 0x00, 0x05, 0x01, 0x61] ++ [0x03, 0x06, 0x01, 0x62]) =
        .ok ([labelled ⟨5, by decide, by decide⟩ "a"] ++ [labelled ⟨6, by decide, by decide⟩ "b"]) := by
  obtain ⟨_, _, _, _, appended, _, _⟩ :=
    stream_tiled labels [0x83, 0x00, 0x05, 0x01, 0x61] [0x03, 0x06, 0x01]
  obtain ⟨_, _, _, _, _, _, continued⟩ :=
    stream_tiled labels [0x83, 0x00, 0x05, 0x01, 0x61] [0x03, 0x06, 0x01, 0x62]
  have yielded : Frame.decode [0x83, 0x00, 0x05, 0x01, 0x61] = [.ok (0, [0x05, 0x01, 0x61])] := by
    decide +kernel
  have unbroken : Frame.Unbroken [0x83, 0x00, 0x05, 0x01, 0x61] := by
    intro fault
    simp [yielded]
  have broken : Frame.decode [0x03, 0x06, 0x01] = [.error (.overrun 0 0 3 2)] := by decide +kernel
  constructor
  · rw [appended unbroken, yielded, broken]
    rfl
  · exact (continued _ (by decide +kernel) _).mpr (by decide +kernel)

end RowLayout

end GameSheet
