import GameSheet.Proofs.Wire.Characters

/-!
Reading from a buffer that is kept whole. A cursor drops what it has read; a buffer keeps all bytes and
counts the place, so that it subtracts, cuts slices and looks at bytes by their index, and each of these
can leave the bytes. None does: the place starts inside the buffer and every call, whether it succeeds or
fails, leaves it at the same place or further on and still inside.
-/

namespace GameSheet.Wire

structure Buffer where
  data : List UInt8
  position : Nat
  deriving DecidableEq, Repr

/-- A reader of a buffer. A step that would leave the buffer has no result, and then the work ends. -/
abbrev BufferReader := ExceptT ReadError (StateT Buffer Option)

namespace Buffer

def Inside (buffer : Buffer) : Prop := buffer.position ≤ buffer.data.length

def remaining? (buffer : Buffer) : Option Nat :=
  if buffer.position ≤ buffer.data.length then some (buffer.data.length - buffer.position) else none

def slice? (buffer : Buffer) (first last : Nat) : Option (List UInt8) :=
  if first ≤ last ∧ last ≤ buffer.data.length then some ((buffer.data.take last).drop first) else none

def advance (buffer : Buffer) (count : Nat) : Buffer := { buffer with position := buffer.position + count }

def cursor (buffer : Buffer) : Cursor := ⟨buffer.position, buffer.data.drop buffer.position⟩

end Buffer

namespace BufferReader

def bytes (count : Nat) : BufferReader (List UInt8) := do
  let buffer ← get
  let left ← buffer.remaining?
  if left < count then throw (.unexpectedEnd buffer.position count left)
  else
    -- The end of the slice is not past the bytes, so the sum needs no more bits than their number.
    let taken ← buffer.slice? buffer.position (buffer.position + count)
    set (buffer.advance count)
    return taken

def array (count : Nat) : BufferReader (Vector UInt8 count) := do
  let taken ← bytes count
  if fits : taken.toArray.size = count then return ⟨taken.toArray, fits⟩
  else (none : Option _)

def fixed (width : Nat) : BufferReader Nat := return LittleEndian.decode (← array width).toList

def flag (offset : Nat) : UInt8 → BufferReader Bool
  | 0 => return false
  | 1 => return true
  | byte => throw (.invalidBool offset byte)

def bool : BufferReader Bool := do
  let offset := (← get).position
  flag offset (← array 1)[0]

def varint (width : VarintWidth) : BufferReader Nat := do
  let buffer ← get
  let rest ← buffer.slice? buffer.position buffer.data.length
  match Varint.decode width rest with
  | .error fault => throw (.varint buffer.position fault)
  | .ok (value, read) =>
    set (buffer.advance read)
    return value

def text (offset : Nat) (taken : List UInt8) : BufferReader String :=
  match Text.Utf8.decode? taken with
  | some chars => return String.ofList chars
  | none => throw (.invalidUtf8 offset)

def sizedText (size : Nat) : BufferReader String := do
  let offset := (← get).position
  text offset (← bytes size)

def string : BufferReader String := do
  sizedText (← varint .narrow)

def first (offset : Nat) (taken : List UInt8) : BufferReader Char :=
  match (Text.Utf8.decode? taken).bind List.head? with
  | some c => return c
  | none => throw (.invalidUtf8 offset)

def firstAt (offset : Nat) : Option UInt8 → BufferReader Char
  | none => throw (.unexpectedEnd offset 1 0)
  | some lead =>
    match Text.Utf8.width? lead with
    | none => throw (.invalidUtf8 offset)
    | some width => bytes width >>= first offset

def char : BufferReader Char := do
  let buffer ← get
  firstAt buffer.position buffer.data[buffer.position]?

end BufferReader

def Operation.readBuffer : Operation → BufferReader Reading
  | bytes count => .bytes <$> BufferReader.bytes count
  | fixed width => .number <$> BufferReader.fixed width
  | bool => .flag <$> BufferReader.bool
  | varint width => .number <$> BufferReader.varint width
  | string => .text <$> BufferReader.string
  | char => .scalar <$> BufferReader.char

structure Call where
  operation : Operation
  before : Cursor
  result : Except ReadError Reading
  after : Cursor

def Call.seen (call : Call) : Except ReadError Reading × Nat × Nat :=
  (call.result, call.after.position, call.after.remaining)

def calls : List Operation → Cursor → List Call
  | [], _ => []
  | operation :: later, cursor =>
    let (result, next) := operation.read.outcome cursor
    ⟨operation, cursor, result, next⟩ :: calls later next

def Buffer.calls (buffer : Buffer) :
    List Operation → Option (List (Except ReadError Reading × Nat × Nat))
  | [] => some []
  | operation :: later => do
    let (result, next) ← operation.readBuffer.run.run buffer
    let left ← next.remaining?
    let seen ← next.calls later
    return (result, next.position, left) :: seen

namespace Buffer

variable {buffer : Buffer}

theorem remaining_cursor (buffer : Buffer) :
    buffer.cursor.remaining = buffer.data.length - buffer.position := List.length_drop

theorem remaining?_eq (inside : buffer.Inside) : buffer.remaining? = some buffer.cursor.remaining := by
  rw [remaining_cursor]
  exact if_pos inside

theorem slice?_rest (inside : buffer.Inside) :
    buffer.slice? buffer.position buffer.data.length = some buffer.cursor.unread := by
  rw [slice?, if_pos ⟨inside, Nat.le_refl _⟩, List.take_length]
  rfl

theorem inside_advance {count : Nat} (inside : buffer.Inside) :
    (buffer.advance count).Inside ↔ count ≤ buffer.cursor.remaining := by
  have within : buffer.position ≤ buffer.data.length := inside
  rw [remaining_cursor]
  change buffer.position + count ≤ buffer.data.length ↔ _
  omega

theorem slice?_front {count : Nat} (inside : (buffer.advance count).Inside) :
    buffer.slice? buffer.position (buffer.position + count) =
      some (buffer.cursor.unread.take count) := by
  rw [slice?, if_pos ⟨Nat.le_add_right .., inside⟩, List.drop_take, Nat.add_sub_cancel_left]
  rfl

theorem cursor_advance (count : Nat) : (buffer.advance count).cursor = buffer.cursor.advance count := by
  simp only [cursor, advance, Cursor.advance, List.drop_drop]

theorem advance_advance (first second : Nat) :
    (buffer.advance first).advance second = buffer.advance (first + second) := by
  simp only [advance, Nat.add_assoc]

theorem getElem?_position : buffer.data[buffer.position]? = buffer.cursor.unread.head? :=
  List.head?_drop.symm

end Buffer

namespace BufferReader

variable {α β : Type} {buffer middle : Buffer}

theorem run_bind_ok {held : BufferReader α} {next : α → BufferReader β} {value : α}
    (read : held.run.run buffer = some (.ok value, middle)) :
    (held >>= next).run.run buffer = (next value).run.run middle := by
  simp [read]

theorem run_bind_error {held : BufferReader α} {next : α → BufferReader β} {fault : ReadError}
    (failed : held.run.run buffer = some (.error fault, middle)) :
    (held >>= next).run.run buffer = some (.error fault, middle) := by
  simp [failed]

theorem run_get_bind (next : Buffer → BufferReader β) :
    (get >>= next).run.run buffer = (next buffer).run.run buffer := rfl

theorem run_lift_bind {step : Option α} {value : α} (made : step = some value)
    (next : α → BufferReader β) :
    ((step : BufferReader α) >>= next).run.run buffer = (next value).run.run buffer := by
  rw [made]
  rfl

/-- From inside a buffer, a reader of it has the outcome that the cursor at its place has, and leaves
the buffer that many bytes further on, still inside. -/
def Agrees (held : BufferReader α) (reader : Reader α) : Prop :=
  ∀ buffer : Buffer, buffer.Inside → ∃ result count,
    held.run.run buffer = some (result, buffer.advance count) ∧ (buffer.advance count).Inside ∧
      reader.outcome buffer.cursor = (result, (buffer.advance count).cursor)

/-- What is read next needs to agree only for values that the cursor can have given. -/
theorem Agrees.bind_given {held : BufferReader α} {reader : Reader α} {next : α → BufferReader β}
    {later : α → Reader β} (first : Agrees held reader)
    (second : ∀ value, (∃ before after, reader before = .ok value after) →
      Agrees (next value) (later value)) :
    Agrees (held >>= next) (reader >>= later) := by
  intro buffer inside
  obtain ⟨result, count, run, within, outcome⟩ := first buffer inside
  cases result with
  | error fault =>
    refine ⟨.error fault, count, run_bind_error run, within, ?_⟩
    rw [Reader.outcome_eq_error] at outcome ⊢
    exact Reader.bind_of_error outcome
  | ok value =>
    rw [Reader.outcome_eq_ok] at outcome
    obtain ⟨last, more, finish, behind, ending⟩ := second value ⟨_, _, outcome⟩ _ within
    rw [Buffer.advance_advance] at finish behind ending
    refine ⟨last, count + more, (run_bind_ok run).trans finish, behind, ?_⟩
    rw [← ending, Reader.outcome, Reader.bind_of_ok outcome]
    rfl

theorem Agrees.bind {held : BufferReader α} {reader : Reader α} {next : α → BufferReader β}
    {later : α → Reader β} (first : Agrees held reader)
    (second : ∀ value, Agrees (next value) (later value)) :
    Agrees (held >>= next) (reader >>= later) :=
  first.bind_given (fun value _ => second value)

theorem agrees_pure (value : α) : Agrees (pure value) (pure value) :=
  fun _ inside => ⟨.ok value, 0, rfl, inside, rfl⟩

theorem agrees_throw (fault : ReadError) : Agrees (throw fault : BufferReader α) (throw fault) :=
  fun _ inside => ⟨.error fault, 0, rfl, inside, rfl⟩

theorem Agrees.map {held : BufferReader α} {reader : Reader α} (read : Agrees held reader)
    (f : α → β) : Agrees (f <$> held) (f <$> reader) := by
  rw [map_eq_pure_bind, map_eq_pure_bind]
  exact read.bind (fun value => agrees_pure (f value))

theorem agrees_position_bind {next : Nat → BufferReader β} {later : Nat → Reader β}
    (same : ∀ offset, Agrees (next offset) (later offset)) :
    Agrees (get >>= fun buffer => next buffer.position)
      (get >>= fun cursor => later cursor.position) :=
  fun buffer inside => same buffer.position buffer inside

theorem agrees_bytes (count : Nat) : Agrees (bytes count) (Reader.bytes count) := by
  intro buffer inside
  rw [bytes, run_get_bind, run_lift_bind (Buffer.remaining?_eq inside)]
  rcases Nat.lt_or_ge buffer.cursor.remaining count with short | enough
  · have failed := Reader.outcome_eq_error.mpr (Reader.bytes_of_lt short)
    exact ⟨_, 0, by rw [if_pos short]; rfl, inside, failed⟩
  · have within := (Buffer.inside_advance inside).mpr enough
    refine ⟨.ok (buffer.cursor.unread.take count), count, ?_, within, ?_⟩
    · rw [if_neg (Nat.not_lt.mpr enough), run_lift_bind (Buffer.slice?_front within)]
      rfl
    · rw [Buffer.cursor_advance, Reader.outcome_eq_ok]
      exact Reader.bytes_of_le enough

theorem agrees_array_bind {count : Nat} {next : Vector UInt8 count → BufferReader β}
    {later : List UInt8 → Reader β} (same : ∀ copy, Agrees (next copy) (later copy.toList)) :
    Agrees (array count >>= next) (Reader.bytes count >>= later) := by
  rw [array, bind_assoc]
  apply (agrees_bytes count).bind_given
  intro taken given
  obtain ⟨before, after, given⟩ := given
  have fits : taken.toArray.size = count := by
    obtain ⟨_, ⟨rfl, size⟩, _⟩ := Reader.accepts_bytes count before taken after given
    exact size
  rw [dif_pos fits, pure_bind]
  exact same ⟨taken.toArray, fits⟩

theorem agrees_fixed (width : Nat) : Agrees (fixed width) (Reader.fixed width) :=
  agrees_array_bind (fun copy => agrees_pure (LittleEndian.decode copy.toList))

theorem agrees_flag (offset : Nat) (byte : UInt8) :
    Agrees (flag offset byte) (Reader.flag offset [byte]) := by
  unfold flag
  split
  next => exact agrees_pure false
  next => exact agrees_pure true
  next notZero notOne =>
    have refused : Reader.flag offset [byte] = throw (.invalidBool offset byte) := by
      unfold Reader.flag
      split <;> simp_all
    rw [refused]
    exact agrees_throw _

theorem agrees_array_flag (offset : Nat) :
    Agrees (array 1 >>= fun copy => flag offset copy[0]) (Reader.bytes 1 >>= Reader.flag offset) := by
  apply agrees_array_bind
  intro copy
  have single : copy.toList = [copy[0]] := by
    obtain ⟨⟨bytes⟩, size⟩ := copy
    obtain ⟨byte, rfl⟩ := List.length_eq_one_iff.mp size
    rfl
  rw [single]
  exact agrees_flag offset copy[0]

theorem agrees_bool : Agrees bool Reader.bool := agrees_position_bind agrees_array_flag

theorem agrees_varint (width : VarintWidth) : Agrees (varint width) (Reader.varint width) := by
  intro buffer inside
  rw [varint, run_get_bind, run_lift_bind (Buffer.slice?_rest inside)]
  cases decoded : Varint.decode width buffer.cursor.unread with
  | error fault =>
    refine ⟨.error (.varint buffer.position fault), 0, rfl, inside, ?_⟩
    rw [Reader.outcome_eq_error, Reader.varint, decoded]
    rfl
  | ok pair =>
    obtain ⟨value, read⟩ := pair
    have upper := (Varint.decodeFrom_advances decoded).2
    rw [Nat.zero_add] at upper
    refine ⟨.ok value, read, rfl, (Buffer.inside_advance inside).mpr upper, ?_⟩
    rw [Buffer.cursor_advance, Reader.outcome_eq_ok, Reader.varint, decoded]

theorem agrees_text (offset : Nat) (taken : List UInt8) :
    Agrees (text offset taken) (Reader.text offset taken) := by
  unfold text Reader.text
  cases Text.Utf8.decode? taken with
  | some chars => exact agrees_pure _
  | none => exact agrees_throw _

theorem agrees_string : Agrees string Reader.string :=
  (agrees_varint .narrow).bind (fun size =>
    agrees_position_bind (fun offset => (agrees_bytes size).bind (agrees_text offset)))

theorem agrees_first (offset : Nat) (taken : List UInt8) :
    Agrees (first offset taken) (Reader.first offset taken) := by
  unfold first Reader.first
  cases (Text.Utf8.decode? taken).bind List.head? with
  | some c => exact agrees_pure c
  | none => exact agrees_throw _

theorem agrees_firstAt (offset : Nat) (lead : Option UInt8) :
    Agrees (firstAt offset lead) (Reader.firstAt offset lead) := by
  cases lead with
  | none => exact agrees_throw _
  | some lead =>
    simp only [firstAt, Reader.firstAt]
    cases Text.Utf8.width? lead with
    | none => exact agrees_throw _
    | some width => exact (agrees_bytes width).bind (agrees_first offset)

theorem agrees_char : Agrees char Reader.char := by
  rw [← Reader.firstOfText_eq]
  intro buffer inside
  rw [char, run_get_bind, Buffer.getElem?_position]
  exact agrees_firstAt buffer.position buffer.cursor.unread.head? buffer inside

theorem agrees_read (operation : Operation) : Agrees operation.readBuffer operation.read := by
  cases operation with
  | bytes count => exact (agrees_bytes count).map _
  | fixed width => exact (agrees_fixed width).map _
  | bool => exact agrees_bool.map _
  | varint width => exact (agrees_varint width).map _
  | string => exact agrees_string.map _
  | char => exact agrees_char.map _

end BufferReader

theorem Operation.read_of_same_front {operation : Operation} {cursor next other : Cursor} {count : Nat}
    {value : Reading} (read : operation.read cursor = .ok value next)
    (place : next.position = cursor.position + count)
    (same : other.unread.take count = cursor.unread.take count) :
    operation.read other = .ok value (other.advance count) := by
  obtain ⟨taken, yields, split, stop⟩ := operation.determined_read cursor value next read
  obtain rfl : count = taken.length := by omega
  rw [split, List.take_left] at same
  have whole := List.take_append_drop taken.length other.unread
  rw [same] at whole
  have again := yields other.position (other.unread.drop taken.length)
  rwa [whole] at again

/-- A call that keeps to the row: it goes from one place of the row to the same or a later one, and what
it gave is given wherever the bytes between the two come next. -/
structure Call.Kept (row : List UInt8) (call : Call) : Prop where
  before : call.before = (Buffer.mk row call.before.position).cursor
  after : call.after = (Buffer.mk row call.after.position).cursor
  forward : call.before.position ≤ call.after.position
  inside : call.after.position ≤ row.length
  left : call.after.remaining = row.length - call.after.position
  determined : ∀ value, call.result = .ok value → ∀ cursor : Cursor,
    cursor.unread.take (call.after.position - call.before.position) =
        (row.take call.after.position).drop call.before.position →
      call.operation.read cursor =
        .ok value (cursor.advance (call.after.position - call.before.position))

theorem Operation.kept {operation : Operation} {buffer : Buffer} {count : Nat}
    {result : Except ReadError Reading} (inside : (buffer.advance count).Inside)
    (outcome : operation.read.outcome buffer.cursor = (result, (buffer.advance count).cursor)) :
    Call.Kept buffer.data ⟨operation, buffer.cursor, result, (buffer.advance count).cursor⟩ := by
  have stretch : (buffer.advance count).cursor.position - buffer.cursor.position = count :=
    Nat.add_sub_cancel_left ..
  refine ⟨rfl, rfl, Nat.le_add_right .., inside, Buffer.remaining_cursor _, ?_⟩
  intro value given cursor same
  obtain rfl : result = .ok value := given
  rw [Reader.outcome_eq_ok] at outcome
  simp only [stretch] at same ⊢
  apply Operation.read_of_same_front outcome rfl
  rw [same]
  change (buffer.data.take (buffer.position + count)).drop buffer.position = _
  rw [List.drop_take, Nat.add_sub_cancel_left]
  rfl

/-- From inside a buffer no call leaves it, each shows what it shows on a cursor, each keeps to the bytes
of the buffer, and each goes on from where the one before it stopped. -/
theorem calls_of_inside (operations : List Operation) {buffer : Buffer} (inside : buffer.Inside) :
    buffer.calls operations = some ((calls operations buffer.cursor).map Call.seen) ∧
      (∀ call ∈ calls operations buffer.cursor, call.Kept buffer.data) ∧
      (buffer.position :: (calls operations buffer.cursor).map (·.after.position)).IsChain (· ≤ ·) := by
  induction operations generalizing buffer with
  | nil => exact ⟨rfl, by simp [calls], .singleton _⟩
  | cons operation later ih =>
    obtain ⟨result, count, run, within, outcome⟩ := BufferReader.agrees_read operation buffer inside
    obtain ⟨seen, kept, ascending⟩ := ih within
    have here := Operation.kept within outcome
    simp only [calls, outcome, List.map_cons]
    refine ⟨?_, List.forall_mem_cons.mpr ⟨here, kept⟩, .cons_cons here.forward ascending⟩
    simp only [Buffer.calls, run, Option.bind_eq_bind, Option.bind_some, Buffer.remaining?_eq within, seen]
    rfl

/-- Whatever the row and the calls, also those behind a failure: read from the row that is kept whole, no
subtraction, slice or look-ahead leaves it, so all calls have the results and places of the cursor. The
places never go back and never pass the end, what is left is the length less the place, and a value that
was given depends on the bytes between the old and the new place alone. -/
theorem calls_inside (row : List UInt8) (operations : List Operation) :
    (Buffer.mk row 0).calls operations = some ((calls operations (.start row)).map Call.seen) ∧
      ((calls operations (.start row)).map (·.after.position)).SortedLE ∧
      ∀ call ∈ calls operations (.start row), call.Kept row := by
  have inside : (Buffer.mk row 0).Inside := Nat.zero_le row.length
  obtain ⟨seen, kept, ascending⟩ := calls_of_inside operations inside
  exact ⟨seen, ascending.tail.sortedLE, kept⟩

/-- A flag that is refused, too many bytes, and then a character, which reads alike in another row. -/
theorem calls_inside_accent :
    (Buffer.mk [2, 0xC3, 0xA9] 0).calls [.bool, .bytes 7, .char] =
      some [(.error (.invalidBool 0 2), 1, 2), (.error (.unexpectedEnd 1 7 2), 1, 2),
        (.ok (.scalar 'é'), 3, 0)] ∧
    Operation.char.read ⟨9, [0xC3, 0xA9, 0xFF]⟩ = .ok (.scalar 'é') ⟨11, [0xFF]⟩ := by
  obtain ⟨seen, _, kept⟩ := calls_inside [2, 0xC3, 0xA9] [.bool, .bytes 7, .char]
  refine ⟨seen.trans rfl, ?_⟩
  have last : (⟨.char, ⟨1, [0xC3, 0xA9]⟩, .ok (.scalar 'é'), ⟨3, []⟩⟩ : Call) ∈
      calls [.bool, .bytes 7, .char] (.start [2, 0xC3, 0xA9]) :=
    .tail _ (.tail _ (.head _))
  exact (kept _ last).determined (.scalar 'é') rfl ⟨9, [0xC3, 0xA9, 0xFF]⟩ rfl

end GameSheet.Wire
