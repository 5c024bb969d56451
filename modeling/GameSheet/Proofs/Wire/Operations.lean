import GameSheet.Proofs.Wire.Locality

/-!
Calls on a reader and the places they leave it at. What a read takes is decided before it is judged: a
read that lacks bytes takes none, and one that refuses its bytes has taken them, so the cursor of a
failed read is known from the bytes alone. It is where it was for numbers, and for the other reads
exactly where they fail on their first byte.
-/

namespace GameSheet.Wire

inductive Operation where
  | bytes (count : Nat)
  | fixed (width : Nat)
  | bool
  | varint (width : VarintWidth)
  | string
  | char
  deriving DecidableEq, Repr

inductive Reading where
  | bytes (taken : List UInt8)
  | number (value : Nat)
  | flag (value : Bool)
  | text (value : String)
  | scalar (value : Char)
  deriving DecidableEq, Repr

def Operation.read : Operation → Reader Reading
  | bytes count => .bytes <$> Reader.bytes count
  | fixed width => .number <$> Reader.fixed width
  | bool => .flag <$> Reader.bool
  | varint width => .number <$> Reader.varint width
  | string => .text <$> Reader.string
  | char => .scalar <$> Reader.char

namespace Cursor

theorem advance_zero (cursor : Cursor) : cursor.advance 0 = cursor := rfl

theorem advance_advance (cursor : Cursor) (first second : Nat) :
    (cursor.advance first).advance second = cursor.advance (first + second) := by
  simp only [advance, List.drop_drop, Nat.add_assoc]

theorem remaining_advance (cursor : Cursor) (count : Nat) :
    (cursor.advance count).remaining = cursor.remaining - count :=
  List.length_drop

def allOrNone (cursor : Cursor) (count : Nat) : Nat := if count ≤ cursor.remaining then count else 0

theorem allOrNone_of_le {cursor : Cursor} {count : Nat} (enough : count ≤ cursor.remaining) :
    cursor.allOrNone count = count := if_pos enough

theorem allOrNone_of_lt {cursor : Cursor} {count : Nat} (lacking : cursor.remaining < count) :
    cursor.allOrNone count = 0 := if_neg (Nat.not_le.mpr lacking)

theorem allOrNone_le (cursor : Cursor) (count : Nat) : cursor.allOrNone count ≤ cursor.remaining := by
  unfold allOrNone
  split <;> omega

theorem allOrNone_eq_zero {cursor : Cursor} {count : Nat} (some : 0 < count) :
    cursor.allOrNone count = 0 ↔ cursor.remaining < count := by
  unfold allOrNone
  split <;> omega

end Cursor

namespace Reader

variable {α β : Type}

def outcome (reader : Reader α) (cursor : Cursor) : Except ReadError α × Cursor :=
  match reader cursor with
  | .ok value next => (.ok value, next)
  | .error fault next => (.error fault, next)

theorem outcome_eq_ok {reader : Reader α} {cursor next : Cursor} {value : α} :
    reader.outcome cursor = (.ok value, next) ↔ reader cursor = .ok value next := by
  unfold outcome
  cases reader cursor <;> simp

theorem outcome_eq_error {reader : Reader α} {cursor next : Cursor} {fault : ReadError} :
    reader.outcome cursor = (.error fault, next) ↔ reader cursor = .error fault next := by
  unfold outcome
  cases reader cursor <;> simp

theorem bytes_of_le {count : Nat} {cursor : Cursor} (enough : count ≤ cursor.remaining) :
    bytes count cursor = .ok (cursor.unread.take count) (cursor.advance count) := by
  have size : (cursor.unread.take count).length = count := List.length_take_of_le enough
  rw [bytes, if_neg (by omega)]

theorem bytes_of_lt {count : Nat} {cursor : Cursor} (lacking : cursor.remaining < count) :
    bytes count cursor =
      .error (.unexpectedEnd cursor.position count cursor.remaining) cursor := by
  have size : (cursor.unread.take count).length ≤ cursor.remaining := List.length_take_le' ..
  rw [bytes, if_pos (by omega)]

def Determined (reader : Reader α) : Prop := Accepts reader (Yields reader)

theorem Determined.map {reader : Reader α} (read : Determined reader) (f : α → β) :
    Determined (f <$> reader) := by
  apply (Accepts.map f read).imp
  intro taken value given
  rcases given with ⟨first, yields, rfl⟩
  exact yields.map f

theorem determined_bytes (count : Nat) : Determined (bytes count) := by
  apply (accepts_bytes count).imp
  intro taken value given
  rcases given with ⟨rfl, rfl⟩
  exact yields_bytes value

theorem determined_varint (width : VarintWidth) : Determined (varint width) :=
  (accepts_varint width).imp (fun _ _ form => yields_varint form)

theorem determined_bool : Determined bool := by
  apply accepts_bool.imp
  intro taken value same
  rw [same]
  exact yields_bool value

theorem determined_string : Determined string := by
  apply accepts_string.imp
  intro taken value given
  rcases given with ⟨size, rfl, form⟩
  exact (yields_varint form).bind (yields_sizedText value)

theorem determined_char : Determined char := by
  apply accepts_char.imp
  intro taken value same
  rw [same]
  exact yields_char value

/-- A read that fails leaves the cursor so many bytes ahead, all of which were there. -/
def FailsAhead (reader : Reader α) (spent : Cursor → Nat) : Prop :=
  ∀ cursor fault next, reader cursor = .error fault next →
    next = cursor.advance (spent cursor) ∧ spent cursor ≤ cursor.remaining

def Still (reader : Reader α) : Prop := FailsAhead reader (fun _ => 0)

theorem still_pure (value : α) : Still (pure value) := by
  intro cursor fault next failed
  cases failed

theorem still_throw (fault : ReadError) : Still (throw fault : Reader α) := by
  intro cursor cause next failed
  obtain ⟨_, rfl⟩ := EStateM.Result.error.inj failed
  exact ⟨rfl, Nat.zero_le _⟩

theorem FailsAhead.map {reader : Reader α} {spent : Cursor → Nat} (read : FailsAhead reader spent)
    (f : α → β) : FailsAhead (f <$> reader) spent := by
  intro cursor fault next failed
  rw [map_eq_pure_bind, bind_eq_error] at failed
  rcases failed with failed | ⟨first, middle, _, impossible⟩
  · exact read cursor fault next failed
  · cases impossible

theorem still_bytes (count : Nat) : Still (bytes count) := by
  intro cursor fault next failed
  rcases Nat.lt_or_ge cursor.remaining count with lacking | enough
  · rw [bytes_of_lt lacking] at failed
    obtain ⟨_, rfl⟩ := EStateM.Result.error.inj failed
    exact ⟨rfl, Nat.zero_le _⟩
  · rw [bytes_of_le enough] at failed
    cases failed

theorem still_varint (width : VarintWidth) : Still (varint width) := by
  intro cursor fault next failed
  unfold varint at failed
  split at failed
  next =>
    obtain ⟨_, rfl⟩ := EStateM.Result.error.inj failed
    exact ⟨rfl, Nat.zero_le _⟩
  next => cases failed

theorem failsAhead_judged {judge : Nat → List UInt8 → Reader α}
    (still : ∀ offset taken, Still (judge offset taken)) (count : Nat) :
    FailsAhead (get >>= fun cursor => bytes count >>= judge cursor.position)
      (fun cursor => cursor.allOrNone count) := by
  intro cursor fault next failed
  change (bytes count >>= judge cursor.position) cursor = .error fault next at failed
  refine ⟨?_, cursor.allOrNone_le count⟩
  change next = cursor.advance (cursor.allOrNone count)
  rcases Nat.lt_or_ge cursor.remaining count with lacking | enough
  · rw [bind_of_error (bytes_of_lt lacking)] at failed
    obtain ⟨_, rfl⟩ := EStateM.Result.error.inj failed
    rw [Cursor.allOrNone_of_lt lacking, Cursor.advance_zero]
  · rw [bind_of_ok (bytes_of_le enough)] at failed
    rw [Cursor.allOrNone_of_le enough]
    exact (still _ _ _ _ _ failed).1

theorem still_flag (offset : Nat) (taken : List UInt8) : Still (flag offset taken) := by
  unfold flag
  split
  · exact still_pure false
  · exact still_pure true
  · exact still_throw _
  · exact still_pure false

theorem still_text (offset : Nat) (taken : List UInt8) : Still (text offset taken) := by
  unfold text
  split
  · exact still_pure _
  · exact still_throw _

theorem still_scalar (offset : Nat) (taken : List UInt8) : Still (scalar offset taken) := by
  unfold scalar
  split
  · exact still_pure _
  · exact still_throw _

def spentOnString (cursor : Cursor) : Nat :=
  match Varint.decode .narrow cursor.unread with
  | .error _ => 0
  | .ok (size, read) => read + (cursor.advance read).allOrNone size

theorem failsAhead_sizedText (size : Nat) :
    FailsAhead (sizedText size) (fun cursor => cursor.allOrNone size) :=
  failsAhead_judged still_text size

theorem failsAhead_string : FailsAhead string spentOnString := by
  intro cursor fault next failed
  unfold spentOnString
  cases decoded : Varint.decode .narrow cursor.unread with
  | error cause =>
    have refused : varint .narrow cursor = .error (.varint cursor.position cause) cursor := by
      rw [varint, decoded]
    rw [string, bind_of_error refused] at failed
    obtain ⟨_, rfl⟩ := EStateM.Result.error.inj failed
    exact ⟨rfl, Nat.zero_le _⟩
  | ok pair =>
    obtain ⟨size, read⟩ := pair
    have taken : varint .narrow cursor = .ok size (cursor.advance read) := by
      rw [varint, decoded]
    have inside : read ≤ cursor.remaining := by
      have upper := (Varint.decodeFrom_advances decoded).2
      rwa [Nat.zero_add] at upper
    rw [string, bind_of_ok taken] at failed
    obtain ⟨rfl, _⟩ := failsAhead_sizedText size _ _ _ failed
    have room := (cursor.advance read).allOrNone_le size
    rw [Cursor.remaining_advance] at room
    refine ⟨Cursor.advance_advance .., ?_⟩
    change read + (cursor.advance read).allOrNone size ≤ cursor.remaining
    omega

def spentOnChar (cursor : Cursor) : Nat :=
  match cursor.unread with
  | [] => 0
  | lead :: _ =>
    match Text.Utf8.width? lead with
    | none => 0
    | some width => cursor.allOrNone width

theorem failsAhead_char : FailsAhead char spentOnChar := by
  intro cursor fault next failed
  obtain ⟨position, unread⟩ := cursor
  cases unread with
  | nil =>
    obtain ⟨_, rfl⟩ := EStateM.Result.error.inj failed
    exact ⟨rfl, Nat.zero_le _⟩
  | cons lead rest =>
    rw [char_cons, charOf] at failed
    simp only [spentOnChar]
    cases announced : Text.Utf8.width? lead with
    | none =>
      rw [announced] at failed
      exact still_throw _ _ _ _ failed
    | some width =>
      rw [announced] at failed
      exact failsAhead_judged still_scalar width _ _ _ failed

end Reader

namespace Operation

theorem determined_read (operation : Operation) : Reader.Determined operation.read := by
  cases operation with
  | bytes count => exact (Reader.determined_bytes count).map _
  | fixed width => exact ((Reader.determined_bytes width).map _).map _
  | varint width => exact (Reader.determined_varint width).map _
  | bool => exact Reader.determined_bool.map _
  | string => exact Reader.determined_string.map _
  | char => exact Reader.determined_char.map _

def spent : Operation → Cursor → Nat
  | bytes _, _ | fixed _, _ | varint _, _ => 0
  | bool, cursor => cursor.allOrNone 1
  | string, cursor => Reader.spentOnString cursor
  | char, cursor => Reader.spentOnChar cursor

theorem failsAhead_read (operation : Operation) :
    Reader.FailsAhead operation.read operation.spent := by
  cases operation with
  | bytes count => exact (Reader.still_bytes count).map _
  | fixed width => exact ((Reader.still_bytes width).map _).map _
  | varint width => exact (Reader.still_varint width).map _
  | bool => exact (Reader.failsAhead_judged Reader.still_flag 1).map _
  | string => exact Reader.failsAhead_string.map _
  | char => exact Reader.failsAhead_char.map _

/-- The calls that can fail on their first byte only: numbers always, a flag without a byte, a string
without a length, and a character whose lead byte announces nothing or more than there is. -/
def FailsAtOnce : Operation → Cursor → Prop
  | bytes _, _ | fixed _, _ | varint _, _ => True
  | bool, cursor => cursor.remaining = 0
  | string, cursor => ∀ size read, Varint.decode .narrow cursor.unread ≠ .ok (size, read)
  | char, cursor => ∀ width, cursor.unread.head?.bind Text.Utf8.width? = some width →
      cursor.remaining < width

theorem spent_eq_zero {operation : Operation} {cursor : Cursor} :
    operation.spent cursor = 0 ↔ operation.FailsAtOnce cursor := by
  cases operation with
  | bytes | fixed | varint => exact iff_of_true rfl trivial
  | bool =>
    rw [spent, Cursor.allOrNone_eq_zero Nat.one_pos, FailsAtOnce, Nat.lt_one_iff]
  | string =>
    simp only [spent, Reader.spentOnString, FailsAtOnce]
    cases decoded : Varint.decode .narrow cursor.unread with
    | error cause => simp
    | ok pair =>
      have positive := (Varint.decodeFrom_advances decoded).1
      refine iff_of_false (by simp only; omega) ?_
      intro never
      exact never pair.1 pair.2 rfl
  | char =>
    simp only [spent, Reader.spentOnChar, FailsAtOnce]
    cases cursor.unread with
    | nil => simp
    | cons lead rest =>
      cases announced : Text.Utf8.width? lead with
      | none => simp [announced]
      | some width =>
        have positive := Text.Utf8.width_pos announced
        simp [announced, Cursor.allOrNone_eq_zero positive]

/-- A call that fails leaves the cursor behind the bytes that it had taken, all of which were there. It
leaves it where it was exactly if it failed at once. -/
theorem failed_read {operation : Operation} {cursor next : Cursor} {fault : ReadError}
    (failed : operation.read cursor = .error fault next) :
    (next.position = cursor.position ↔ operation.FailsAtOnce cursor) ∧
      next = cursor.advance (operation.spent cursor) ∧
      operation.spent cursor ≤ cursor.remaining := by
  obtain ⟨rfl, inside⟩ := operation.failsAhead_read cursor fault next failed
  refine ⟨?_, rfl, inside⟩
  rw [← spent_eq_zero]
  change cursor.position + operation.spent cursor = cursor.position ↔ _
  omega

/-- A text that is one byte short: its length stays taken. A number that is one byte short: nothing
does. -/
theorem failed_read_short :
    (∃ next, string.read (.start [2, 0x61]) = .error (.unexpectedEnd 1 2 1) next ∧
      ¬string.FailsAtOnce (.start [2, 0x61]) ∧ next = (Cursor.start [2, 0x61]).advance 1) ∧
    ∃ next, (fixed 4).read (.start [0, 0]) = .error (.unexpectedEnd 0 4 2) next ∧
      next.position = 0 := by
  have text : string.read (.start [2, 0x61]) = .error (.unexpectedEnd 1 2 1) ⟨1, [0x61]⟩ := rfl
  have number : (fixed 4).read (.start [0, 0]) = .error (.unexpectedEnd 0 4 2) ⟨0, [0, 0]⟩ := rfl
  obtain ⟨moved, place, _⟩ := failed_read text
  refine ⟨⟨_, text, ?_, place⟩, _, number, (failed_read number).1.mpr trivial⟩
  intro atOnce
  exact absurd (moved.mpr atOnce) (by decide)

/-- A flag's byte, a text's length and a character's bytes stay taken when they are refused. -/
theorem failed_read_moves :
    bool.read (.start [2]) = .error (.invalidBool 0 2) ⟨1, []⟩ ∧
    string.read (.start [2, 0x61]) = .error (.unexpectedEnd 1 2 1) ⟨1, [0x61]⟩ ∧
    char.read (.start [0xC3, 0x28]) = .error (.invalidUtf8 0) ⟨2, []⟩ ∧
    ¬∀ (operation : Operation) (cursor next : Cursor) (fault : ReadError),
      operation.read cursor = .error fault next → next.position = cursor.position := by
  refine ⟨rfl, rfl, rfl, ?_⟩
  intro kept
  have still := kept bool (.start [2]) ⟨1, []⟩ (.invalidBool 0 2) rfl
  exact absurd still (by decide)

end Operation

end GameSheet.Wire
