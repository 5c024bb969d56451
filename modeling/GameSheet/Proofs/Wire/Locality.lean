import GameSheet.Proofs.Wire.Reader

/-!
Bytes behind a value. A reader is local when it heeds only the bytes that it takes: what was read from
some bytes is read from them also in front of others, and a read that fails does so again there, unless
the end of the bytes had stopped it. Local readers in a row are a local reader.
-/

namespace GameSheet.Wire

inductive ReadError.Ended : ReadError → Prop where
  | bytes (offset needed remaining : Nat) : Ended (.unexpectedEnd offset needed remaining)
  | numeral (offset read : Nat) : Ended (.varint offset (.truncated read))

namespace Varint

variable {width : VarintWidth}

/-- A numeral that is refused for its bytes is refused whatever follows. -/
theorem decodeFrom_append_error {index : Nat} {bytes : List UInt8} {fault : VarintError}
    (failed : decodeFrom width index bytes = .error fault) (suffix : List UInt8) :
    (∃ read, fault = .truncated read) ∨
      decodeFrom width index (bytes ++ suffix) = .error fault := by
  induction bytes generalizing index with
  | nil =>
    left
    rw [decodeFrom] at failed
    exact ⟨index, (Except.error.inj failed).symm⟩
  | cons byte rest ih =>
    simp only [decodeFrom] at failed
    simp only [List.cons_append, decodeFrom]
    split at failed
    next large => exact Or.inr (by rw [if_pos large, Except.error.inj failed])
    next fits =>
      split at failed
      next => simp at failed
      next marked =>
        cases later : decodeFrom width (index + 1) rest with
        | ok pair => simp [later, Except.map] at failed
        | error cause =>
          obtain rfl : cause = fault := by simpa [later, Except.map] using failed
          rcases ih later with cut | same
          · exact Or.inl cut
          · right
            rw [if_neg fits, if_neg marked, same]
            rfl

theorem decode_append_ok {bytes : List UInt8} {value read : Nat}
    (decoded : decode width bytes = .ok (value, read)) (suffix : List UInt8) :
    decode width (bytes ++ suffix) = .ok (value, read) := by
  obtain ⟨taken, rest, rfl, same, form⟩ := decode_eq_ok_iff.mp decoded
  exact decode_eq_ok_iff.mpr ⟨taken, rest ++ suffix, List.append_assoc .., same, form⟩

end Varint

namespace Reader

variable {α β : Type}

structure Local (reader : Reader α) : Prop where
  ok : ∀ {position : Nat} {bytes : List UInt8} {value : α} {next : Cursor},
    reader ⟨position, bytes⟩ = .ok value next → ∀ suffix,
      reader ⟨position, bytes ++ suffix⟩ = .ok value ⟨next.position, next.unread ++ suffix⟩
  error : ∀ {position : Nat} {bytes : List UInt8} {fault : ReadError} {next : Cursor},
    reader ⟨position, bytes⟩ = .error fault next → ∀ suffix,
      fault.Ended ∨ ∃ after, reader ⟨position, bytes ++ suffix⟩ = .error fault after

theorem bind_of_ok {reader : Reader α} {next : α → Reader β} {cursor middle : Cursor} {first : α}
    (read : reader cursor = .ok first middle) : (reader >>= next) cursor = next first middle := by
  change EStateM.bind reader next cursor = _
  rw [EStateM.bind, read]

theorem bind_of_error {reader : Reader α} {next : α → Reader β} {cursor last : Cursor}
    {fault : ReadError} (failed : reader cursor = .error fault last) :
    (reader >>= next) cursor = .error fault last := by
  change EStateM.bind reader next cursor = _
  rw [EStateM.bind, failed]

theorem bind_eq_error {reader : Reader α} {next : α → Reader β} {cursor last : Cursor}
    {fault : ReadError} : (reader >>= next) cursor = .error fault last ↔
      reader cursor = .error fault last ∨
        ∃ first middle, reader cursor = .ok first middle ∧ next first middle = .error fault last := by
  cases read : reader cursor with
  | ok first middle => simp [bind_of_ok read]
  | error cause middle => simp [bind_of_error read]

theorem Local.bind {reader : Reader α} {next : α → Reader β} (first : Local reader)
    (later : ∀ value, Local (next value)) : Local (reader >>= next) where
  ok read suffix := by
    obtain ⟨value, ⟨place, rest⟩, start, finish⟩ := bind_eq_ok.mp read
    exact bind_eq_ok.mpr ⟨value, _, first.ok start suffix, (later value).ok finish suffix⟩
  error {position bytes fault last} failed suffix := by
    cases start : reader ⟨position, bytes⟩ with
    | ok value middle =>
      rw [bind_of_ok start] at failed
      rcases (later value).error failed suffix with ended | ⟨after, same⟩
      · exact Or.inl ended
      · exact Or.inr ⟨after, (bind_of_ok (first.ok start suffix)).trans same⟩
    | error cause middle =>
      rw [bind_of_error start] at failed
      obtain ⟨rfl, rfl⟩ := EStateM.Result.error.inj failed
      rcases first.error start suffix with ended | ⟨after, same⟩
      · exact Or.inl ended
      · exact Or.inr ⟨after, bind_of_error same⟩

theorem local_pure (value : α) : Local (pure value) where
  ok read suffix := by
    obtain ⟨rfl, rfl⟩ := EStateM.Result.ok.inj read
    rfl
  error failed := by cases failed

theorem local_throw (fault : ReadError) : Local (throw fault : Reader α) where
  ok read := by cases read
  error failed suffix := by
    obtain ⟨rfl, _⟩ := EStateM.Result.error.inj failed
    exact Or.inr ⟨_, rfl⟩

theorem Local.map {reader : Reader α} (read : Local reader) (f : α → β) : Local (f <$> reader) := by
  rw [map_eq_pure_bind]
  exact read.bind (fun value => local_pure (f value))

theorem local_position_bind {next : Nat → Reader β} (later : ∀ offset, Local (next offset)) :
    Local (get >>= fun cursor => next cursor.position) where
  ok {position _ _ _} read suffix := (later position).ok read suffix
  error {position _ _ _} failed suffix := (later position).error failed suffix

theorem advance_append {position count : Nat} {given : List UInt8} (inside : count ≤ given.length)
    (suffix : List UInt8) : Cursor.advance ⟨position, given ++ suffix⟩ count =
      ⟨position + count, given.drop count ++ suffix⟩ := by
  simp only [Cursor.advance, List.drop_append_of_le_length inside]

theorem local_bytes (count : Nat) : Local (bytes count) where
  ok {position given value next} read suffix := by
    simp only [bytes] at read ⊢
    split at read
    next => cases read
    next enough =>
      obtain ⟨rfl, rfl⟩ := EStateM.Result.ok.inj read
      have inside : count ≤ given.length := by
        have upper := List.length_take_le' count given
        omega
      rw [List.take_append_of_le_length inside, if_neg enough, advance_append inside]
      rfl
  error failed suffix := by
    simp only [bytes] at failed
    split at failed
    next =>
      obtain ⟨rfl, _⟩ := EStateM.Result.error.inj failed
      exact Or.inl (.bytes ..)
    next => cases failed

theorem local_fixed (width : Nat) : Local (fixed width) :=
  (local_bytes width).bind (fun _ => local_pure _)

theorem local_varint (width : VarintWidth) : Local (varint width) where
  ok {position given value next} read suffix := by
    simp only [varint] at read ⊢
    split at read
    next => cases read
    next number count decoded =>
      obtain ⟨rfl, rfl⟩ := EStateM.Result.ok.inj read
      have inside : count ≤ given.length := by
        have upper := (Varint.decodeFrom_advances decoded).2
        omega
      rw [Varint.decode_append_ok decoded suffix]
      exact congrArg (EStateM.Result.ok number) (advance_append inside suffix)
  error {position given fault next} failed suffix := by
    simp only [varint] at failed ⊢
    split at failed
    next cause refused =>
      obtain ⟨rfl, _⟩ := EStateM.Result.error.inj failed
      rcases Varint.decodeFrom_append_error refused suffix with ⟨count, rfl⟩ | same
      · exact Or.inl (.numeral ..)
      · rw [← Varint.decode] at same
        exact Or.inr ⟨_, by rw [same]⟩
    next => cases failed

theorem local_flag (offset : Nat) (taken : List UInt8) : Local (flag offset taken) := by
  unfold flag
  split
  · exact local_pure false
  · exact local_pure true
  · exact local_throw _
  · exact local_pure false

theorem local_bool : Local bool :=
  local_position_bind (fun offset => (local_bytes 1).bind (local_flag offset))

theorem local_text (offset : Nat) (taken : List UInt8) : Local (text offset taken) := by
  unfold text
  split
  · exact local_pure _
  · exact local_throw _

theorem local_string : Local string :=
  (local_varint .narrow).bind (fun size =>
    local_position_bind (fun offset => (local_bytes size).bind (local_text offset)))

theorem local_scalar (offset : Nat) (taken : List UInt8) : Local (scalar offset taken) := by
  unfold scalar
  split
  · exact local_pure _
  · exact local_throw _

def charOf (lead : UInt8) (offset : Nat) : Reader Char :=
  match Text.Utf8.width? lead with
  | none => throw (.invalidUtf8 offset)
  | some width => bytes width >>= scalar offset

theorem local_charOf (lead : UInt8) (offset : Nat) : Local (charOf lead offset) := by
  unfold charOf
  split
  · exact local_throw _
  · exact (local_bytes _).bind (local_scalar offset)

theorem char_cons (position : Nat) (lead : UInt8) (rest : List UInt8) :
    char ⟨position, lead :: rest⟩ = charOf lead position ⟨position, lead :: rest⟩ := rfl

-- The width is looked up in the first byte before any byte is taken, so there are two cases.
theorem local_char : Local char where
  ok {position given value next} read suffix := by
    cases given with
    | nil => cases read
    | cons lead rest =>
      rw [char_cons] at read
      rw [List.cons_append, char_cons]
      exact (local_charOf lead position).ok read suffix
  error {position given fault next} failed suffix := by
    cases given with
    | nil =>
      obtain ⟨rfl, _⟩ := EStateM.Result.error.inj failed
      exact Or.inl (.bytes ..)
    | cons lead rest =>
      rw [char_cons] at failed
      rw [List.cons_append, char_cons]
      exact (local_charOf lead position).error failed suffix

end Reader

end GameSheet.Wire
