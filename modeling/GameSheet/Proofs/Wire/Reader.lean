import GameSheet.Proofs.Text.Utf8
import GameSheet.Proofs.Wire.Patterns
import GameSheet.Proofs.Wire.Varint
import GameSheet.Wire.Reader

/-!
Two laws of readers. `Yields` goes from bytes to a value: these bytes in front of anything read as
that value. `Accepts` goes back: whatever was read came from bytes at the front that are related to
the value. Both are closed under doing one read after another.
-/

namespace GameSheet.Wire.Reader

variable {α β : Type}

def Yields (reader : Reader α) (bytes : List UInt8) (value : α) : Prop :=
  ∀ position suffix,
    reader ⟨position, bytes ++ suffix⟩ = .ok value ⟨position + bytes.length, suffix⟩

def Accepts (reader : Reader α) (law : List UInt8 → α → Prop) : Prop :=
  ∀ cursor value next, reader cursor = .ok value next →
    ∃ taken, law taken value ∧ cursor = ⟨cursor.position, taken ++ next.unread⟩ ∧
      next.position = cursor.position + taken.length

theorem bind_eq_ok {reader : Reader α} {next : α → Reader β} {cursor last : Cursor} {value : β} :
    (reader >>= next) cursor = .ok value last ↔
      ∃ first middle, reader cursor = .ok first middle ∧ next first middle = .ok value last := by
  change EStateM.bind reader next cursor = _ ↔ _
  unfold EStateM.bind
  cases read : reader cursor with
  | ok first middle => simp
  | error fault middle => simp

theorem map_eq_ok {reader : Reader α} {f : α → β} {cursor last : Cursor} {value : β} :
    (f <$> reader) cursor = .ok value last ↔
      ∃ first, reader cursor = .ok first last ∧ f first = value := by
  change EStateM.map f reader cursor = _ ↔ _
  unfold EStateM.map
  cases read : reader cursor with
  | ok first middle => simp; tauto
  | error fault middle => simp

theorem Yields.bind {reader : Reader α} {next : α → Reader β} {front back : List UInt8} {first : α}
    {value : β} (read : Yields reader front first) (later : Yields (next first) back value) :
    Yields (reader >>= next) (front ++ back) value := by
  intro position suffix
  rw [bind_eq_ok]
  refine ⟨first, ⟨position + front.length, back ++ suffix⟩, ?_, ?_⟩
  · rw [List.append_assoc]
    exact read position (back ++ suffix)
  · rw [List.length_append, ← Nat.add_assoc]
    exact later (position + front.length) suffix

theorem Yields.map {reader : Reader α} {bytes : List UInt8} {first : α} (f : α → β)
    (read : Yields reader bytes first) : Yields (f <$> reader) bytes (f first) := by
  intro position suffix
  rw [map_eq_ok]
  exact ⟨first, read position suffix, rfl⟩

theorem Yields.finish {reader : Reader α} {next : α → Reader β} {bytes : List UInt8} {first : α}
    {value : β} (read : Yields reader bytes first) (later : Yields (next first) [] value) :
    Yields (reader >>= next) bytes value := by
  have both := read.bind later
  rwa [List.append_nil] at both

theorem yields_pure (value : α) : Yields (pure value) [] value := by
  intro position suffix
  rfl

theorem Accepts.bind {reader : Reader α} {next : α → Reader β} {front : List UInt8 → α → Prop}
    {back : α → List UInt8 → β → Prop} (read : Accepts reader front)
    (later : ∀ first, Accepts (next first) (back first)) :
    Accepts (reader >>= next) (fun bytes value => ∃ head tail first,
      bytes = head ++ tail ∧ front head first ∧ back first tail value) := by
  intro cursor value last done
  obtain ⟨first, middle, start, finish⟩ := bind_eq_ok.mp done
  obtain ⟨head, headLaw, split, place⟩ := read cursor first middle start
  obtain ⟨tail, tailLaw, rest, stop⟩ := later first middle value last finish
  refine ⟨head ++ tail, ⟨head, tail, first, rfl, headLaw, tailLaw⟩, ?_, ?_⟩
  · rw [split, rest, List.append_assoc]
  · rw [stop, place, List.length_append, Nat.add_assoc]

theorem Accepts.map {reader : Reader α} {law : List UInt8 → α → Prop} (f : α → β)
    (read : Accepts reader law) :
    Accepts (f <$> reader) (fun bytes value => ∃ first, law bytes first ∧ f first = value) := by
  intro cursor value last done
  obtain ⟨first, start, same⟩ := map_eq_ok.mp done
  obtain ⟨taken, held, split, place⟩ := read cursor first last start
  exact ⟨taken, ⟨first, held, same⟩, split, place⟩

theorem Accepts.imp {reader : Reader α} {law weaker : List UInt8 → α → Prop}
    (read : Accepts reader law) (weaken : ∀ bytes value, law bytes value → weaker bytes value) :
    Accepts reader weaker := by
  intro cursor value last done
  obtain ⟨taken, held, split, place⟩ := read cursor value last done
  exact ⟨taken, weaken taken value held, split, place⟩

theorem accepts_pure (value : α) : Accepts (pure value) (fun bytes found => bytes = [] ∧ found = value) := by
  intro cursor found last done
  obtain ⟨rfl, rfl⟩ := EStateM.Result.ok.inj done
  exact ⟨[], ⟨rfl, rfl⟩, rfl, rfl⟩

theorem accepts_throw (fault : ReadError) : Accepts (throw fault : Reader α) (fun _ _ => False) := by
  intro cursor value last done
  exact absurd done (by simp [throw, throwThe, MonadExceptOf.throw, EStateM.throw])

theorem yields_bytes (taken : List UInt8) : Yields (bytes taken.length) taken taken := by
  intro position suffix
  simp only [bytes, List.take_left, lt_irrefl, if_false, Cursor.advance, List.drop_left]

theorem accepts_bytes (count : Nat) :
    Accepts (bytes count) (fun taken value => value = taken ∧ taken.length = count) := by
  intro cursor value last done
  simp only [bytes] at done
  split at done
  next => simp at done
  next enough =>
    obtain ⟨rfl, rfl⟩ := EStateM.Result.ok.inj done
    have size : (cursor.unread.take count).length = count := by
      have upper := List.length_take_le count cursor.unread
      omega
    refine ⟨cursor.unread.take count, ⟨rfl, size⟩, ?_, ?_⟩
    · simp only [Cursor.advance, List.take_append_drop]
    · rw [size]
      rfl

theorem yields_fixed {width value : Nat} (bound : value < 256 ^ width) :
    Yields (fixed width) (LittleEndian.encode width value) value := by
  have read := Yields.map LittleEndian.decode (yields_bytes (LittleEndian.encode width value))
  rw [LittleEndian.encode_length, LittleEndian.decode_encode, Nat.mod_eq_of_lt bound] at read
  exact read

theorem accepts_fixed (width : Nat) :
    Accepts (fixed width) (fun taken value =>
      taken = LittleEndian.encode width value ∧ value < 256 ^ width) := by
  apply Accepts.imp (Accepts.map LittleEndian.decode (accepts_bytes width))
  intro _ _ given
  rcases given with ⟨taken, ⟨rfl, size⟩, rfl⟩
  rw [← size, LittleEndian.encode_decode]
  exact ⟨rfl, LittleEndian.decode_lt taken⟩

theorem yields_varint {width : VarintWidth} {value : Nat} {form : List UInt8}
    (numeral : Varint.Form width 0 form value) : Yields (varint width) form value := by
  intro position suffix
  have decoded : Varint.decode width (form ++ suffix) = .ok (value, form.length) :=
    Varint.decode_eq_ok_iff.mpr ⟨form, suffix, rfl, rfl, numeral⟩
  simp only [varint, decoded, Cursor.advance, List.drop_left]

theorem accepts_varint (width : VarintWidth) :
    Accepts (varint width) (Varint.Form width 0) := by
  intro cursor value last done
  simp only [varint] at done
  split at done
  next => simp at done
  next number read decoded =>
    obtain ⟨rfl, rfl⟩ := EStateM.Result.ok.inj done
    obtain ⟨taken, rest, split, rfl, form⟩ := Varint.decode_eq_ok_iff.mp decoded
    refine ⟨taken, form, ?_, rfl⟩
    simp only [Cursor.advance, split, List.drop_left]
    rw [← split]

theorem yields_get_bind {next : Cursor → Reader β} {bytes : List UInt8} {value : β}
    (later : ∀ cursor, Yields (next cursor) bytes value) : Yields (get >>= next) bytes value := by
  intro position suffix
  exact later ⟨position, bytes ++ suffix⟩ position suffix

theorem accepts_get_bind {next : Cursor → Reader β} {law : List UInt8 → β → Prop}
    (later : ∀ cursor, Accepts (next cursor) law) : Accepts (get >>= next) law := by
  intro cursor value last done
  exact later cursor cursor value last done

theorem yields_bool (flag : Bool) : Yields bool [if flag then 1 else 0] flag := by
  apply yields_get_bind
  intro cursor
  have single := yields_bytes [if flag then (1 : UInt8) else 0]
  cases flag <;> exact single.finish (yields_pure _)

theorem accepts_flag (offset : Nat) (taken : List UInt8) : Accepts (flag offset taken)
    (fun tail value => tail = [] ∧ (taken ≠ [] → taken = [if value then 1 else 0])) := by
  unfold flag
  split
  · exact (accepts_pure false).imp (by simp)
  · exact (accepts_pure true).imp (by simp)
  · exact (accepts_throw _).imp (by simp)
  · exact (accepts_pure false).imp (by simp)

theorem accepts_bool : Accepts bool (fun taken value => taken = [if value then 1 else 0]) := by
  apply accepts_get_bind
  intro cursor
  apply ((accepts_bytes 1).bind (accepts_flag cursor.position)).imp
  intro _ value given
  rcases given with ⟨taken, _, _, rfl, ⟨rfl, size⟩, rfl, decided⟩
  rw [List.append_nil]
  exact decided (List.ne_nil_of_length_pos (by omega))

theorem yields_sizedText (s : String) :
    Yields (sizedText (Text.Utf8.encode s.toList).length) (Text.Utf8.encode s.toList) s := by
  have readable : Text.Utf8.decode? (Text.Utf8.encode s.toList) = some s.toList :=
    Text.Utf8.decode?_eq_some_iff.mpr rfl
  apply yields_get_bind
  intro cursor
  apply Yields.finish (yields_bytes _)
  simp only [text, readable, String.ofList_toList]
  exact yields_pure s

theorem yields_string {s : String} (bound : (Text.Utf8.encode s.toList).length < 2 ^ 32) :
    Yields string (Varint.encode (Text.Utf8.encode s.toList).length ++ Text.Utf8.encode s.toList) s :=
  Yields.bind (yields_varint (Varint.encode_form bound)) (yields_sizedText s)

theorem accepts_text (offset : Nat) (taken : List UInt8) : Accepts (text offset taken)
    (fun tail s => tail = [] ∧ taken = Text.Utf8.encode s.toList) := by
  unfold text
  split
  next chars decoded =>
    apply (accepts_pure (String.ofList chars)).imp
    intro tail s given
    rcases given with ⟨rfl, rfl⟩
    rw [String.toList_ofList]
    exact ⟨rfl, Text.Utf8.decode?_eq_some_iff.mp decoded⟩
  next => exact (accepts_throw _).imp (by simp)

theorem accepts_sizedText (size : Nat) : Accepts (sizedText size)
    (fun taken s => taken = Text.Utf8.encode s.toList ∧ taken.length = size) := by
  apply accepts_get_bind
  intro cursor
  apply ((accepts_bytes size).bind (accepts_text cursor.position)).imp
  intro _ s given
  rcases given with ⟨taken, _, _, rfl, ⟨rfl, length⟩, rfl, decoded⟩
  rw [List.append_nil]
  exact ⟨decoded, length⟩

theorem accepts_string :
    Accepts string (fun taken s => ∃ size, taken = size ++ Text.Utf8.encode s.toList ∧
      Varint.Form .narrow 0 size (Text.Utf8.encode s.toList).length) := by
  apply ((accepts_varint .narrow).bind accepts_sizedText).imp
  intro _ s given
  rcases given with ⟨size, _, length, rfl, form, rfl, rfl⟩
  exact ⟨size, rfl, form⟩

theorem yields_char (c : Char) : Yields char (Text.Utf8.encodeChar c) c := by
  intro position suffix
  have read := yields_bytes (Text.Utf8.encodeChar c) position suffix
  cases front : Text.Utf8.encodeChar c with
  | nil => exact absurd front (Text.Utf8.encodeChar_ne_nil c)
  | cons lead tail =>
    have width := Text.Utf8.width?_encodeChar c front
    have valid := Text.Utf8.scalar?_encodeChar c
    rw [front] at read width valid
    rw [char, bind_eq_ok]
    refine ⟨_, _, rfl, ?_⟩
    simp only [List.cons_append, width]
    rw [bind_eq_ok]
    refine ⟨_, _, read, ?_⟩
    rw [scalar, valid]
    rfl

theorem accepts_scalar (offset : Nat) (taken : List UInt8) : Accepts (scalar offset taken)
    (fun tail c => tail = [] ∧ taken = Text.Utf8.encodeChar c) := by
  unfold scalar
  split
  next d valid =>
    apply (accepts_pure d).imp
    intro tail c given
    rcases given with ⟨rfl, rfl⟩
    exact ⟨rfl, (Text.Utf8.encodeChar_of_scalar? valid).symm⟩
  next => exact (accepts_throw _).imp (by simp)

theorem accepts_char : Accepts char (fun taken c => taken = Text.Utf8.encodeChar c) := by
  apply accepts_get_bind
  intro cursor
  split
  · exact (accepts_throw _).imp (by simp)
  · split
    · exact (accepts_throw _).imp (by simp)
    next width announced =>
      apply ((accepts_bytes width).bind (accepts_scalar cursor.position)).imp
      intro _ c given
      rcases given with ⟨taken, _, _, rfl, ⟨rfl, size⟩, rfl, valid⟩
      rw [List.append_nil]
      exact valid

end GameSheet.Wire.Reader
