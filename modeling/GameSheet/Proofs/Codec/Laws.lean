import GameSheet.Codec.Standard
import GameSheet.Proofs.Traversal
import GameSheet.Proofs.Wire.Reader

/-!
Laws of codecs. A codec reads back what it writes, and a canonical one writes what it reads in the
fewest bytes that read so. All standard codecs have both laws, and they write every value that they
parse from a text short enough to have a length on the wire.
-/

namespace GameSheet

open Number (IntegerKind Bounded)
open Wire Wire.Reader

namespace Codec

/-- Reading what was written for the value of a cell gives that value and stops behind it. -/
def ReadsBack (codec : Codec) : Prop :=
  ∀ text value bytes, codec.parse text = .ok value → codec.write value = .ok bytes →
    Yields codec.read bytes value

def Faithful (codec : Codec) : Prop :=
  ∀ value bytes, codec.write value = .ok bytes → Yields codec.read bytes value

/-- A value that was read can be written, in the bytes it came from or in fewer. -/
def Canonical (codec : Codec) : Prop :=
  Accepts codec.read (fun taken value => ∃ written, codec.write value = .ok written ∧
    Shortens written taken)

theorem Faithful.readsBack {codec : Codec} (faithful : codec.Faithful) : codec.ReadsBack := by
  intro text value bytes _ written
  exact faithful value bytes written

theorem yields_integer {kind : IntegerKind} (n : Bounded kind) :
    Yields (readInteger kind) (integerBytes n) n := by
  have small := n.pattern_lt
  unfold readInteger integerBytes
  split
  next narrow =>
    rw [kind.narrow_count narrow] at small
    have read := (yields_fixed small).map (Bounded.ofPattern kind)
    rwa [Bounded.ofPattern_pattern] at read
  next wide =>
    rw [kind.count_eq] at small
    have room : n.pattern < 2 ^ (if kind.bits = 32 then VarintWidth.narrow else .wide).bits := by
      revert wide small
      cases kind <;> simp [IntegerKind.bits, VarintWidth.bits]
    have read := (yields_varint (Varint.encode_form room)).map (Bounded.ofPattern kind)
    rwa [Bounded.ofPattern_pattern] at read

theorem accepts_integer (kind : IntegerKind) :
    Accepts (readInteger kind) (fun taken n => Shortens (integerBytes n) taken) := by
  unfold readInteger integerBytes
  split
  next narrow =>
    apply ((accepts_fixed _).map _).imp
    intro _ _ given
    rcases given with ⟨pattern, ⟨rfl, small⟩, rfl⟩
    rw [← kind.narrow_count narrow] at small
    rw [Bounded.pattern_ofPattern, Nat.mod_eq_of_lt small]
    exact Or.inl rfl
  next wide =>
    apply ((accepts_varint _).map _).imp
    intro taken _ given
    rcases given with ⟨pattern, form, rfl⟩
    have small : pattern < kind.count := by
      have bound := form.lt_bits
      rw [kind.count_eq]
      revert wide bound
      cases kind <;> simp [IntegerKind.bits, VarintWidth.bits]
    rw [Bounded.pattern_ofPattern, Nat.mod_eq_of_lt small]
    exact form.shortens

theorem yields_single (bits : UInt32) : Yields readSingle (singleBytes bits) bits := by
  have read := (yields_fixed (by simpa using bits.toNat_lt : bits.toNat < 256 ^ 4)).map UInt32.ofNat
  rwa [UInt32.ofNat_toNat] at read

theorem accepts_single : Accepts readSingle (fun taken bits => taken = singleBytes bits) := by
  apply ((accepts_fixed 4).map UInt32.ofNat).imp
  intro _ _ given
  rcases given with ⟨pattern, ⟨rfl, small⟩, rfl⟩
  rw [singleBytes, UInt32.toNat_ofNat_of_lt' (by simpa using small)]

theorem yields_singles {count : Nat} (components : Vector UInt32 count) :
    Yields (readSingles count) (components.toList.flatMap singleBytes) components := by
  induction count with
  | zero =>
    have none : components = #v[] := Vector.eq_empty
    rw [none]
    exact yields_pure _
  | succ count ih =>
    have split : components.pop.push components.back = components := Vector.push_pop_back components
    rw [← split, Vector.toList_push, List.flatMap_append, List.flatMap_singleton]
    apply (ih components.pop).bind
    exact (yields_single components.back).finish (yields_pure _)

theorem accepts_singles (count : Nat) : Accepts (readSingles count)
    (fun taken components => taken = components.toList.flatMap singleBytes) := by
  induction count with
  | zero =>
    apply (accepts_pure #v[]).imp
    intro taken components given
    rcases given with ⟨rfl, rfl⟩
    rfl
  | succ count ih =>
    apply (ih.bind (fun earlier => accepts_single.bind (fun bits => accepts_pure _))).imp
    intro _ _ given
    rcases given with ⟨_, _, earlier, rfl, rfl, _, _, bits, rfl, rfl, rfl, rfl⟩
    rw [Vector.toList_push, List.flatMap_append, List.flatMap_singleton, List.append_nil]

@[simp] theorem mismatch_ne_ok (keyword : String) (found : Value) (bytes : List UInt8) :
    mismatch keyword found ≠ .ok bytes := by
  simp [mismatch]

theorem integer_faithful (kind : IntegerKind) : (integer kind).Faithful := by
  intro value bytes written
  cases value with
  | integer found n =>
    simp only [integer] at written
    split at written
    next same =>
      subst same
      rw [← Except.ok.inj written]
      exact (yields_integer n).map _
    next => simp at written
  | _ => simp [integer] at written

theorem integer_canonical (kind : IntegerKind) : (integer kind).Canonical := by
  apply ((accepts_integer kind).map _).imp
  intro taken _ given
  rcases given with ⟨n, shorter, rfl⟩
  exact ⟨integerBytes n, by simp [integer], shorter⟩

theorem bool_faithful : bool.Faithful := by
  intro value bytes written
  cases value with
  | bool flag =>
    rw [← Except.ok.inj written]
    exact (yields_bool flag).map _
  | _ => simp [bool] at written

theorem bool_canonical : bool.Canonical := by
  apply (accepts_bool.map _).imp
  intro taken _ given
  rcases given with ⟨flag, rfl, rfl⟩
  exact ⟨_, rfl, Or.inl rfl⟩

theorem float_faithful : float.Faithful := by
  intro value bytes written
  cases value with
  | float bits =>
    rw [← Except.ok.inj written]
    exact (yields_single bits).map _
  | _ => simp [float] at written

theorem float_canonical : float.Canonical := by
  apply (accepts_single.map _).imp
  intro taken _ given
  rcases given with ⟨bits, rfl, rfl⟩
  exact ⟨_, rfl, Or.inl rfl⟩

theorem double_faithful : double.Faithful := by
  intro value bytes written
  cases value with
  | double bits =>
    have small : bits.toNat < 256 ^ 8 := by simpa using bits.toNat_lt
    have read := (yields_fixed small).map (fun bits => Value.double (UInt64.ofNat bits))
    rw [UInt64.ofNat_toNat] at read
    rw [← Except.ok.inj written]
    exact read
  | _ => simp [double] at written

theorem double_canonical : double.Canonical := by
  apply ((accepts_fixed 8).map _).imp
  intro _ _ given
  rcases given with ⟨bits, ⟨rfl, small⟩, rfl⟩
  refine ⟨_, rfl, Or.inl ?_⟩
  rw [UInt64.toNat_ofNat_of_lt' (by simpa using small)]

theorem char_faithful : char.Faithful := by
  intro value bytes written
  cases value with
  | char c =>
    rw [← Except.ok.inj written]
    exact (yields_char c).map _
  | _ => simp [char] at written

theorem char_canonical : char.Canonical := by
  apply (accepts_char.map _).imp
  intro taken _ given
  rcases given with ⟨c, rfl, rfl⟩
  exact ⟨_, rfl, Or.inl rfl⟩

theorem stringBytes_eq_some_iff {s : String} {bytes : List UInt8} :
    stringBytes s = some bytes ↔ (Text.Utf8.encode s.toList).length < 2 ^ 32 ∧
      bytes = Varint.encode (Text.Utf8.encode s.toList).length ++ Text.Utf8.encode s.toList := by
  have limit : IntegerKind.uint.count = 2 ^ 32 := by decide
  simp only [stringBytes, limit]
  by_cases small : (Text.Utf8.encode s.toList).length < 2 ^ 32
  · rw [if_pos small, Option.some.injEq]
    constructor
    · intro same
      exact ⟨small, same.symm⟩
    · intro given
      rcases given with ⟨_, same⟩
      exact same.symm
  · rw [if_neg small]
    constructor
    · intro same
      simp at same
    · intro given
      rcases given with ⟨small', _⟩
      exact absurd small' small

theorem string_faithful : string.Faithful := by
  intro value bytes written
  cases value with
  | string s =>
    simp only [string] at written
    split at written
    next found encoded =>
      obtain ⟨small, rfl⟩ := stringBytes_eq_some_iff.mp encoded
      rw [← Except.ok.inj written]
      exact (yields_string small).map _
    next => simp at written
  | _ => simp [string] at written

theorem string_canonical : string.Canonical := by
  apply (accepts_string.map _).imp
  intro _ _ given
  rcases given with ⟨s, ⟨size, rfl, form⟩, rfl⟩
  have encoded := stringBytes_eq_some_iff.mpr ⟨form.lt_bits, rfl⟩
  refine ⟨Varint.encode (Text.Utf8.encode s.toList).length ++ Text.Utf8.encode s.toList, ?_, ?_⟩
  · simp only [string, encoded]
  · exact form.shortens.append (Or.inl rfl)

theorem datetime_faithful : datetime.Faithful := by
  intro value bytes written
  cases value with
  | datetime ticks =>
    have small : ticks.pattern < 256 ^ 8 := ticks.pattern_lt
    have read := (yields_fixed small).map
      (fun pattern => Value.datetime (Bounded.ofPattern .long pattern))
    rw [Bounded.ofPattern_pattern] at read
    rw [← Except.ok.inj written]
    exact read
  | _ => simp [datetime] at written

theorem datetime_canonical : datetime.Canonical := by
  apply ((accepts_fixed 8).map _).imp
  intro _ _ given
  rcases given with ⟨pattern, ⟨rfl, small⟩, rfl⟩
  refine ⟨_, rfl, Or.inl ?_⟩
  rw [Bounded.pattern_ofPattern, Nat.mod_eq_of_lt (by simpa [IntegerKind.count] using small)]

theorem tuple_faithful (shape : FloatShape) : (tuple shape).Faithful := by
  intro value bytes written
  cases value with
  | tuple found components =>
    simp only [tuple] at written
    split at written
    next same =>
      subst same
      rw [← Except.ok.inj written]
      exact (yields_singles components).map _
    next => simp at written
  | _ => simp [tuple] at written

theorem tuple_canonical (shape : FloatShape) : (tuple shape).Canonical := by
  apply ((accepts_singles shape.arity).map _).imp
  intro taken _ given
  rcases given with ⟨components, rfl, rfl⟩
  exact ⟨_, by simp [tuple], Or.inl rfl⟩

theorem byte_components (pattern : Nat) :
    [Bounded.ofPattern .byte pattern, .ofPattern .byte (pattern / 0x100),
      .ofPattern .byte (pattern / 0x10000), .ofPattern .byte (pattern / 0x1000000)].flatMap
        integerBytes = LittleEndian.encode 4 pattern := by
  have single (n : Nat) : integerBytes (Bounded.ofPattern .byte n) = [UInt8.ofNat (n % 256)] := by
    rw [integerBytes, if_pos (by decide), Bounded.pattern_ofPattern]
    simp only [IntegerKind.bits, IntegerKind.count, LittleEndian.encode, Nat.mod_mod]
  simp only [List.flatMap_cons, List.flatMap_nil, single, List.cons_append, List.nil_append,
    LittleEndian.encode, Nat.div_div_eq_div_mul]

def packed (r g b a : Bounded .byte) : Nat :=
  r.pattern + 0x100 * g.pattern + 0x10000 * b.pattern + 0x1000000 * a.pattern

theorem packed_lt (r g b a : Bounded .byte) : packed r g b a < 256 ^ 4 := by
  have red := r.pattern_lt
  have green := g.pattern_lt
  have blue := b.pattern_lt
  have alpha := a.pattern_lt
  simp only [IntegerKind.count] at red green blue alpha
  simp only [packed]
  omega

theorem ofPattern_packed (r g b a : Bounded .byte) :
    Bounded.ofPattern .byte (packed r g b a) = r ∧
      Bounded.ofPattern .byte (packed r g b a / 0x100) = g ∧
      Bounded.ofPattern .byte (packed r g b a / 0x10000) = b ∧
      Bounded.ofPattern .byte (packed r g b a / 0x1000000) = a := by
  have red := r.pattern_lt
  have green := g.pattern_lt
  have blue := b.pattern_lt
  have alpha := a.pattern_lt
  simp only [IntegerKind.count] at red green blue alpha
  refine ⟨?_, ?_, ?_, ?_⟩
  all_goals
    apply Bounded.ofPattern_eq
    simp only [packed, IntegerKind.count]
    omega

theorem color32_faithful : color32.Faithful := by
  intro value bytes written
  cases value with
  | color32 r g b a =>
    obtain ⟨red, green, blue, alpha⟩ := ofPattern_packed r g b a
    have split := byte_components (packed r g b a)
    have read : Yields color32.read (LittleEndian.encode 4 (packed r g b a)) _ :=
      (yields_fixed (packed_lt r g b a)).finish (yields_pure _)
    rw [red, green, blue, alpha] at read split
    rw [← Except.ok.inj written, split]
    exact read
  | _ => simp [color32] at written

theorem color32_canonical : color32.Canonical := by
  apply ((accepts_fixed 4).bind (fun pattern => accepts_pure _)).imp
  intro _ _ given
  rcases given with ⟨_, _, pattern, rfl, ⟨rfl, small⟩, rfl, rfl⟩
  refine ⟨_, rfl, Or.inl ?_⟩
  rw [byte_components, List.append_nil]

theorem comment_faithful : comment.Faithful := by
  intro value bytes written
  simp [comment] at written

theorem comment_canonical : comment.Canonical :=
  (accepts_throw _).imp (by simp)

end Codec

namespace ColumnType

theorem codec_faithful (type : ColumnType) : type.codec.Faithful := by
  cases type with
  | id => exact Codec.integer_faithful .int
  | bool => exact Codec.bool_faithful
  | integer kind => exact Codec.integer_faithful kind
  | float => exact Codec.float_faithful
  | double => exact Codec.double_faithful
  | char => exact Codec.char_faithful
  | string => exact Codec.string_faithful
  | datetime => exact Codec.datetime_faithful
  | tuple shape => exact Codec.tuple_faithful shape
  | color32 => exact Codec.color32_faithful
  | comment => exact Codec.comment_faithful

theorem codec_canonical (type : ColumnType) : type.codec.Canonical := by
  cases type with
  | id => exact Codec.integer_canonical .int
  | bool => exact Codec.bool_canonical
  | integer kind => exact Codec.integer_canonical kind
  | float => exact Codec.float_canonical
  | double => exact Codec.double_canonical
  | char => exact Codec.char_canonical
  | string => exact Codec.string_canonical
  | datetime => exact Codec.datetime_canonical
  | tuple shape => exact Codec.tuple_canonical shape
  | color32 => exact Codec.color32_canonical
  | comment => exact Codec.comment_canonical

/-- Only a string's length can keep a value that was parsed from being written. -/
theorem codec_writes (type : ColumnType) {text : String} {value : Value}
    (small : (Text.Utf8.encode text.toList).length < 2 ^ 32)
    (parsed : type.codec.parse text = .ok value) :
    ∃ bytes, type.codec.write value = .ok bytes := by
  cases type with
  | id =>
    obtain ⟨n, _, rfl⟩ := Traversal.map_eq_ok.mp parsed
    exact ⟨Codec.integerBytes n, by simp [codec, Codec.id, Codec.integer]⟩
  | integer kind =>
    obtain ⟨n, _, rfl⟩ := Traversal.map_eq_ok.mp parsed
    exact ⟨Codec.integerBytes n, by simp [codec, Codec.integer]⟩
  | string =>
    obtain rfl := Except.ok.inj parsed
    have encoded := Codec.stringBytes_eq_some_iff.mpr ⟨small, rfl⟩
    refine ⟨Varint.encode (Text.Utf8.encode text.toList).length ++ Text.Utf8.encode text.toList, ?_⟩
    simp only [codec, Codec.string, encoded]
  | tuple shape =>
    obtain ⟨components, _, rfl⟩ := Traversal.map_eq_ok.mp parsed
    exact ⟨components.toList.flatMap Codec.singleBytes, by simp [codec, Codec.tuple]⟩
  | color32 =>
    obtain ⟨parts, _, same⟩ := Traversal.bind_eq_ok.mp parsed
    rw [← Except.ok.inj same]
    exact ⟨_, rfl⟩
  | comment => simp [codec, Codec.comment] at parsed
  | bool | float | double | char | datetime =>
    obtain ⟨found, _, rfl⟩ := Traversal.map_eq_ok.mp parsed
    exact ⟨_, rfl⟩

end ColumnType

end GameSheet
