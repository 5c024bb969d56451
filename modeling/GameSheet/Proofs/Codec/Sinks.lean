import GameSheet.Proofs.Codec.Laws
import GameSheet.Table.Encode

/-!
Values in the midst of other bytes. A codec of a standard type appends a value of its own kind to a
sink, and reads it from behind what was there before, wherever the bytes go on. A value of another kind
leaves the sink as it was, and so does a string that is too long to have its length on the wire.
-/

namespace GameSheet

open Wire Wire.Reader

def ColumnType.kind? : ColumnType → Option Kind
  | id => some (.integer .int)
  | bool => some .bool
  | integer kind => some (.integer kind)
  | float => some .float
  | double => some .double
  | char => some .char
  | string => some .string
  | datetime => some .datetime
  | tuple shape => some (.tuple shape)
  | color32 => some .color32
  | comment => none

def Value.Short : Value → Prop
  | string s => (Text.Utf8.encode s.toList).length < 2 ^ 32
  | _ => True

def Codec.put (codec : Codec) (value : Value) (sink : List UInt8) : List UInt8 × Option WriteError :=
  match codec.write value with
  | .ok bytes => (sink ++ bytes, none)
  | .error failed => (sink ++ failed.left, some failed.reason)

theorem Encode.cell_of_parse {codec : Codec} {text : String} {value : Value}
    (parsed : codec.parse text = .ok value) (sink : List UInt8) :
    cell codec text sink = ((codec.put value sink).1, (codec.put value sink).2.map .write) := by
  simp only [cell, parsed, Codec.put]
  cases codec.write value <;> rfl

/-- In the midst of other bytes a reader yields what it yields in front of them. -/
theorem Wire.Reader.Yields.amid {reader : Reader Value} {bytes : List UInt8} {value : Value}
    (read : Yields reader bytes value) (front rest : List UInt8) :
    reader ((Cursor.start (front ++ bytes ++ rest)).advance front.length) =
      .ok value ((Cursor.start (front ++ bytes ++ rest)).advance (front.length + bytes.length)) := by
  have before : (Cursor.start (front ++ bytes ++ rest)).advance front.length =
      ⟨front.length, bytes ++ rest⟩ := by
    simp [Cursor.start, Cursor.advance]
  have behind : (Cursor.start (front ++ bytes ++ rest)).advance (front.length + bytes.length) =
      ⟨front.length + bytes.length, rest⟩ := by
    simp [Cursor.start, Cursor.advance]
  rw [before, behind]
  exact read front.length rest

namespace ColumnType

theorem exists_write {type : ColumnType} {value : Value} (typed : type.kind? = some value.kind)
    (short : value.Short) : ∃ bytes, type.codec.write value = .ok bytes := by
  cases type with
  | id | integer kind =>
    cases value with
    | integer found n =>
      simp only [kind?, Value.kind, Option.some.injEq, Kind.integer.injEq] at typed
      subst typed
      exact ⟨Codec.integerBytes n, by simp [codec, Codec.id, Codec.integer]⟩
    | _ => cases typed
  | string =>
    cases value with
    | string s =>
      have encoded := Codec.stringBytes_eq_some_iff.mpr ⟨short, rfl⟩
      refine ⟨Varint.encode (Text.Utf8.encode s.toList).length ++ Text.Utf8.encode s.toList, ?_⟩
      simp only [codec, Codec.string, encoded]
    | _ => cases typed
  | tuple shape =>
    cases value with
    | tuple found components =>
      simp only [kind?, Value.kind, Option.some.injEq, Kind.tuple.injEq] at typed
      subst typed
      exact ⟨components.toList.flatMap Codec.singleBytes, by simp [codec, Codec.tuple]⟩
    | _ => cases typed
  | comment => cases typed
  | bool | float | double | char | datetime | color32 =>
    -- These write whatever they have a constructor for.
    cases value <;> cases typed
    exact ⟨_, rfl⟩

theorem write_other {type : ColumnType} {kind : Kind} {value : Value} (typed : type.kind? = some kind)
    (other : ¬(value.kind = kind ∧ value.Short)) :
    type.codec.write value = .error ⟨[], .typeMismatch kind.name value.kind⟩ := by
  cases type with
  | id | integer wanted =>
    obtain rfl := Option.some.inj typed
    cases value with
    | integer found n =>
      have differ : found ≠ _ := fun same => other ⟨congrArg Kind.integer same, trivial⟩
      simp [codec, Codec.id, Codec.integer, differ, Codec.mismatch, Kind.name]
    | _ => rfl
  | string =>
    obtain rfl := Option.some.inj typed
    cases value with
    | string s =>
      have long : Codec.stringBytes s = none := by
        apply Option.eq_none_iff_forall_ne_some.mpr
        intro bytes encoded
        exact other ⟨rfl, (Codec.stringBytes_eq_some_iff.mp encoded).1⟩
      simp only [codec, Codec.string, long, Codec.mismatch, Kind.name, Value.kind]
    | _ => rfl
  | tuple shape =>
    obtain rfl := Option.some.inj typed
    cases value with
    | tuple found components =>
      have differ : found ≠ shape := fun same => other ⟨congrArg Kind.tuple same, trivial⟩
      simp [codec, Codec.tuple, differ, Codec.mismatch, Kind.name]
    | _ => rfl
  | comment => cases typed
  | bool =>
    obtain rfl := Option.some.inj typed
    cases value with
    | bool => exact absurd ⟨rfl, trivial⟩ other
    | _ => rfl
  | float =>
    obtain rfl := Option.some.inj typed
    cases value with
    | float => exact absurd ⟨rfl, trivial⟩ other
    | _ => rfl
  | double =>
    obtain rfl := Option.some.inj typed
    cases value with
    | double => exact absurd ⟨rfl, trivial⟩ other
    | _ => rfl
  | char =>
    obtain rfl := Option.some.inj typed
    cases value with
    | char => exact absurd ⟨rfl, trivial⟩ other
    | _ => rfl
  | datetime =>
    obtain rfl := Option.some.inj typed
    cases value with
    | datetime => exact absurd ⟨rfl, trivial⟩ other
    | _ => rfl
  | color32 =>
    obtain rfl := Option.some.inj typed
    cases value with
    | color32 => exact absurd ⟨rfl, trivial⟩ other
    | _ => rfl

/-- A value of the type's kind is put behind what a sink holds and read back from there, and the reader
stops at the bytes that follow. Any other value is refused for its kind, and the sink is as before. -/
theorem read_put (type : ColumnType) {kind : Kind} (typed : type.kind? = some kind) (value : Value)
    (front rest : List UInt8) :
    (value.kind = kind → value.Short → ∃ written,
      type.codec.put value front = (front ++ written, none) ∧
      (∀ text, type.codec.parse text = .ok value →
        Encode.cell type.codec text front = (front ++ written, none)) ∧
      type.codec.read ((Cursor.start (front ++ written ++ rest)).advance front.length) =
        .ok value ((Cursor.start (front ++ written ++ rest)).advance
          (front.length + written.length))) ∧
    (¬(value.kind = kind ∧ value.Short) →
      type.codec.put value front = (front, some (.typeMismatch kind.name value.kind))) := by
  constructor
  · intro same short
    rw [← same] at typed
    obtain ⟨written, done⟩ := exists_write typed short
    have put : type.codec.put value front = (front ++ written, none) := by
      rw [Codec.put, done]
    refine ⟨written, put, ?_, (type.codec_faithful value written done).amid front rest⟩
    intro text parsed
    rw [Encode.cell_of_parse parsed, put]
    rfl
  · intro other
    rw [Codec.put, write_other typed other]
    simp only [List.append_nil]

/-- Minus two as an identifier between two bytes, and a flag that is none. -/
theorem read_put_minusTwo :
    ∃ written, id.codec.put (.integer .int ⟨-2, by decide, by decide⟩) [0xAA] =
        ([0xAA] ++ written, none) ∧
      id.codec.read ((Cursor.start ([0xAA] ++ written ++ [0xBB])).advance 1) =
        .ok (.integer .int ⟨-2, by decide, by decide⟩)
          ((Cursor.start ([0xAA] ++ written ++ [0xBB])).advance (1 + written.length)) ∧
      id.codec.put (.bool true) [0xAA] = ([0xAA], some (.typeMismatch "int" .bool)) := by
  have typed : id.kind? = some (.integer .int) := rfl
  obtain ⟨own, _⟩ := read_put id typed (.integer .int ⟨-2, by decide, by decide⟩) [0xAA] [0xBB]
  obtain ⟨_, foreign⟩ := read_put id typed (.bool true) [0xAA] [0xBB]
  obtain ⟨written, put, _, read⟩ := own rfl trivial
  exact ⟨written, put, read, foreign (by simp [Value.kind])⟩

end ColumnType

end GameSheet
