import GameSheet.Proofs.Codec.CellText
import GameSheet.Proofs.Number.Grammar

/-!
Integers in cells. A cell of an integer type holds a numeral with any blanks around it, and its value
is the number of that numeral. What is refused is out of range when it begins with a numeral of a
number outside the type, and invalid otherwise. A colour is four such bytes with commas between them.
-/

namespace GameSheet

open Number

namespace Codec

variable {kind : IntegerKind} {expected text : String}

theorem parseInteger_eq_ok {n : Bounded kind} : parseInteger kind expected text = .ok n ↔
    ∃ numeral, Text.Padded (Text.isBlank · = true) numeral text.toList ∧
      Denotes kind.signed numeral n.toInt := by
  rw [parseInteger, Traversal.mapError_eq_ok, Bounded.read_eq_ok, readInt_eq_ok,
    and_iff_left ⟨n.least_le, n.le_greatest⟩]
  constructor
  · intro numeral
    exact ⟨_, Text.padded_trimEnds Text.isBlank text.toList, numeral⟩
  · rintro ⟨numeral, padded, denotes⟩
    rwa [Text.trim, Text.trimEnds_of_padded denotes.trimmed padded]

theorem parseInteger_eq_outOfRange :
    parseInteger kind expected text = .error (.outOfRange expected text) ↔
      Overflows kind (Text.trim text.toList) := by
  rw [parseInteger, Traversal.mapError_eq_error, ← readInt_eq_overflow]
  constructor
  · rintro ⟨cause, failed, named⟩
    cases cause with
    | malformed => cases named
    | overflow => exact Bounded.read_eq_error.mp failed
  · intro failed
    exact ⟨.overflow, Bounded.read_eq_error.mpr failed, rfl⟩

theorem fault_of_parseInteger {fault : ParseError}
    (failed : parseInteger kind expected text = .error fault) :
    fault = .outOfRange expected text ∨ fault = .invalid expected text := by
  obtain ⟨cause, _, rfl⟩ := Traversal.mapError_eq_error.mp failed
  cases cause with
  | malformed => exact Or.inr rfl
  | overflow => exact Or.inl rfl

theorem parseColor32_eq_ok {value : Value} : parseColor32 text = .ok value ↔
    ∃ r g b a : Bounded .byte, value = .color32 r g b a ∧
      List.Forall₂ (fun part n => parseInteger .byte "byte" (String.ofList part) = .ok n)
        (Text.pieces ',' text.toList) [r, g, b, a] := by
  rw [parseColor32, Traversal.bind_eq_ok]
  simp only [parseComponents_eq_ok]
  constructor
  · rintro ⟨parts, each, same⟩
    have listed : parts.toList = [parts[0], parts[1], parts[2], parts[3]] := by
      apply List.ext_getElem
      · exact Vector.length_toList
      · intro place inside _
        rw [Vector.length_toList] at inside
        interval_cases place <;> rfl
    rw [listed] at each
    exact ⟨_, _, _, _, (Except.ok.inj same).symm, each⟩
  · rintro ⟨r, g, b, a, rfl, each⟩
    exact ⟨#v[r, g, b, a], each, rfl⟩

end Codec

namespace ColumnType

variable {type : ColumnType} {kind : IntegerKind}

/-- The types with integers differ in the kind and in the name that errors bear. -/
theorem parse_integer (whole : type.kind? = some (.integer kind)) (text : String) :
    type.codec.parse text = (Codec.parseInteger kind type.keyword text).map (.integer kind) := by
  cases type <;> cases whole <;> rfl

theorem parse_integer_eq_ok (whole : type.kind? = some (.integer kind)) {text : String}
    {value : Value} : type.codec.parse text = .ok value ↔ ∃ n : Bounded kind, value = .integer kind n ∧
      Codec.parseInteger kind type.keyword text = .ok n := by
  rw [parse_integer whole, Traversal.map_eq_ok]
  constructor
  · rintro ⟨n, parsed, rfl⟩
    exact ⟨n, rfl, parsed⟩
  · rintro ⟨n, rfl, parsed⟩
    exact ⟨n, parsed, rfl⟩

/-- Integer cells hold the numerals of the type's numbers, with blanks around them, and nothing else;
colours hold four bytes. -/
theorem parse_iff_numeral (text : String) :
    (∀ {type : ColumnType} {kind : IntegerKind}, type.kind? = some (.integer kind) → ∀ value,
      type.codec.parse text = .ok value ↔ ∃ n : Bounded kind, value = .integer kind n ∧
        ∃ numeral, Text.Padded (Text.isBlank · = true) numeral text.toList ∧
          Denotes kind.signed numeral n.toInt) ∧
    ∀ value, color32.codec.parse text = .ok value ↔
      ∃ r g b a : Bounded .byte, value = .color32 r g b a ∧
        List.Forall₂ (fun part n => (integer .byte).codec.parse (String.ofList part) =
          .ok (.integer .byte n)) (Text.pieces ',' text.toList) [r, g, b, a] := by
  constructor
  · intro type kind whole value
    simp only [parse_integer_eq_ok whole, Codec.parseInteger_eq_ok]
  · intro value
    have part : ∀ (part : List Char) (n : Bounded .byte),
        (integer .byte).codec.parse (String.ofList part) = .ok (.integer .byte n) ↔
          Codec.parseInteger .byte "byte" (String.ofList part) = .ok n := by
      intro part n
      have whole : (integer .byte).kind? = some (.integer .byte) := rfl
      rw [parse_integer whole, Traversal.map_eq_ok]
      simp [keyword, IntegerKind.name]
    simp only [part]
    exact Codec.parseColor32_eq_ok

/-- A number with blanks of two kinds around it, a sign and a zero in front. -/
theorem parse_iff_numeral_padded :
    (integer .short).kind? = some (.integer .short) ∧
      (integer .short).codec.parse " \u3000-042\t" =
        .ok (.integer .short ⟨-42, by decide, by decide⟩) := by
  have padded : Text.Padded (Text.isBlank · = true) ['-', '0', '4', '2'] " \u3000-042\t".toList :=
    ⟨[' ', '\u3000'], ['\t'], List.all_eq_true.mp rfl, List.all_eq_true.mp rfl, by decide +kernel⟩
  have numeral : Denotes true ['-', '0', '4', '2'] (-42) :=
    ⟨.minus, ['0', '4', '2'], fun _ => rfl, ⟨by decide, List.all_eq_true.mp rfl⟩, rfl, by decide⟩
  exact ⟨rfl, ((parse_iff_numeral _).1 rfl _).mpr ⟨_, rfl, _, padded, numeral⟩⟩

/-- An integer cell is refused as out of range when it begins with a numeral of a number outside the
type, and as invalid otherwise. So overflow is told from malformed text exactly where the text is a
numeral, or has no such numeral in front. -/
theorem parse_overflow {type : ColumnType} {kind : IntegerKind}
    (whole : type.kind? = some (.integer kind)) (text : String) :
    (∀ fault, type.codec.parse text = .error fault →
      fault = .outOfRange type.keyword text ∨ fault = .invalid type.keyword text) ∧
    (type.codec.parse text = .error (.outOfRange type.keyword text) ↔
      Overflows kind (Text.trim text.toList)) ∧
    ((type.codec.parse text = .error (.outOfRange type.keyword text) ↔
        ∃ n, Denotes kind.signed (Text.trim text.toList) n ∧
          ¬(kind.least ≤ n ∧ n ≤ kind.greatest)) ↔
      (∃ n, Denotes kind.signed (Text.trim text.toList) n) ∨
        ¬Overflows kind (Text.trim text.toList)) := by
  simp only [parse_integer whole, Traversal.map_eq_error]
  refine ⟨fun fault => Codec.fault_of_parseInteger, Codec.parseInteger_eq_outOfRange, ?_⟩
  rw [Codec.parseInteger_eq_outOfRange]
  exact overflows_iff_outside

/-- One below the least number of the type. -/
theorem parse_overflow_below :
    (integer .short).kind? = some (.integer .short) ∧
      (integer .short).codec.parse " -32769 " = .error (.outOfRange "short" " -32769 ") := by
  have numeral : Denotes true ['-', '3', '2', '7', '6', '9'] (-32769) :=
    ⟨.minus, ['3', '2', '7', '6', '9'], fun _ => rfl, ⟨by decide, List.all_eq_true.mp rfl⟩, rfl,
      by decide⟩
  have begins : ['-', '3', '2', '7', '6', '9'] <+: Text.trim " -32769 ".toList := by decide +kernel
  have whole : (integer .short).kind? = some (.integer .short) := rfl
  exact ⟨whole, (parse_overflow whole " -32769 ").2.1.mpr ⟨_, _, begins, numeral, by decide⟩⟩

/-- A text that is no numeral is refused as out of range: its digits are more than a byte. -/
theorem malformed_out_of_range :
    (integer .byte).codec.parse "2559x" = .error (.outOfRange "byte" "2559x") ∧
      ¬∃ n, Denotes false (Text.trim "2559x".toList) n := by
  have refused : Codec.parseInteger .byte "byte" "2559x" = .error (.outOfRange "byte" "2559x") := by
    decide +kernel
  have whole : (integer .byte).kind? = some (.integer .byte) := rfl
  constructor
  · rw [parse_integer whole]
    exact congrArg (Except.map _) refused
  · rintro ⟨n, numeral⟩
    have letter : 'x' ∈ Text.trim "2559x".toList := by decide +kernel
    exact absurd (numeral.signs_digits 'x' letter) (by decide)

end ColumnType

end GameSheet
