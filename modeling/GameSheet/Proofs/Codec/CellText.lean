import GameSheet.Proofs.Codec.Sinks
import GameSheet.Proofs.Number.Numerals
import GameSheet.Proofs.Text.Pieces
import GameSheet.Proofs.Time.Ticks

/-!
The text of a value, read as a cell. A value of a type without floating-point numbers is read back from
its own text, except that a cell has no ticks before the start of year 1. Whatever a cell was parsed to
has such a text, so among the texts of a value there is one that the value writes itself.
-/

namespace GameSheet

open Number (IntegerKind Bounded)
open Wire

namespace Codec

theorem splitComponents_eq_ok {expected text : String} {arity : Nat} {parts : Vector String arity} :
    splitComponents expected arity text = .ok parts ↔
      parts.toList = (Text.pieces ',' text.toList).map String.ofList := by
  simp only [splitComponents]
  split_ifs with exact
  · rw [Except.ok.injEq, ← Vector.toList_inj]
    exact eq_comm
  · refine iff_of_false (by simp) ?_
    intro same
    apply exact
    rw [← same, List.size_toArray, Vector.length_toList]

theorem parseComponents_eq_ok {α : Type} {expected text : String} {arity : Nat}
    {parse : String → Except ParseError α} {values : Vector α arity} :
    parseComponents expected arity parse text = .ok values ↔
      List.Forall₂ (fun piece value => parse (String.ofList piece) = .ok value)
        (Text.pieces ',' text.toList) values.toList := by
  rw [parseComponents, Traversal.bind_eq_ok]
  simp only [Traversal.mapM_vector_eq_ok, Traversal.mapError_eq_ok]
  constructor
  · rintro ⟨parts, split, each⟩
    rwa [splitComponents_eq_ok.mp split, List.forall₂_map_left_iff] at each
  · intro each
    have width : ((Text.pieces ',' text.toList).map String.ofList).toArray.size = arity := by
      rw [List.size_toArray, List.length_map, each.length_eq, Vector.length_toList]
    refine ⟨⟨_, width⟩, splitComponents_eq_ok.mpr rfl, ?_⟩
    exact List.forall₂_map_left_iff.mpr each

variable {kind : IntegerKind}

theorem parseInteger_text (n : Bounded kind) (expected : String) :
    parseInteger kind expected (String.ofList n.text) = .ok n := by
  rw [parseInteger, String.toList_ofList, Bounded.text, Text.trim_integer, ← Bounded.text,
    Bounded.read_text]
  rfl

theorem parseTicks_text (ticks : Time.Ticks) : parseTicks (String.ofList ticks.text) =
    if ticks.toInt < 0 then .error (.outOfRange "datetime" (String.ofList ticks.text))
    else .ok ticks := by
  have trimmed : Text.trim ticks.text = ticks.text := Text.trim_integer ticks.toInt
  simp only [parseTicks, String.toList_ofList, trimmed, Bounded.read_text]

theorem parseTicks_nonneg {text : String} {ticks : Time.Ticks} (parsed : parseTicks text = .ok ticks) :
    0 ≤ ticks.toInt := by
  simp only [parseTicks] at parsed
  split at parsed
  next found _ =>
    split_ifs at parsed with negative
    rw [← Except.ok.inj parsed]
    exact Int.not_lt.mp negative
  next =>
    split at parsed
    next => cases parsed
    next seconds nanoseconds _ =>
      split at parsed
      next found counted =>
        rw [← Except.ok.inj parsed]
        exact Time.ticksAt_nonneg counted
      next => cases parsed

theorem parseBool_text (flag : Bool) : parseBool (Value.bool flag).text = .ok flag := by
  cases flag <;> decide

theorem parseColor32_text (r g b a : Bounded .byte) :
    parseColor32 (Value.color32 r g b a).text = .ok (.color32 r g b a) := by
  have whole : ∀ component : Bounded .byte, ',' ∉ component.text := fun component =>
    Text.not_mem_integer (by decide) (by decide) component.toInt
  have cut : Text.pieces ',' (Value.color32 r g b a).text.toList = [r.text, g.text, b.text, a.text] := by
    rw [Value.text, String.toList_ofList]
    apply Text.pieces_joinPieces (List.cons_ne_nil _ _)
    simp only [List.forall_mem_cons, List.not_mem_nil, false_imp_iff, implies_true, and_true]
    exact ⟨whole r, whole g, whole b, whole a⟩
  have parts : parseComponents "color32" 4 (parseInteger .byte "byte") (Value.color32 r g b a).text =
      .ok #v[r, g, b, a] := by
    rw [parseComponents_eq_ok, cut]
    exact .cons (parseInteger_text r _) (.cons (parseInteger_text g _)
      (.cons (parseInteger_text b _) (.cons (parseInteger_text a _) .nil)))
  rw [parseColor32, parts]
  rfl

end Codec

def ColumnType.FloatFree : ColumnType → Prop
  | float | double | tuple _ => False
  | _ => True

/-- Cells have no ticks before the start of year 1; all other values stand in cells. -/
def Value.InCells : Value → Prop
  | datetime ticks => 0 ≤ ticks.toInt
  | _ => True

namespace ColumnType

variable {type : ColumnType} {value : Value}

/-- A value that cells can hold is read back from its text. -/
theorem parse_text (free : type.FloatFree) (typed : type.kind? = some value.kind)
    (holds : value.InCells) : type.codec.parse value.text = .ok value := by
  cases type with
  | id | integer kind =>
    cases value with
    | integer found n =>
      obtain rfl := Kind.integer.inj (Option.some.inj typed)
      have written : (Value.integer _ n).text = String.ofList n.text := rfl
      simp only [codec, Codec.id, Codec.integer, written, Codec.parseInteger_text, Except.map]
    | _ => cases typed
  | bool =>
    cases value with
    | bool flag => simp only [codec, Codec.bool, Codec.parseBool_text, Except.map]
    | _ => cases typed
  | char =>
    cases value with
    | char c =>
      have single : (Value.char c).text.toList = [c] := String.toList_ofList
      simp only [codec, Codec.char, Codec.parseChar, single, Except.map]
    | _ => cases typed
  | string =>
    cases value with
    | string s =>
      have written : (Value.string s).text = s := String.ofList_toList
      simp only [codec, Codec.string, written]
    | _ => cases typed
  | datetime =>
    cases value with
    | datetime ticks =>
      have late : ¬ticks.toInt < 0 := Int.not_lt.mpr holds
      have written : (Value.datetime ticks).text = String.ofList ticks.text := rfl
      simp only [codec, Codec.datetime, written, Codec.parseTicks_text, if_neg late, Except.map]
    | _ => cases typed
  | color32 =>
    cases value with
    | color32 r g b a => exact Codec.parseColor32_text r g b a
    | _ => cases typed
  | float | double | tuple shape => exact free.elim
  | comment => cases typed

theorem kind_of_write {bytes : List UInt8} (written : type.codec.write value = .ok bytes) :
    type.kind? = some value.kind := by
  cases typed : type.kind? with
  | none =>
    cases type with
    | comment => cases written
    | _ => cases typed
  | some kind =>
    by_contra other
    have refused : ¬(value.kind = kind ∧ value.Short) := fun given => other (congrArg some given.1.symm)
    rw [write_other typed refused] at written
    cases written

theorem kind_of_read {cursor next : Cursor} (read : type.codec.read cursor = .ok value next) :
    type.kind? = some value.kind := by
  obtain ⟨_, ⟨_, written, _⟩, _⟩ := type.codec_canonical cursor value next read
  exact kind_of_write written

theorem kind_of_parse {text : String} (parsed : type.codec.parse text = .ok value) :
    type.kind? = some value.kind := by
  cases type with
  | string =>
    rw [← Except.ok.inj parsed]
    rfl
  | color32 =>
    obtain ⟨parts, _, same⟩ := Traversal.bind_eq_ok.mp parsed
    rw [← Except.ok.inj same]
    rfl
  | comment => cases parsed
  | id | integer | bool | float | double | char | datetime | tuple =>
    obtain ⟨found, _, rfl⟩ := Traversal.map_eq_ok.mp parsed
    rfl

theorem inCells_of_parse {text : String} (parsed : type.codec.parse text = .ok value) :
    value.InCells := by
  cases value with
  | datetime ticks =>
    have typed := kind_of_parse parsed
    cases type with
    | datetime =>
      obtain ⟨found, counted, same⟩ := Traversal.map_eq_ok.mp parsed
      cases same
      exact Codec.parseTicks_nonneg counted
    | _ => cases typed
  | _ => trivial

/-- A value that was read from bytes is read back from its text, but for ticks before year 1. Their text
is refused as out of range. -/
theorem parse_text_of_read (free : type.FloatFree) {cursor next : Cursor}
    (read : type.codec.read cursor = .ok value next) :
    (type.codec.parse value.text = .ok value ↔ value.InCells) ∧
      (¬value.InCells → type.codec.parse value.text = .error (.outOfRange "datetime" value.text)) := by
  have typed := kind_of_read read
  refine ⟨⟨inCells_of_parse, parse_text free typed⟩, ?_⟩
  intro outside
  cases value with
  | datetime ticks =>
    have early : ticks.toInt < 0 := Int.not_le.mp outside
    have written : (Value.datetime ticks).text = String.ofList ticks.text := rfl
    cases type with
    | datetime =>
      simp only [codec, Codec.datetime, written, Codec.parseTicks_text, if_pos early, Except.map]
    | _ => cases typed
  | _ => exact absurd trivial outside

/-- Four bytes that are read as a colour. -/
theorem parse_text_of_read_colour : ∃ value next,
    color32.codec.read (Cursor.start [7, 0, 1, 9]) = .ok value next ∧
      value.text = "7,0,1,9" ∧ color32.codec.parse value.text = .ok value := by
  let value : Value := .color32 (.ofPattern .byte 7) (.ofPattern .byte 0) (.ofPattern .byte 1)
    (.ofPattern .byte 9)
  have read : color32.codec.read (Cursor.start [7, 0, 1, 9]) = .ok value ⟨4, []⟩ := by rfl
  have free : color32.FloatFree := trivial
  have digit : ∀ n < 10, (Bounded.ofPattern .byte n).text = [Text.digitChar n] := by
    intro n small
    have same : (Bounded.ofPattern .byte n).toInt = n := by
      revert n
      decide
    rw [Bounded.text, same, Text.integer, if_neg (by omega), Int.natAbs_natCast,
      Text.natural_of_lt small]
  have written : value.text = "7,0,1,9" := by
    simp only [value, Value.text, Value.chars, digit, Nat.reduceLT]
    decide
  exact ⟨value, _, read, written, (parse_text_of_read free read).1.mpr trivial⟩

/-- Eight bytes that are read as one tick before year 1, which cells cannot have. -/
theorem minusOne_unreadable : ∃ value next,
    datetime.codec.read (Cursor.start (List.replicate 8 0xFF)) = .ok value next ∧
      value.text = "-1" ∧ datetime.codec.parse value.text = .error (.outOfRange "datetime" "-1") := by
  let ticks : Time.Ticks := ⟨-1, by decide, by decide⟩
  have written : String.ofList ticks.text = "-1" := by
    rw [Bounded.text, Text.integer, if_pos (by decide), Text.natural_of_lt (by decide)]
    decide
  have refused : Codec.parseTicks (String.ofList ticks.text) = .error (.outOfRange "datetime" "-1") := by
    rw [Codec.parseTicks_text, if_pos (by decide), written]
  exact ⟨.datetime ticks, ⟨8, []⟩, rfl, written, congrArg (Except.map Value.datetime) refused⟩

end ColumnType
end GameSheet
