import GameSheet.Number.Integer
import GameSheet.Wire.LittleEndian
import Mathlib

/-!
Bit patterns. A fixed number of bytes and the numbers below a power of 256 are one and the same, and
so are the members of an integer kind and the patterns of its width.
-/

namespace GameSheet.Wire.LittleEndian

theorem encode_length (width value : Nat) : (encode width value).length = width := by
  induction width generalizing value with
  | zero => rfl
  | succ width ih => rw [encode, List.length_cons, ih]

theorem decode_encode (width value : Nat) : decode (encode width value) = value % 256 ^ width := by
  induction width generalizing value with
  | zero => simp only [encode, decode, pow_zero, Nat.mod_one]
  | succ width ih =>
    have byte : (UInt8.ofNat (value % 256)).toNat = value % 256 := by
      rw [UInt8.toNat_ofNat']
      omega
    rw [encode, decode, byte, ih, pow_succ, Nat.mul_comm (256 ^ width), Nat.mod_mul]

theorem encode_decode (bytes : List UInt8) : encode bytes.length (decode bytes) = bytes := by
  induction bytes with
  | nil => rfl
  | cons byte rest ih =>
    have bound := byte.toNat_lt
    have low : (byte.toNat + 256 * decode rest) % 256 = byte.toNat := by omega
    have high : (byte.toNat + 256 * decode rest) / 256 = decode rest := by omega
    rw [decode, List.length_cons, encode, low, high, ih, UInt8.ofNat_toNat]

theorem decode_lt (bytes : List UInt8) : decode bytes < 256 ^ bytes.length := by
  induction bytes with
  | nil => decide
  | cons byte rest ih =>
    have bound := byte.toNat_lt
    rw [decode, List.length_cons, pow_succ]
    omega

end GameSheet.Wire.LittleEndian

namespace GameSheet.Number

theorem IntegerKind.count_eq (kind : IntegerKind) : kind.count = 2 ^ kind.bits := by
  cases kind <;> decide

theorem IntegerKind.narrow_count {kind : IntegerKind} (narrow : kind.bits ≤ 16) :
    kind.count = 256 ^ (kind.bits / 8) := by
  revert narrow
  cases kind <;> decide

namespace Bounded

variable {kind : IntegerKind}

theorem ext {a b : Bounded kind} (same : a.toInt = b.toInt) : a = b := by
  cases a
  cases b
  simp only at same
  subst same
  rfl

theorem ofInt?_eq_some_iff {n : Int} {m : Bounded kind} : ofInt? kind n = some m ↔ m.toInt = n := by
  unfold ofInt?
  split_ifs with inside
  · rw [Option.some.injEq]
    constructor
    · intro same
      rw [← same]
    · intro same
      exact ext same.symm
  · refine iff_of_false not_false ?_
    intro same
    rw [← same] at inside
    exact inside ⟨m.least_le, m.le_greatest⟩

theorem ofInt?_eq_none_iff {n : Int} :
    ofInt? kind n = none ↔ n < kind.least ∨ kind.greatest < n := by
  unfold ofInt?
  split_ifs with inside
  · exact iff_of_false not_false (by omega)
  · exact iff_of_true rfl (by omega)

theorem exists_ofInt? (kind : IntegerKind) (n : Int) (inside : kind.least ≤ n ∧ n ≤ kind.greatest) :
    ∃ m, ofInt? kind n = some m ∧ m.toInt = n :=
  ⟨⟨n, inside.1, inside.2⟩, ofInt?_eq_some_iff.mpr rfl, rfl⟩

theorem pattern_lt (n : Bounded kind) : n.pattern < kind.count := by
  have positive := kind.count_pos
  rw [pattern, Int.toNat_lt (Int.emod_nonneg _ (by omega))]
  exact Int.emod_lt_of_pos _ (by omega)

theorem ofPattern_pattern (n : Bounded kind) : ofPattern kind n.pattern = n := by
  apply ext
  have lower := n.least_le
  have upper := n.le_greatest
  have small := n.pattern_lt
  simp only [ofPattern]
  rw [Nat.mod_eq_of_lt small]
  simp only [fold, pattern]
  cases kind <;> simp only [IntegerKind.least, IntegerKind.greatest, IntegerKind.half,
    IntegerKind.count, IntegerKind.signed, Bool.false_eq_true, false_and, true_and, if_true,
    if_false] at lower upper ⊢ <;> try split
  all_goals omega

theorem ofPattern_eq {bits : Nat} {n : Bounded kind} (residue : bits % kind.count = n.pattern) :
    ofPattern kind bits = n := by
  rw [← ofPattern_pattern n]
  apply ext
  simp only [ofPattern]
  rw [residue, Nat.mod_eq_of_lt n.pattern_lt]

/-- Two's complement undoes folding, up to what the width drops. -/
theorem pattern_ofPattern (bits : Nat) : (ofPattern kind bits).pattern = bits % kind.count := by
  have small := Nat.mod_lt bits kind.count_pos
  simp only [ofPattern, pattern, fold]
  generalize bits % kind.count = residue at small ⊢
  cases kind <;> simp only [IntegerKind.half, IntegerKind.count, IntegerKind.signed,
    Bool.false_eq_true, false_and, true_and, if_false] at small ⊢ <;> try split
  all_goals omega

end Bounded

end GameSheet.Number
