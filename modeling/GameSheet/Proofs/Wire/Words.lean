import GameSheet.Proofs.Wire.Varint

/-!
Numerals as machine words make them and take them in: bits are masked off, moved by whole groups of
seven and joined in an accumulator. Moving a word by its width or more has no result, which would end
the work. The words come to the same as division and remainder, and no distance is too far.
-/

namespace GameSheet.Wire

theorem VarintWidth.distance_lt (width : VarintWidth) {index : Nat}
    (inside : index ≤ width.lastIndex) : 7 * index < width.bits := by
  revert inside
  cases width <;> simp only [VarintWidth.lastIndex, VarintWidth.bits] <;> omega

namespace Varint

def Marked (byte : UInt8) : Prop := byte &&& 0x80 ≠ 0

instance (byte : UInt8) : Decidable (Marked byte) := inferInstanceAs (Decidable (_ ≠ _))

def group (byte : UInt8) : Nat := (byte &&& 0x7F).toNat

theorem marked_iff {byte : UInt8} : Marked byte ↔ 128 ≤ byte.toNat := by
  have bound := byte.toNat_lt
  have top : (byte &&& 0x80).toNat = (byte.toNat.testBit 7).toNat * 2 ^ 7 := by
    rw [UInt8.toNat_and]
    exact Nat.and_two_pow byte.toNat 7
  have zero : byte &&& 0x80 = 0 ↔ byte.toNat.testBit 7 = false := by
    rw [← UInt8.toNat_inj, top]
    cases byte.toNat.testBit 7 <;> decide
  rw [Marked, ne_eq, zero, Nat.testBit_eq_decide_div_mod_eq, decide_eq_false_iff_not]
  omega

theorem group_eq (byte : UInt8) : group byte = byte.toNat % 128 := by
  rw [group, UInt8.toNat_and]
  exact Nat.and_two_pow_sub_one_eq_mod byte.toNat 7

def spread (word : UInt64) : List UInt8 :=
  if word < 0x80 then [word.toUInt8] else (word.toUInt8 &&& 0x7F ||| 0x80) :: spread (word >>> 7)
termination_by word.toNat
decreasing_by
  have large : 128 ≤ word.toNat := by simpa [UInt64.lt_iff_toNat_lt] using ‹¬word < 0x80›
  have moved : (word >>> 7).toNat = word.toNat / 128 := Nat.shiftRight_eq_div_pow word.toNat 7
  omega

theorem spread_eq (word : UInt64) : spread word = encode word.toNat := by
  induction word using spread.induct with
  | case1 word small =>
    have below : word.toNat < 128 := by simpa [UInt64.lt_iff_toNat_lt] using small
    have byte : word.toUInt8 = UInt8.ofNat word.toNat := by
      rw [← UInt8.toNat_inj, UInt64.toNat_toUInt8, UInt8.toNat_ofNat']
    rw [spread, if_pos small, encode, if_pos below, byte]
  | case2 word large ih =>
    have above : 128 ≤ word.toNat := by simpa [UInt64.lt_iff_toNat_lt] using large
    have moved : (word >>> 7).toNat = word.toNat / 128 := Nat.shiftRight_eq_div_pow word.toNat 7
    have byte : word.toUInt8 &&& 0x7F ||| 0x80 = UInt8.ofNat (128 + word.toNat % 128) := by
      have low : (word.toUInt8 &&& 0x7F).toNat = word.toNat % 128 := by
        change group word.toUInt8 = _
        rw [group_eq, UInt64.toNat_toUInt8]
        omega
      have digit : word.toNat % 128 < 2 ^ 7 := Nat.mod_lt _ (by decide)
      rw [← UInt8.toNat_inj, UInt8.toNat_or, low, UInt8.toNat_ofNat', Nat.or_comm]
      change 2 ^ 7 * 1 ||| word.toNat % 128 = _
      rw [← Nat.two_pow_add_eq_or_of_lt digit]
      omega
    rw [spread, if_neg large, encode_of_le above, byte, ih, moved]

def shiftLeft? {bits : Nat} (word : BitVec bits) (distance : Nat) : Option (BitVec bits) :=
  if distance < bits then some (word <<< distance) else none

variable {width : VarintWidth}

/-- Reads on with the groups so far in `total`, the next of which goes `distance` bits up. -/
def gatherFrom (width : VarintWidth) (total : BitVec width.bits) (distance index : Nat) :
    List UInt8 → Option (Except VarintError (BitVec width.bits × Nat))
  | [] => some (.error (.truncated index))
  | byte :: rest =>
    if distance = 7 * width.lastIndex ∧ width.lastLimit < byte.toNat then
      some (.error (.overflow width.bits))
    else do
      let part ← shiftLeft? (BitVec.ofNat width.bits (group byte)) distance
      if Marked byte then gatherFrom width (total ||| part) (distance + 7) (index + 1) rest
      else some (.ok (total ||| part, index + 1))

def gather (width : VarintWidth) (bytes : List UInt8) :
    Option (Except VarintError (BitVec width.bits × Nat)) :=
  gatherFrom width 0 0 0 bytes

theorem ofNat_join {bits low : Nat} (small : low < 2 ^ 7) (high : Nat) :
    BitVec.ofNat bits (low + 128 * high) = BitVec.ofNat bits low ||| BitVec.ofNat bits high <<< 7 := by
  have moved : BitVec.ofNat bits high <<< 7 = BitVec.ofNat bits (2 ^ 7 * high) := by
    apply BitVec.eq_of_toNat_eq
    rw [BitVec.toNat_shiftLeft, BitVec.toNat_ofNat, BitVec.toNat_ofNat, Nat.shiftLeft_eq,
      Nat.mod_mul_mod, Nat.mul_comm]
  calc BitVec.ofNat bits (low + 128 * high)
      = BitVec.ofNat bits (2 ^ 7 * high ||| low) := by
        rw [← Nat.two_pow_add_eq_or_of_lt small, Nat.add_comm]
    _ = BitVec.ofNat bits low ||| BitVec.ofNat bits high <<< 7 := by
        rw [BitVec.ofNat_or, ← moved, BitVec.or_comm]

theorem gatherFrom_eq {index : Nat} (inside : index ≤ width.lastIndex) (total : BitVec width.bits)
    (bytes : List UInt8) :
    gatherFrom width total (7 * index) index bytes = some ((decodeFrom width index bytes).map
      (fun (value, read) => (total ||| BitVec.ofNat width.bits value <<< (7 * index), read))) := by
  -- The distance is seven bits for each byte read, so it grows with the index and ends below the width.
  induction bytes generalizing index total with
  | nil => rfl
  | cons byte rest ih =>
    have place : 7 * index = 7 * width.lastIndex ↔ index = width.lastIndex := by omega
    simp only [gatherFrom, decodeFrom, place]
    by_cases large : index = width.lastIndex ∧ width.lastLimit < byte.toNat
    · rw [if_pos large, if_pos large]
      rfl
    · rw [if_neg large, if_neg large, shiftLeft?, if_pos (width.distance_lt inside)]
      simp only [Option.bind_eq_bind, Option.bind_some, marked_iff]
      by_cases marked : 128 ≤ byte.toNat
      · have before : index ≠ width.lastIndex := by
          intro last
          have limit := width.lastLimit_lt
          exact large ⟨last, by omega⟩
        have low : group byte < 2 ^ 7 := by
          rw [group_eq]
          exact Nat.mod_lt _ (by decide)
        rw [if_pos marked, if_neg (Nat.not_lt.mpr marked), ← Nat.mul_succ, ih (by omega)]
        cases decodeFrom width (index + 1) rest with
        | error fault => rfl
        | ok pair =>
          obtain ⟨high, read⟩ := pair
          simp only [Except.map, ← group_eq, ofNat_join low, BitVec.shiftLeft_or_distrib,
            ← BitVec.shiftLeft_add, BitVec.or_assoc]
          rw [Nat.mul_succ, Nat.add_comm]
      · have low : group byte = byte.toNat := by
          rw [group_eq]
          omega
        rw [if_neg marked, if_pos (Nat.lt_of_not_le marked), low]
        rfl

/-- Every shift has a result, and the word that is gathered is the value. -/
theorem gather_eq (width : VarintWidth) (bytes : List UInt8) :
    gather width bytes = some ((decode width bytes).map
      (fun (value, read) => (BitVec.ofNat width.bits value, read))) := by
  have whole := gatherFrom_eq (Nat.zero_le width.lastIndex) 0 bytes
  simpa only [gather, decode, Nat.mul_zero, BitVec.shiftLeft_zero, BitVec.ofNat_eq_ofNat,
    BitVec.zero_or] using whole

end Varint

end GameSheet.Wire
