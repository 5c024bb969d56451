import GameSheet.Wire.Varint
import Mathlib

/-!
Variable-length integers as bytes. `Form` says which bytes are a numeral of a width, whether or not
they are its shortest; reading accepts exactly the bytes that begin with a form. The encoder's form
is the shortest one and the only one of its length, and a form that is cut short is told from every
other input.
-/

namespace GameSheet.Wire

def Shortens (written taken : List UInt8) : Prop :=
  written = taken ∨ written.length < taken.length

theorem Shortens.length_le {written taken : List UInt8} (shorter : Shortens written taken) :
    written.length ≤ taken.length := by
  rcases shorter with same | fewer
  · rw [same]
  · exact fewer.le

theorem Shortens.eq_iff {written taken : List UInt8} (shorter : Shortens written taken) :
    written = taken ↔ written.length = taken.length := by
  constructor
  · intro same
    rw [same]
  · intro even
    exact shorter.resolve_right (by omega)

theorem Shortens.append {written taken more kept : List UInt8} (front : Shortens written taken)
    (back : Shortens more kept) : Shortens (written ++ more) (taken ++ kept) := by
  have frontBound := front.length_le
  have backBound := back.length_le
  rcases front with same | fewer
  · rcases back with same' | fewer
    · exact Or.inl (by rw [same, same'])
    · right
      simp only [List.length_append]
      omega
  · right
    simp only [List.length_append]
    omega

namespace VarintWidth

def room (width : VarintWidth) (index : Nat) : Nat :=
  (width.lastLimit + 1) * 128 ^ (width.lastIndex - index)

theorem lastLimit_lt (width : VarintWidth) : width.lastLimit < 128 := by
  cases width <;> decide

theorem room_lastIndex (width : VarintWidth) :
    width.room width.lastIndex = width.lastLimit + 1 := by
  simp only [room, Nat.sub_self, pow_zero, Nat.mul_one]

theorem room_succ (width : VarintWidth) {index : Nat} (inside : index < width.lastIndex) :
    width.room index = 128 * width.room (index + 1) := by
  have step : width.lastIndex - index = width.lastIndex - (index + 1) + 1 := by omega
  simp only [room]
  rw [step, pow_succ]
  ring

theorem room_zero (width : VarintWidth) : width.room 0 = 2 ^ width.bits := by
  cases width <;> decide

end VarintWidth

namespace Varint

/-- The bytes from place `index` on are a numeral of the value: all but the last have the top bit,
and none is past the width's last place. -/
inductive Form (width : VarintWidth) : Nat → List UInt8 → Nat → Prop where
  | last {index : Nat} {byte : UInt8} (small : byte.toNat < 128)
      (fits : index = width.lastIndex → byte.toNat ≤ width.lastLimit) :
      Form width index [byte] byte.toNat
  | more {index high : Nat} {byte : UInt8} {rest : List UInt8} (marked : 128 ≤ byte.toNat)
      (inside : index ≠ width.lastIndex) (tail : Form width (index + 1) rest high) :
      Form width index (byte :: rest) (byte.toNat % 128 + 128 * high)

variable {width : VarintWidth}

theorem Form.length_pos {index value : Nat} {bytes : List UInt8}
    (form : Form width index bytes value) : 0 < bytes.length := by
  cases form <;> simp

theorem Form.decodeFrom {index value : Nat} {bytes : List UInt8} (form : Form width index bytes value)
    (suffix : List UInt8) :
    decodeFrom width index (bytes ++ suffix) = .ok (value, index + bytes.length) := by
  induction form with
  | @last index byte small fits =>
    have inside : ¬(index = width.lastIndex ∧ width.lastLimit < byte.toNat) := by
      intro given
      rcases given with ⟨place, large⟩
      have bound := fits place
      omega
    simp only [List.cons_append, List.nil_append, Varint.decodeFrom, if_neg inside, if_pos small,
      List.length_singleton]
  | @more index high byte rest marked inside tail ih =>
    have unblocked : ¬(index = width.lastIndex ∧ width.lastLimit < byte.toNat) :=
      fun blocked => inside blocked.1
    simp only [List.cons_append, Varint.decodeFrom, if_neg unblocked, if_neg (Nat.not_lt.mpr marked), ih,
      Except.map, List.length_cons]
    rw [Nat.add_assoc, Nat.add_comm 1]

theorem form_of_decodeFrom {index value read : Nat} {bytes : List UInt8}
    (decoded : Varint.decodeFrom width index bytes = .ok (value, read)) :
    ∃ taken rest, bytes = taken ++ rest ∧ read = index + taken.length ∧
      Form width index taken value := by
  induction bytes generalizing index value with
  | nil => simp [Varint.decodeFrom] at decoded
  | cons byte rest ih =>
    simp only [Varint.decodeFrom] at decoded
    split at decoded
    · simp at decoded
    next fits =>
    split at decoded
    next small =>
      simp only [Except.ok.injEq, Prod.mk.injEq] at decoded
      obtain ⟨rfl, rfl⟩ := decoded
      refine ⟨[byte], rest, rfl, rfl, Form.last small ?_⟩
      intro place
      by_contra large
      exact fits ⟨place, by omega⟩
    next marked =>
      cases later : Varint.decodeFrom width (index + 1) rest with
      | error fault => simp [later, Except.map] at decoded
      | ok pair =>
        obtain ⟨high, last⟩ := pair
        simp only [later, Except.map, Except.ok.injEq, Prod.mk.injEq] at decoded
        obtain ⟨rfl, rfl⟩ := decoded
        obtain ⟨taken, after, rfl, rfl, form⟩ := ih later
        refine ⟨byte :: taken, after, rfl, ?_, Form.more (by omega) ?_ form⟩
        · simp only [List.length_cons]
          omega
        · intro place
          have limit := width.lastLimit_lt
          exact fits ⟨place, by omega⟩

theorem decode_eq_ok_iff {value read : Nat} {bytes : List UInt8} :
    decode width bytes = .ok (value, read) ↔
      ∃ taken rest, bytes = taken ++ rest ∧ read = taken.length ∧ Form width 0 taken value := by
  constructor
  · intro decoded
    obtain ⟨taken, rest, split, size, form⟩ := form_of_decodeFrom decoded
    exact ⟨taken, rest, split, by omega, form⟩
  · intro given
    rcases given with ⟨taken, rest, rfl, rfl, form⟩
    rw [decode, form.decodeFrom, Nat.zero_add]

theorem Form.lt_room {index value : Nat} {bytes : List UInt8} (form : Form width index bytes value)
    (inside : index ≤ width.lastIndex) : value < width.room index := by
  induction form with
  | @last index byte small fits =>
    rcases inside.lt_or_eq with before | place
    · have positive : 0 < width.room (index + 1) := by simp [VarintWidth.room]
      rw [width.room_succ before]
      omega
    · rw [place, width.room_lastIndex]
      have bound := fits place
      omega
  | @more index high byte rest marked place tail ih =>
    have before : index < width.lastIndex := by omega
    have bound := ih (by omega)
    have digit := Nat.mod_lt byte.toNat (by decide : 0 < 128)
    rw [width.room_succ before]
    omega

theorem Form.lt_bits {value : Nat} {bytes : List UInt8} (form : Form width 0 bytes value) :
    value < 2 ^ width.bits := by
  rw [← width.room_zero]
  exact form.lt_room (Nat.zero_le _)

theorem encode_form_from {index value : Nat} (place : index ≤ width.lastIndex)
    (bound : value < width.room index) : Form width index (encode value) value := by
  induction value using Nat.strongRecOn generalizing index with
  | ind value ih =>
    rw [encode]
    split
    next small =>
      have byte : (UInt8.ofNat value).toNat = value := by
        rw [UInt8.toNat_ofNat']
        omega
      have fits : index = width.lastIndex → (UInt8.ofNat value).toNat ≤ width.lastLimit := by
        intro last
        rw [last, width.room_lastIndex] at bound
        omega
      have form := Form.last (by omega) fits
      rwa [byte] at form
    next large =>
      have byte : (UInt8.ofNat (128 + value % 128)).toNat = 128 + value % 128 := by
        rw [UInt8.toNat_ofNat']
        omega
      have before : index ≠ width.lastIndex := by
        intro last
        have limit := width.lastLimit_lt
        rw [last, width.room_lastIndex] at bound
        omega
      rw [width.room_succ (by omega)] at bound
      have tail : Form width (index + 1) (encode (value / 128)) (value / 128) :=
        ih (value / 128) (by omega) (by omega) (by omega)
      have marked : 128 ≤ (UInt8.ofNat (128 + value % 128)).toNat := by omega
      have form := Form.more marked before tail
      have sum : (128 + value % 128) % 128 + 128 * (value / 128) = value := by omega
      rwa [byte, sum] at form

theorem encode_form {value : Nat} (bound : value < 2 ^ width.bits) :
    Form width 0 (encode value) value :=
  encode_form_from (Nat.zero_le _) (by rwa [width.room_zero])

theorem encode_ne_nil (value : Nat) : encode value ≠ [] := by
  rw [encode]
  split <;> simp

theorem encode_of_le {value : Nat} (large : 128 ≤ value) :
    encode value = UInt8.ofNat (128 + value % 128) :: encode (value / 128) := by
  rw [encode, if_neg (by omega)]

/-- No form of a value is shorter than the encoder's, and no other is as short. -/
theorem Form.shortens {index value : Nat} {bytes : List UInt8} (form : Form width index bytes value) :
    Shortens (encode value) bytes := by
  induction form with
  | @last index byte small fits =>
    left
    rw [encode, if_pos small, UInt8.ofNat_toNat]
  | @more index high byte rest marked place tail ih =>
    have digit : (byte.toNat % 128 + 128 * high) / 128 = high := by omega
    have byteBound := byte.toNat_lt
    rcases Nat.eq_zero_or_pos high with rfl | positive
    · right
      have later := tail.length_pos
      rw [encode, if_pos (by omega)]
      simp only [List.length_cons, List.length_nil]
      omega
    · have same : UInt8.ofNat (128 + (byte.toNat % 128 + 128 * high) % 128) = byte := by
        have value : 128 + (byte.toNat % 128 + 128 * high) % 128 = byte.toNat := by omega
        rw [value, UInt8.ofNat_toNat]
      rw [encode_of_le (by omega), digit, same]
      have front : Shortens [byte] [byte] := Or.inl rfl
      exact front.append ih

theorem encode_length_mono {small large : Nat} (ordered : small ≤ large) :
    (encode small).length ≤ (encode large).length := by
  induction large using Nat.strongRecOn generalizing small with
  | ind large ih =>
    by_cases single : small < 128
    · have nonempty := List.length_pos_of_ne_nil (encode_ne_nil large)
      rw [encode, if_pos single, List.length_singleton]
      omega
    · have tails := ih (large / 128) (by omega) (Nat.div_le_div_right (c := 128) ordered)
      have wide : 128 ≤ large := by omega
      rw [encode_of_le (Nat.le_of_not_lt single), encode_of_le wide]
      simp only [List.length_cons]
      omega

theorem Form.truncated {index value count : Nat} {bytes : List UInt8}
    (form : Form width index bytes value) (short : count < bytes.length) :
    Varint.decodeFrom width index (bytes.take count) = .error (.truncated (index + count)) := by
  induction form generalizing count with
  | @last index byte small fits =>
    have none : count = 0 := by simpa using short
    subst none
    rfl
  | @more index high byte rest marked inside tail ih =>
    cases count with
    | zero => rfl
    | succ count =>
      have unblocked : ¬(index = width.lastIndex ∧ width.lastLimit < byte.toNat) :=
        fun blocked => inside blocked.1
      have later := ih (Nat.lt_of_succ_lt_succ short)
      simp only [List.take_succ_cons, Varint.decodeFrom, if_neg unblocked,
        if_neg (Nat.not_lt.mpr marked), later, Except.map]
      congr 2
      omega

end Varint

end GameSheet.Wire
