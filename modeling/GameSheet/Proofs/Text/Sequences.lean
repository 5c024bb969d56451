import GameSheet.Proofs.Text.Utf8

/-!
Sequences that have the form of UTF-8. A lead byte says how many bytes there are and each byte behind it
carries six more bits. A sequence of that form is the encoding of a character unless a byte of another
kind interrupts it, a shorter one carries the same number, or the number is no scalar value.
-/

namespace GameSheet.Text.Utf8

/-- The standard library encodes the characters of its strings the same way. -/
theorem encodeChar_eq_utf8EncodeChar (c : Char) : encodeChar c = String.utf8EncodeChar c := by
  have bound := code_lt c
  have code : c.val.toNat = c.toNat := rfl
  simp only [encodeChar, String.utf8EncodeChar, code]
  split_ifs
  all_goals try omega
  all_goals simp only [List.cons.injEq, and_true, ← UInt8.toNat_inj, UInt8.toNat_ofNat']
  all_goals omega

theorem scalar?_eq_some_iff {bytes : List UInt8} {c : Char} :
    scalar? bytes = some c ↔ bytes = encodeChar c := by
  constructor
  · intro scalar
    exact (encodeChar_of_scalar? scalar).symm
  · intro same
    rw [same, scalar?_encodeChar]

theorem width?_eq_some_iff {lead : UInt8} {width : Nat} : width? lead = some width ↔
    width = 1 ∧ lead.toNat < 0x80 ∨ width = 2 ∧ 0xC0 ≤ lead.toNat ∧ lead.toNat < 0xE0 ∨
      width = 3 ∧ 0xE0 ≤ lead.toNat ∧ lead.toNat < 0xF0 ∨
      width = 4 ∧ 0xF0 ≤ lead.toNat ∧ lead.toNat < 0xF8 := by
  simp only [width?]
  split_ifs <;> simp only [Option.some.injEq, false_iff] <;> omega

/-- The bytes that carry a number in a sequence of the given length. -/
def carry : Nat → Nat → List UInt8
  | 1, code => [UInt8.ofNat code]
  | 2, code => [UInt8.ofNat (0xC0 + code / 64), UInt8.ofNat (0x80 + code % 64)]
  | 3, code =>
    [UInt8.ofNat (0xE0 + code / 4096), UInt8.ofNat (0x80 + code / 64 % 64),
      UInt8.ofNat (0x80 + code % 64)]
  | 4, code =>
    [UInt8.ofNat (0xF0 + code / 262144), UInt8.ofNat (0x80 + code / 4096 % 64),
      UInt8.ofNat (0x80 + code / 64 % 64), UInt8.ofNat (0x80 + code % 64)]
  | _, _ => []

/-- The numbers that a sequence of the length can carry are below this one. -/
def room : Nat → Nat
  | 1 => 0x80
  | 2 => 0x800
  | 3 => 0x10000
  | 4 => 0x200000
  | _ => 0

variable {length code : Nat}

theorem room_range (inside : code < room length) : 0 < length ∧ length ≤ 4 := by
  unfold room at inside
  split at inside <;> omega

theorem length_carry (positive : 0 < length) (small : length ≤ 4) :
    (carry length code).length = length := by
  interval_cases length <;> rfl

theorem payload_carry (inside : code < room length) : payload (carry length code) = code := by
  unfold room at inside
  split at inside
  all_goals simp only [carry, payload, UInt8.toNat_ofNat']
  all_goals omega

theorem carry_injective {other number : Nat} (inside : code < room length)
    (within : number < room other) (same : carry length code = carry other number) :
    length = other ∧ code = number := by
  have lengths := congrArg List.length same
  have numbers := congrArg payload same
  rw [length_carry (room_range inside).1 (room_range inside).2,
    length_carry (room_range within).1 (room_range within).2] at lengths
  rw [payload_carry inside, payload_carry within] at numbers
  exact ⟨lengths, numbers⟩

/-- A number is carried in one length that is not too long for it. -/
theorem room_unique {other : Nat} (least : room (length - 1) ≤ code) (inside : code < room length)
    (lowest : room (other - 1) ≤ code) (within : code < room other) : length = other := by
  obtain ⟨positive, small⟩ := room_range inside
  obtain ⟨_, _⟩ := room_range within
  interval_cases length <;> interval_cases other <;> simp only [room] at * <;> omega

theorem exists_carry (c : Char) : ∃ length, room (length - 1) ≤ c.toNat ∧ c.toNat < room length ∧
    encodeChar c = carry length c.toNat := by
  have bound := code_lt c
  simp only [encodeChar]
  split_ifs with one two three
  · exact ⟨1, Nat.zero_le _, one, rfl⟩
  · exact ⟨2, Nat.le_of_not_lt one, two, rfl⟩
  · exact ⟨3, Nat.le_of_not_lt two, three, rfl⟩
  · refine ⟨4, Nat.le_of_not_lt three, ?_, rfl⟩
    simp only [room]
    omega

/-- The shortest sequence for a scalar value is the encoding of its character. -/
theorem carry_of_valid (least : room (length - 1) ≤ code) (inside : code < room length)
    (valid : code.isValidChar) : carry length code = encodeChar (Char.ofNat code) := by
  have number : (Char.ofNat code).toNat = code := by rw [Char.toNat_ofNat, if_pos valid]
  obtain ⟨shortest, lowest, within, same⟩ := exists_carry (Char.ofNat code)
  rw [number] at lowest within same
  rw [same, room_unique least inside lowest within]

def Continues (byte : UInt8) : Prop := 0x80 ≤ byte.toNat ∧ byte.toNat < 0xC0

theorem width?_eq_none_iff {lead : UInt8} :
    width? lead = none ↔ Continues lead ∨ 0xF8 ≤ lead.toNat := by
  simp only [width?, Continues]
  split_ifs <;> simp only [true_iff, false_iff] <;> omega

theorem continues_ofNat (digit : Nat) : Continues (UInt8.ofNat (0x80 + digit % 64)) := by
  rw [Continues, UInt8.toNat_ofNat']
  omega

theorem continues_carry {lead byte : UInt8} {rest : List UInt8}
    (front : carry length code = lead :: rest) (behind : byte ∈ rest) : Continues byte := by
  unfold carry at front
  split at front
  all_goals try cases front
  all_goals simp only [List.mem_cons, List.not_mem_nil, or_false] at behind
  · rw [behind]
    exact continues_ofNat code
  · rcases behind with rfl | rfl <;> exact continues_ofNat _
  · rcases behind with rfl | rfl | rfl <;> exact continues_ofNat _

theorem carry_payload {lead : UInt8} {rest : List UInt8}
    (announced : width? lead = some (lead :: rest).length) (continued : ∀ byte ∈ rest, Continues byte) :
    carry (lead :: rest).length (payload (lead :: rest)) = lead :: rest ∧
      payload (lead :: rest) < room (lead :: rest).length := by
  rcases width?_eq_some_iff.mp announced with
    ⟨size, low⟩ | ⟨size, low, high⟩ | ⟨size, low, high⟩ | ⟨size, low, high⟩
  · obtain rfl := List.length_eq_zero_iff.mp (Nat.succ.inj size)
    simp only [List.length_singleton, carry, payload, room, UInt8.ofNat_toNat, true_and]
    exact low
  · obtain ⟨b, rfl⟩ := List.length_eq_one_iff.mp (Nat.succ.inj size)
    simp only [List.forall_mem_cons, Continues] at continued
    simp only [size, carry, payload, room, List.cons.injEq, and_true, ← UInt8.toNat_inj, UInt8.toNat_ofNat']
    omega
  · obtain ⟨b, c, rfl⟩ := List.length_eq_two.mp (Nat.succ.inj size)
    simp only [List.forall_mem_cons, Continues] at continued
    simp only [size, carry, payload, room, List.cons.injEq, and_true, ← UInt8.toNat_inj, UInt8.toNat_ofNat']
    omega
  · obtain ⟨b, c, d, rfl⟩ := List.length_eq_three.mp (Nat.succ.inj size)
    simp only [List.forall_mem_cons, Continues] at continued
    simp only [size, carry, payload, room, List.cons.injEq, and_true, ← UInt8.toNat_inj, UInt8.toNat_ofNat']
    omega

/-- What can be wrong with a sequence of the length that its lead byte announces: a byte behind it does
not go on, or all do and carry a number that has a shorter form or belongs to no character. -/
inductive Malformed : List UInt8 → Prop where
  | interrupted {lead byte : UInt8} {rest : List UInt8}
      (announced : width? lead = some (lead :: rest).length) (behind : byte ∈ rest)
      (foreign : ¬Continues byte) : Malformed (lead :: rest)
  | overlong {length code : Nat} (small : length ≤ 4) (short : code < room (length - 1)) :
      Malformed (carry length code)
  | surrogate {code : Nat} (low : 0xD800 ≤ code) (high : code < 0xE000) : Malformed (carry 3 code)
  | beyond {code : Nat} (low : 0x110000 ≤ code) (high : code < room 4) : Malformed (carry 4 code)

theorem room_mono (small : length ≤ 4) : room (length - 1) ≤ room length := by
  interval_cases length <;> decide

theorem width?_carry (inside : code < room length) :
    (carry length code).head?.bind width? = some length := by
  unfold room at inside
  split at inside
  all_goals try omega
  all_goals
    rw [carry, List.head?_cons, Option.bind_some, width?_eq_some_iff, UInt8.toNat_ofNat']
    omega

theorem Malformed.announced {bytes : List UInt8} (malformed : Malformed bytes) :
    bytes.head?.bind width? = some bytes.length := by
  have carried : ∀ {length code : Nat}, code < room length →
      (carry length code).head?.bind width? = some (carry length code).length := by
    intro length code inside
    rw [width?_carry inside, length_carry (room_range inside).1 (room_range inside).2]
  cases malformed with
  | interrupted announced _ _ => exact announced
  | overlong small short => exact carried (Nat.lt_of_lt_of_le short (room_mono small))
  | surrogate _ high =>
    apply carried
    simp only [room]
    omega
  | beyond _ high => exact carried high

theorem Malformed.ne_encodeChar {bytes : List UInt8} (malformed : Malformed bytes) (c : Char) :
    bytes ≠ encodeChar c := by
  intro same
  obtain ⟨shortest, least, inside, carried⟩ := exists_carry c
  rw [carried] at same
  cases malformed with
  | interrupted _ behind foreign => exact foreign (continues_carry same.symm behind)
  | @overlong length code small short =>
    have within : code < room length := Nat.lt_of_lt_of_le short (room_mono small)
    obtain ⟨rfl, rfl⟩ := carry_injective within inside same
    omega
  | @surrogate code low high =>
    have within : code < room 3 := by
      simp only [room]
      omega
    obtain ⟨_, rfl⟩ := carry_injective within inside same
    rcases c.valid with below | above
    · exact absurd low (Nat.not_le.mpr below)
    · exact absurd high (Nat.not_lt.mpr above.1)
  | @beyond code low high =>
    obtain ⟨_, rfl⟩ := carry_injective high inside same
    exact absurd low (Nat.not_le.mpr (code_lt c))

variable {lead : UInt8} {rest : List UInt8}

/-- A number with room that is no scalar value is a surrogate or lies beyond the last one. -/
theorem malformed_of_not_valid (least : room (length - 1) ≤ code) (inside : code < room length)
    (invalid : ¬code.isValidChar) : Malformed (carry length code) := by
  have outside : 0xD800 ≤ code ∧ (code < 0xE000 ∨ 0x110000 ≤ code) := by
    simp only [Nat.isValidChar] at invalid
    omega
  obtain ⟨positive, small⟩ := room_range inside
  rcases outside with ⟨low, high | above⟩
  · obtain rfl : length = 3 := by
      interval_cases length <;> simp only [room] at * <;> omega
    exact .surrogate low high
  · obtain rfl : length = 4 := by
      interval_cases length <;> simp only [room] at * <;> omega
    exact .beyond above inside

theorem scalar?_eq_none_iff (announced : width? lead = some (lead :: rest).length) :
    scalar? (lead :: rest) = none ↔ Malformed (lead :: rest) := by
  constructor
  · intro unread
    by_cases continued : ∀ byte ∈ rest, Continues byte
    · obtain ⟨carried, inside⟩ := carry_payload announced continued
      rw [← carried] at unread ⊢
      by_cases short : payload (lead :: rest) < room ((lead :: rest).length - 1)
      · exact .overlong (room_range inside).2 short
      · have least := Nat.le_of_not_lt short
        apply malformed_of_not_valid least inside
        intro valid
        rw [carry_of_valid least inside valid, scalar?_encodeChar] at unread
        cases unread
    · simp only [not_forall] at continued
      obtain ⟨byte, behind, foreign⟩ := continued
      exact .interrupted announced behind foreign
  · intro malformed
    rw [Option.eq_none_iff_forall_ne_some]
    intro c scalar
    exact malformed.ne_encodeChar c (scalar?_eq_some_iff.mp scalar)

theorem head?_decode? (announced : width? lead = some (lead :: rest).length) :
    (decode? (lead :: rest)).bind List.head? = scalar? (lead :: rest) := by
  apply Option.ext
  intro c
  rw [Option.bind_eq_some_iff, scalar?_eq_some_iff]
  constructor
  · intro given
    obtain ⟨chars, decoded, first⟩ := given
    obtain ⟨later, rfl⟩ := List.head?_eq_some_iff.mp first
    have whole := decode?_eq_some_iff.mp decoded
    rw [encode_cons] at whole
    cases front : encodeChar c with
    | nil => exact absurd front (encodeChar_ne_nil c)
    | cons own tail =>
      rw [front, List.cons_append] at whole
      obtain ⟨rfl, rfl⟩ := List.cons.inj whole
      have width := width?_encodeChar c front
      rw [announced, front] at width
      have none_behind : (encode later).length = 0 := by
        have lengths := Option.some.inj width
        simp only [List.length_cons, List.length_append] at lengths
        omega
      rw [List.length_eq_zero_iff.mp none_behind, List.append_nil]
  · intro same
    have single : encode [c] = encodeChar c := by rw [encode_cons]; exact List.append_nil _
    exact ⟨[c], decode?_eq_some_iff.mpr (same.trans single.symm), rfl⟩

end GameSheet.Text.Utf8
