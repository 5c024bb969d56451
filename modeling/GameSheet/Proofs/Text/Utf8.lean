import GameSheet.Text.Utf8
import Mathlib

/-!
UTF-8 is a bijection between texts and the byte strings that have a reading. The lead byte of an
encoded character announces the length of its encoding, so characters are found again in a row of
them. Texts stand in the order of their encodings.
-/

namespace GameSheet.Text.Utf8

theorem code_lt (c : Char) : c.toNat < 0x110000 := by
  rcases c.valid with low | high
  · exact lt_trans low (by decide)
  · exact high.2

theorem payload_encodeChar (c : Char) : payload (encodeChar c) = c.toNat := by
  have bound := code_lt c
  simp only [encodeChar]
  split
  · simp only [payload, UInt8.toNat_ofNat']
    omega
  · split
    · simp only [payload, UInt8.toNat_ofNat']
      omega
    · split
      · simp only [payload, UInt8.toNat_ofNat']
        omega
      · simp only [payload, UInt8.toNat_ofNat']
        omega

theorem scalar?_encodeChar (c : Char) : scalar? (encodeChar c) = some c := by
  simp only [scalar?, payload_encodeChar, Char.ofNat_toNat, if_pos]

theorem encodeChar_of_scalar? {bytes : List UInt8} {c : Char} (scalar : scalar? bytes = some c) :
    encodeChar c = bytes := by
  simp only [scalar?] at scalar
  split at scalar
  next matching =>
    rw [← Option.some.inj scalar]
    exact matching
  next => simp at scalar

theorem encodeChar_ne_nil (c : Char) : encodeChar c ≠ [] := by
  simp only [encodeChar]
  split_ifs <;> simp

theorem width?_encodeChar (c : Char) {lead : UInt8} {rest : List UInt8}
    (front : encodeChar c = lead :: rest) : width? lead = some (encodeChar c).length := by
  have bound := code_lt c
  simp only [encodeChar] at front ⊢
  split_ifs at front ⊢ with one two three
  all_goals
    simp only [List.cons.injEq] at front
    rw [← front.1]
    simp only [width?, UInt8.toNat_ofNat', List.length_cons, List.length_nil]
    split_ifs <;> first | rfl | omega

theorem decodeChar?_encodeChar (c : Char) (rest : List UInt8) :
    decodeChar? (encodeChar c ++ rest) = some (c, rest) := by
  cases front : encodeChar c with
  | nil => exact absurd front (encodeChar_ne_nil c)
  | cons lead tail =>
    have width := width?_encodeChar c front
    rw [front] at width
    have taken : ((lead :: tail) ++ rest).take (lead :: tail).length = lead :: tail :=
      List.take_left
    have left : ((lead :: tail) ++ rest).drop (lead :: tail).length = rest := List.drop_left
    simp only [List.cons_append] at taken left ⊢
    rw [decodeChar?, width]
    simp only
    rw [taken, left, ← front, scalar?_encodeChar]
    rfl

theorem eq_of_decodeChar? {bytes rest : List UInt8} {c : Char}
    (decoded : decodeChar? bytes = some (c, rest)) : bytes = encodeChar c ++ rest := by
  cases bytes with
  | nil => simp [decodeChar?] at decoded
  | cons lead tail =>
    simp only [decodeChar?] at decoded
    split at decoded
    next => simp at decoded
    next width announced =>
      rw [Option.map_eq_some_iff] at decoded
      obtain ⟨d, scalar, same⟩ := decoded
      obtain ⟨rfl, rfl⟩ := Prod.mk.inj same
      rw [encodeChar_of_scalar? scalar, List.take_append_drop]

theorem encode_cons (c : Char) (chars : List Char) :
    encode (c :: chars) = encodeChar c ++ encode chars := List.flatMap_cons

theorem decodeFrom_encode (seen chars : List Char) :
    decodeFrom seen (encode chars) = some (seen.reverse ++ chars) := by
  induction chars generalizing seen with
  | nil => simp [encode, decodeFrom]
  | cons c chars ih =>
    have read := decodeChar?_encodeChar c (encode chars)
    rw [encode_cons]
    cases bytes : encodeChar c ++ encode chars with
    | nil => exact absurd (List.append_eq_nil_iff.mp bytes).1 (encodeChar_ne_nil c)
    | cons lead tail =>
      rw [bytes] at read
      rw [decodeFrom, read]
      simp only
      rw [ih, List.reverse_cons, List.append_assoc, List.singleton_append]

theorem eq_of_decodeFrom {seen chars : List Char} {bytes : List UInt8}
    (decoded : decodeFrom seen bytes = some chars) :
    ∃ later, chars = seen.reverse ++ later ∧ bytes = encode later := by
  induction seen, bytes using decodeFrom.induct generalizing chars with
  | case1 seen =>
    rw [decodeFrom, Option.some.injEq] at decoded
    exact ⟨[], by rw [← decoded, List.append_nil], rfl⟩
  | case2 seen lead tail read =>
    rw [decodeFrom, read] at decoded
    simp at decoded
  | case3 seen lead tail c rest read ih =>
    rw [decodeFrom, read] at decoded
    obtain ⟨later, rfl, rfl⟩ := ih decoded
    refine ⟨c :: later, ?_, ?_⟩
    · rw [List.reverse_cons, List.append_assoc, List.singleton_append]
    · rw [eq_of_decodeChar? read, encode_cons]

theorem decode?_eq_some_iff {bytes : List UInt8} {chars : List Char} :
    decode? bytes = some chars ↔ bytes = encode chars := by
  constructor
  · intro decoded
    obtain ⟨later, rfl, rfl⟩ := eq_of_decodeFrom decoded
    rfl
  · intro same
    subst same
    exact decodeFrom_encode [] chars

theorem encode_injective : Function.Injective encode := by
  intro first second same
  have read := decode?_eq_some_iff.mpr same
  rw [decode?_eq_some_iff.mpr rfl] at read
  exact Option.some.inj read

/-- A byte below 0x80 stands for its own character and is part of no other one. -/
theorem toNat_of_mem_encodeChar {c : Char} {byte : UInt8} (ascii : byte.toNat < 0x80)
    (member : byte ∈ encodeChar c) : c.toNat = byte.toNat := by
  have bound := code_lt c
  simp only [encodeChar] at member
  split_ifs at member with one two three
  all_goals simp only [List.mem_cons, List.not_mem_nil, or_false] at member
  · rw [member, UInt8.toNat_ofNat']
    omega
  · rcases member with rfl | rfl <;> (rw [UInt8.toNat_ofNat'] at ascii; omega)
  · rcases member with rfl | rfl | rfl <;> (rw [UInt8.toNat_ofNat'] at ascii; omega)
  · rcases member with rfl | rfl | rfl | rfl <;> (rw [UInt8.toNat_ofNat'] at ascii; omega)

theorem not_mem_encode {chars : List Char} {c : Char} (ascii : c.toNat < 0x80) (absent : c ∉ chars) :
    UInt8.ofNat c.toNat ∉ encode chars := by
  intro member
  obtain ⟨other, present, inside⟩ := List.mem_flatMap.mp member
  have code : (UInt8.ofNat c.toNat).toNat = c.toNat := by
    rw [UInt8.toNat_ofNat']
    omega
  have same := toNat_of_mem_encodeChar (by rwa [code]) inside
  rw [code] at same
  rw [← Char.ofNat_toNat other, same, Char.ofNat_toNat] at present
  exact absent present

theorem encodeChar_append_lt {c d : Char} (below : c < d) (rest others : List UInt8) :
    encodeChar c ++ rest < encodeChar d ++ others := by
  have code : c.toNat < d.toNat := below
  have bound := code_lt d
  have twice : ∀ code : Nat, code / 4096 = code / 64 / 64 := by omega
  have thrice : ∀ code : Nat, code / 262144 = code / 4096 / 64 := by omega
  have tail : ∀ code : Nat, (0x80 + code % 64) % 2 ^ 8 = 0x80 + code % 64 := by omega
  -- A longer encoding has the greater lead byte; those of one length are compared digit by digit.
  simp only [encodeChar, thrice, twice]
  split_ifs
  all_goals simp only [List.cons_append, List.nil_append, List.cons_lt_cons_iff,
    UInt8.lt_iff_toNat_lt, ← UInt8.toNat_inj, UInt8.toNat_ofNat', tail]
  all_goals omega

variable {first second : List Char}

theorem encode_lt (before : first < second) : encode first < encode second := by
  induction before with
  | @nil c chars =>
    obtain ⟨lead, tail, front⟩ := List.exists_cons_of_ne_nil (encodeChar_ne_nil c)
    rw [encode_cons, front]
    exact List.nil_lt_cons _ _
  | rel below =>
    rw [encode_cons, encode_cons]
    exact encodeChar_append_lt below _ _
  | cons _ ih =>
    rw [encode_cons, encode_cons]
    exact List.append_left_lt ih

/-- The order of bytes is the order of code points. -/
theorem encode_lt_encode : encode first < encode second ↔ first < second := by
  refine ⟨fun before => ?_, encode_lt⟩
  rcases lt_trichotomy first second with below | rfl | above
  · exact below
  · exact absurd before (List.lt_irrefl _)
  · exact absurd before (List.lt_asymm (encode_lt above))

end GameSheet.Text.Utf8
