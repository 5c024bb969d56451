import GameSheet.Proofs.Traversal
import GameSheet.Proofs.Wire.Words

/-!
Which bytes are numerals. A numeral ends at the first byte without a top bit, and its seven-bit groups
are digits to the base 128, the lowest first. It is read when it has no more bytes than the width
allows and its value fits; bytes that end too early are told from bytes that go too far. Writing gives
the shortest numeral, which is the only one of its size.
-/

namespace GameSheet.Wire.Varint

variable {width : VarintWidth}

/-- The bytes begin with a numeral of `read` bytes, the last of which alone has no top bit, for a value
of the width. -/
def Denotes (width : VarintWidth) (bytes : List UInt8) (value read : Nat) : Prop :=
  ∃ lead last rest, bytes = lead ++ last :: rest ∧ (∀ byte ∈ lead, Marked byte) ∧ ¬Marked last ∧
    read = lead.length + 1 ∧ read ≤ width.lastIndex + 1 ∧
    value = Nat.ofDigits 128 ((lead ++ [last]).map group) ∧ value < 2 ^ width.bits

def Unfinished (width : VarintWidth) (bytes : List UInt8) : Prop :=
  (∀ byte ∈ bytes, Marked byte) ∧ bytes.length ≤ width.lastIndex

theorem Form.digits {index value : Nat} {bytes : List UInt8} (form : Form width index bytes value)
    (inside : index ≤ width.lastIndex) :
    ∃ lead last, bytes = lead ++ [last] ∧ (∀ byte ∈ lead, Marked byte) ∧ ¬Marked last ∧
      index + lead.length ≤ width.lastIndex ∧
      value = Nat.ofDigits 128 ((lead ++ [last]).map group) := by
  induction form with
  | @last index byte small fits =>
    have unmarked : ¬Marked byte := by
      rw [marked_iff]
      omega
    have digit : byte.toNat = group byte := by
      rw [group_eq]
      omega
    refine ⟨[], byte, rfl, nofun, unmarked, inside, ?_⟩
    rw [List.nil_append, List.map_singleton, Nat.ofDigits_singleton, digit]
  | @more index high byte rest marked place tail ih =>
    obtain ⟨lead, last, rfl, each, unmarked, room, rfl⟩ := ih (by omega)
    refine ⟨byte :: lead, last, rfl, ?_, unmarked, ?_, ?_⟩
    · exact List.forall_mem_cons.mpr ⟨marked_iff.mpr marked, each⟩
    · rw [List.length_cons]
      omega
    · rw [List.cons_append, List.map_cons, Nat.ofDigits_cons, group_eq]

theorem form_of_digits {index : Nat} {lead : List UInt8} {last : UInt8}
    (marked : ∀ byte ∈ lead, Marked byte) (unmarked : ¬Marked last)
    (inside : index + lead.length ≤ width.lastIndex)
    (fits : Nat.ofDigits 128 ((lead ++ [last]).map group) < width.room index) :
    Form width index (lead ++ [last]) (Nat.ofDigits 128 ((lead ++ [last]).map group)) := by
  -- Each byte leaves the rest a group less of room, and takes a group off the number.
  induction lead generalizing index with
  | nil =>
    rw [marked_iff] at unmarked
    have digit : group last = last.toNat := by
      rw [group_eq]
      omega
    rw [List.nil_append, List.map_singleton, Nat.ofDigits_singleton, digit] at fits ⊢
    apply Form.last (by omega)
    intro place
    rw [place, width.room_lastIndex] at fits
    omega
  | cons byte lead ih =>
    obtain ⟨first, later⟩ := List.forall_mem_cons.mp marked
    rw [List.length_cons] at inside
    rw [List.cons_append, List.map_cons, Nat.ofDigits_cons] at fits ⊢
    rw [width.room_succ (by omega)] at fits
    rw [group_eq]
    exact Form.more (marked_iff.mp first) (by omega) (ih later (by omega) (by omega))

theorem decode_eq_ok_iff_denotes {bytes : List UInt8} {value read : Nat} :
    decode width bytes = .ok (value, read) ↔ Denotes width bytes value read := by
  rw [decode_eq_ok_iff]
  constructor
  · intro given
    rcases given with ⟨taken, rest, rfl, rfl, form⟩
    obtain ⟨lead, last, rfl, marked, unmarked, inside, same⟩ := form.digits (Nat.zero_le _)
    refine ⟨lead, last, rest, ?_, marked, unmarked, ?_, ?_, same, form.lt_bits⟩
    · rw [List.append_assoc, List.singleton_append]
    · rw [List.length_append, List.length_singleton]
    · rw [List.length_append, List.length_singleton]
      omega
  · intro given
    rcases given with ⟨lead, last, rest, rfl, marked, unmarked, rfl, inside, rfl, fits⟩
    rw [← width.room_zero] at fits
    refine ⟨lead ++ [last], rest, ?_, ?_, form_of_digits marked unmarked (by omega) fits⟩
    · rw [List.append_assoc, List.singleton_append]
    · rw [List.length_append, List.length_singleton]

theorem decodeFrom_marked {index : Nat} {bytes : List UInt8} (marked : ∀ byte ∈ bytes, Marked byte)
    (inside : index + bytes.length ≤ width.lastIndex) :
    decodeFrom width index bytes = .error (.truncated (index + bytes.length)) := by
  induction bytes generalizing index with
  | nil => rfl
  | cons byte rest ih =>
    obtain ⟨first, later⟩ := List.forall_mem_cons.mp marked
    rw [marked_iff] at first
    rw [List.length_cons] at inside ⊢
    have unblocked : ¬(index = width.lastIndex ∧ width.lastLimit < byte.toNat) := by omega
    rw [decodeFrom, if_neg unblocked, if_neg (Nat.not_lt.mpr first), ih later (by omega), Except.map,
      Nat.add_assoc, Nat.add_comm 1]

theorem fault_of_decodeFrom {index : Nat} {bytes : List UInt8} {fault : VarintError}
    (inside : index ≤ width.lastIndex) (failed : decodeFrom width index bytes = .error fault) :
    fault = .overflow width.bits ∨ fault = .truncated (index + bytes.length) ∧
      (∀ byte ∈ bytes, Marked byte) ∧ index + bytes.length ≤ width.lastIndex := by
  induction bytes generalizing index with
  | nil => exact Or.inr ⟨(Except.error.inj failed).symm, nofun, inside⟩
  | cons byte rest ih =>
    simp only [decodeFrom] at failed
    split at failed
    next => exact Or.inl (Except.error.inj failed).symm
    next fits =>
      split at failed
      next => cases failed
      next large =>
        have limit := width.lastLimit_lt
        have before : index ≠ width.lastIndex := fun last => fits ⟨last, by omega⟩
        rcases ih (by omega) (Traversal.map_eq_error.mp failed) with beyond | ⟨rfl, marked, room⟩
        · exact Or.inl beyond
        · right
          rw [List.length_cons]
          refine ⟨by congr 1; omega, ?_, by omega⟩
          exact List.forall_mem_cons.mpr ⟨marked_iff.mpr (Nat.le_of_not_lt large), marked⟩

theorem decode_eq_truncated {bytes : List UInt8} {count : Nat} :
    decode width bytes = .error (.truncated count) ↔
      count = bytes.length ∧ Unfinished width bytes := by
  constructor
  · intro failed
    rcases fault_of_decodeFrom (Nat.zero_le _) failed with beyond | ⟨same, marked, room⟩
    · cases beyond
    · rw [Nat.zero_add] at same room
      exact ⟨VarintError.truncated.inj same, marked, room⟩
  · intro given
    rcases given with ⟨rfl, marked, room⟩
    have cut := decodeFrom_marked marked (by rwa [Nat.zero_add])
    rwa [Nat.zero_add] at cut

theorem decode_eq_overflow {bytes : List UInt8} {bits : Nat} :
    decode width bytes = .error (.overflow bits) ↔ bits = width.bits ∧ ¬Unfinished width bytes ∧
      ∀ value read, ¬Denotes width bytes value read := by
  simp only [← decode_eq_ok_iff_denotes]
  constructor
  · intro failed
    refine ⟨?_, ?_, by simp [failed]⟩
    · rcases fault_of_decodeFrom (Nat.zero_le _) failed with beyond | ⟨cut, _⟩
      · exact VarintError.overflow.inj beyond
      · cases cut
    · intro unfinished
      rw [decode_eq_truncated.mpr ⟨rfl, unfinished⟩] at failed
      cases failed
  · intro given
    rcases given with ⟨rfl, finished, unread⟩
    cases result : decode width bytes with
    | ok pair => exact absurd result (unread pair.1 pair.2)
    | error fault =>
      rcases fault_of_decodeFrom (Nat.zero_le _) result with rfl | ⟨rfl, marked, room⟩
      · rfl
      · exact absurd ⟨marked, by omega⟩ finished

theorem length_encode (value : Nat) : (encode value).length = size value := by
  induction value using Nat.strongRecOn with
  | ind value ih =>
    rw [encode, size]
    split
    next => rfl
    next => rw [List.length_cons, ih (value / 128) (by omega), Nat.add_comm]

theorem size_le {value : Nat} (bound : value < 2 ^ width.bits) : size value ≤ width.lastIndex + 1 := by
  obtain ⟨lead, last, same, _, _, room, _⟩ := (encode_form bound).digits (Nat.zero_le _)
  rw [← length_encode, same, List.length_append, List.length_singleton]
  omega

/-- What is written for a value reads as the value whatever follows it, in the size of the value. Bytes
that read as the value are as many, and then they are the same, or more. -/
theorem encode_shortest (width : VarintWidth) {value : Nat} (bound : value < 2 ^ width.bits) :
    spread (UInt64.ofNat value) = encode value ∧
    (∀ rest, decode width (encode value ++ rest) = .ok (value, size value)) ∧
    (encode value).length = size value ∧ size value ≤ width.lastIndex + 1 ∧
    ∀ bytes read, decode width bytes = .ok (value, read) →
      size value ≤ read ∧ (read = size value ↔ bytes.take read = encode value) := by
  have word : value < 2 ^ 64 := by
    apply Nat.lt_of_lt_of_le bound
    cases width <;> decide
  refine ⟨?_, ?_, length_encode value, size_le bound, ?_⟩
  · rw [spread_eq, UInt64.toNat_ofNat_of_lt' word]
  · intro rest
    rw [← length_encode]
    exact decode_eq_ok_iff.mpr ⟨_, rest, rfl, rfl, encode_form bound⟩
  · intro bytes read decoded
    obtain ⟨taken, rest, rfl, rfl, form⟩ := decode_eq_ok_iff.mp decoded
    rw [List.take_left, ← length_encode]
    refine ⟨form.shortens.length_le, ?_⟩
    rw [eq_comm, ← form.shortens.eq_iff, eq_comm]

theorem encode_shortest_threeHundred :
    300 < 2 ^ 32 ∧ decode .narrow [0xAC, 0x02, 0xFF] = .ok (300, 2) ∧ size 300 ≤ 5 ∧
      decode .narrow [0xAC, 0x82, 0x00] = .ok (300, 3) ∧ size 300 ≤ 3 := by
  obtain ⟨_, reads, _, most, least⟩ := encode_shortest .narrow (by decide : 300 < 2 ^ 32)
  have longer : decode .narrow [0xAC, 0x82, 0x00] = .ok (300, 3) := by decide
  have written : encode 300 = [0xAC, 0x02] := by simp [encode]
  have two : size 300 = 2 := by simp [size]
  have short := reads [0xFF]
  rw [written, two] at short
  exact ⟨by decide, short, most, longer, (least _ _ longer).1⟩

/-- Reading gives a value and a size for the numerals of the width, and for nothing else; it gives the
number of the bytes where they end too early, and an overflow in all other cases. It looks at no byte
behind the numeral, and a shift by the width of the word or more does not occur. The two widths differ
in their bounds only. -/
theorem decode_exact (width : VarintWidth) (bytes : List UInt8) :
    (∀ value read, decode width bytes = .ok (value, read) ↔ Denotes width bytes value read) ∧
    (∀ count, decode width bytes = .error (.truncated count) ↔
      count = bytes.length ∧ Unfinished width bytes) ∧
    (∀ bits, decode width bytes = .error (.overflow bits) ↔ bits = width.bits ∧
      ¬Unfinished width bytes ∧ ∀ value read, ¬Denotes width bytes value read) ∧
    gather width bytes = some ((decode width bytes).map
      (fun (value, read) => (BitVec.ofNat width.bits value, read))) ∧
    (∀ value read other, decode width bytes = .ok (value, read) → other.take read = bytes.take read →
      decode width other = .ok (value, read)) ∧
    ∀ value read, decode .narrow bytes = .ok (value, read) ↔
      decode .wide bytes = .ok (value, read) ∧ read ≤ 5 ∧ value < 2 ^ 32 := by
  refine ⟨fun _ _ => decode_eq_ok_iff_denotes, fun _ => decode_eq_truncated,
    fun _ => decode_eq_overflow, gather_eq width bytes, ?_, ?_⟩
  · intro value read other decoded same
    obtain ⟨taken, rest, rfl, rfl, form⟩ := decode_eq_ok_iff.mp decoded
    rw [List.take_left] at same
    refine decode_eq_ok_iff.mpr ⟨taken, other.drop taken.length, ?_, rfl, form⟩
    calc other = other.take taken.length ++ other.drop taken.length :=
          (List.take_append_drop taken.length other).symm
      _ = taken ++ other.drop taken.length := by rw [same]
  · intro value read
    rw [decode_eq_ok_iff_denotes, decode_eq_ok_iff_denotes]
    constructor
    · intro given
      rcases given with ⟨lead, last, rest, rfl, marked, unmarked, rfl, inside, rfl, fits⟩
      refine ⟨⟨lead, last, rest, rfl, marked, unmarked, rfl, ?_, rfl, ?_⟩, inside, fits⟩
      · exact inside.trans (by decide)
      · exact fits.trans (by decide)
    · intro given
      rcases given with ⟨⟨lead, last, rest, rfl, marked, unmarked, rfl, _, rfl, _⟩, inside, fits⟩
      exact ⟨lead, last, rest, rfl, marked, unmarked, rfl, inside, rfl, fits⟩

/-- The greatest value of 32 bits in the fewest bytes. What follows them is not looked at. -/
theorem decode_exact_greatest :
    decode .narrow [0xFF, 0xFF, 0xFF, 0xFF, 0x0F, 0x80] = .ok (2 ^ 32 - 1, 5) ∧
      decode .narrow [0xFF, 0xFF, 0xFF, 0xFF, 0x0F] = .ok (2 ^ 32 - 1, 5) := by
  have decoded : decode .narrow [0xFF, 0xFF, 0xFF, 0xFF, 0x0F, 0x80] = .ok (2 ^ 32 - 1, 5) := by decide
  obtain ⟨_, _, _, _, others, _⟩ :=
    decode_exact .narrow [0xFF, 0xFF, 0xFF, 0xFF, 0x0F, 0x80]
  exact ⟨decoded, others _ _ _ decoded (by decide)⟩

end GameSheet.Wire.Varint
