import GameSheet.Proofs.Codec.Sinks
import GameSheet.Proofs.Text.Sequences
import GameSheet.Proofs.Wire.Operations

/-!
Characters at a place of a row. A character is read exactly where the bytes go on with its encoding, and
the reader stops behind it. What is no character is refused: a sequence that the bytes end in before any
of it is taken, a lead byte that leads nothing at once, and a malformed sequence behind its bytes.
-/

namespace GameSheet.Wire.Reader

open Text.Utf8

def first (offset : Nat) (taken : List UInt8) : Reader Char :=
  match (decode? taken).bind List.head? with
  | some c => return c
  | none => throw (.invalidUtf8 offset)

def firstAt (offset : Nat) : Option UInt8 → Reader Char
  | none => throw (.unexpectedEnd offset 1 0)
  | some lead =>
    match width? lead with
    | none => throw (.invalidUtf8 offset)
    | some width => bytes width >>= first offset

def firstOfText : Reader Char := do
  let cursor ← get
  firstAt cursor.position cursor.unread.head?

variable {position : Nat} {lead : UInt8} {tail : List UInt8}

theorem announced_take {width : Nat} (announced : width? lead = some width)
    (enough : width ≤ (lead :: tail).length) :
    ((lead :: tail).take width).head?.bind width? = some ((lead :: tail).take width).length := by
  rw [List.head?_take, if_neg (width_pos announced).ne', List.length_take_of_le enough]
  exact announced

theorem char_of_announced {taken : List UInt8} (announced : taken.head?.bind width? = some taken.length)
    (rest : List UInt8) : char ⟨position, taken ++ rest⟩ =
      scalar position taken ⟨position + taken.length, rest⟩ := by
  cases taken with
  | nil => cases announced
  | cons lead tail =>
    have width : width? lead = some (lead :: tail).length := announced
    have read := yields_bytes (lead :: tail) position rest
    rw [List.cons_append, char_cons, charOf, width]
    exact bind_of_ok read

/-- Why no character is read at a place, and how many bytes are taken to find that out. -/
inductive Refuses (position : Nat) : List UInt8 → ReadError → Nat → Prop where
  | nothing : Refuses position [] (.unexpectedEnd position 1 0) 0
  | cut {lead : UInt8} {tail : List UInt8} {width : Nat} (announced : width? lead = some width)
      (short : (lead :: tail).length < width) :
      Refuses position (lead :: tail) (.unexpectedEnd position width (lead :: tail).length) 0
  | stray {lead : UInt8} {tail : List UInt8} (continues : Continues lead) :
      Refuses position (lead :: tail) (.invalidUtf8 position) 0
  | foreign {lead : UInt8} {tail : List UInt8} (high : 0xF8 ≤ lead.toNat) :
      Refuses position (lead :: tail) (.invalidUtf8 position) 0
  | malformed {taken rest : List UInt8} (malformed : Malformed taken) :
      Refuses position (taken ++ rest) (.invalidUtf8 position) taken.length

theorem char_of_none (unled : width? lead = none) : char ⟨position, lead :: tail⟩ =
    .error (.invalidUtf8 position) ⟨position, lead :: tail⟩ := by
  rw [char_cons, charOf, unled]
  rfl

theorem char_of_short {width : Nat} (announced : width? lead = some width)
    (short : (lead :: tail).length < width) : char ⟨position, lead :: tail⟩ =
      .error (.unexpectedEnd position width (lead :: tail).length) ⟨position, lead :: tail⟩ := by
  rw [char_cons, charOf, announced]
  exact bind_of_error (bytes_of_lt short)

theorem char_of_malformed {taken : List UInt8} (malformed : Malformed taken) (rest : List UInt8) :
    char ⟨position, taken ++ rest⟩ =
      .error (.invalidUtf8 position) ⟨position + taken.length, rest⟩ := by
  have announced := malformed.announced
  rw [char_of_announced announced, scalar]
  cases taken with
  | nil => cases announced
  | cons lead tail =>
    rw [(scalar?_eq_none_iff announced).mpr malformed]
    rfl

theorem refuses_of_announced {taken rest : List UInt8} {fault : ReadError} {next : Cursor}
    (announced : taken.head?.bind width? = some taken.length)
    (failed : char ⟨position, taken ++ rest⟩ = .error fault next) :
    Refuses position (taken ++ rest) fault taken.length ∧ next = ⟨position + taken.length, rest⟩ := by
  rw [char_of_announced announced, scalar] at failed
  cases judged : scalar? taken with
  | some c =>
    rw [judged] at failed
    cases failed
  | none =>
    rw [judged] at failed
    obtain ⟨rfl, rfl⟩ := EStateM.Result.error.inj failed
    cases taken with
    | nil => cases announced
    | cons lead tail => exact ⟨.malformed ((scalar?_eq_none_iff announced).mp judged), rfl⟩

theorem char_eq_error {bytes : List UInt8} {fault : ReadError} {next : Cursor} :
    char ⟨position, bytes⟩ = .error fault next ↔
      ∃ spent, Refuses position bytes fault spent ∧ next = Cursor.advance ⟨position, bytes⟩ spent := by
  constructor
  · intro failed
    cases bytes with
    | nil =>
      obtain ⟨rfl, rfl⟩ := EStateM.Result.error.inj failed
      exact ⟨0, .nothing, rfl⟩
    | cons lead tail =>
      cases announced : width? lead with
      | none =>
        rw [char_of_none announced] at failed
        obtain ⟨rfl, rfl⟩ := EStateM.Result.error.inj failed
        rcases width?_eq_none_iff.mp announced with continues | high
        · exact ⟨0, .stray continues, rfl⟩
        · exact ⟨0, .foreign high, rfl⟩
      | some width =>
        rcases Nat.lt_or_ge (lead :: tail).length width with short | enough
        · rw [char_of_short announced short] at failed
          obtain ⟨rfl, rfl⟩ := EStateM.Result.error.inj failed
          exact ⟨0, .cut announced short, rfl⟩
        · have split := List.take_append_drop width (lead :: tail)
          have size := List.length_take_of_le enough
          rw [← split] at failed
          obtain ⟨refused, rfl⟩ := refuses_of_announced (announced_take announced enough) failed
          rw [split, size] at refused
          exact ⟨width, refused, by rw [size]; rfl⟩
  · intro given
    obtain ⟨spent, refused, rfl⟩ := given
    cases refused with
    | nothing => rfl
    | cut announced short => exact char_of_short announced short
    | stray continues => exact char_of_none (width?_eq_none_iff.mpr (Or.inl continues))
    | foreign high => exact char_of_none (width?_eq_none_iff.mpr (Or.inr high))
    | malformed malformed =>
      rw [char_of_malformed malformed, Cursor.advance, List.drop_left]

/-- Every way to say that a character is read. -/
theorem char_eq_ok {cursor next : Cursor} {c : Char} : char cursor = .ok c next ↔
    ∃ count, 1 ≤ count ∧ count ≤ 4 ∧ count ≤ cursor.remaining ∧
      cursor.unread.take count = String.utf8EncodeChar c ∧ next = cursor.advance count := by
  rw [← encodeChar_eq_utf8EncodeChar]
  obtain ⟨position, unread⟩ := cursor
  constructor
  · intro read
    obtain ⟨taken, rfl, split, place⟩ := accepts_char _ _ _ read
    obtain ⟨length, _, inside, carried⟩ := exists_carry c
    obtain ⟨positive, small⟩ := room_range inside
    have size : (encodeChar c).length = length := by rw [carried, length_carry positive small]
    obtain ⟨_, rfl⟩ := Cursor.mk.inj split
    refine ⟨(encodeChar c).length, by omega, by omega, ?_, List.take_left, ?_⟩
    · simp only [Cursor.remaining, List.length_append]
      omega
    · rw [Cursor.advance, List.drop_left, ← place]
  · intro given
    obtain ⟨count, _, _, enough, front, rfl⟩ := given
    have size : (encodeChar c).length = count := by
      rw [← front]
      exact List.length_take_of_le enough
    have read := yields_char c position (unread.drop count)
    rw [← front, List.take_append_drop, front, size] at read
    exact read

theorem char_of_truncated {bytes later : List UInt8} {c : Char} (unfinished : later ≠ [])
    (split : bytes ++ later = encodeChar c) : ∃ needed, char ⟨position, bytes⟩ =
      .error (.unexpectedEnd position needed bytes.length) ⟨position, bytes⟩ := by
  cases bytes with
  | nil => exact ⟨1, rfl⟩
  | cons lead tail =>
    have announced := width?_encodeChar c split.symm
    have short : (lead :: tail).length < (encodeChar c).length := by
      rw [← split, List.length_append]
      exact Nat.lt_add_of_pos_right (List.length_pos_of_ne_nil unfinished)
    exact ⟨_, char_of_short announced short⟩

theorem first_of_announced {taken : List UInt8} (announced : taken.head?.bind width? = some taken.length)
    (offset : Nat) : first offset taken = scalar offset taken := by
  cases taken with
  | nil => cases announced
  | cons lead tail =>
    have same := head?_decode? announced
    cases judged : scalar? (lead :: tail) with
    | none => simp only [first, scalar, same, judged]
    | some c => simp only [first, scalar, same, judged]

/-- The text of the announced bytes is one character, so both ways to judge them agree. -/
theorem firstOfText_eq : firstOfText = char := by
  funext cursor
  obtain ⟨position, unread⟩ := cursor
  cases unread with
  | nil => rfl
  | cons lead tail =>
    change firstAt position (some lead) _ = _
    rw [char_cons, charOf, firstAt]
    cases announced : width? lead with
    | none => rfl
    | some width =>
      simp only
      rcases Nat.lt_or_ge (lead :: tail).length width with short | enough
      · rw [bind_of_error (bytes_of_lt short), bind_of_error (bytes_of_lt short)]
      · rw [bind_of_ok (bytes_of_le enough), bind_of_ok (bytes_of_le enough),
          first_of_announced (announced_take announced enough)]

theorem char_of_carry {length code : Nat} (inside : code < room length) (rest : List UInt8) :
    (∃ c next, char ⟨position, carry length code ++ rest⟩ = .ok c next) ↔
      room (length - 1) ≤ code ∧ code.isValidChar := by
  have refused : Malformed (carry length code) →
      ¬∃ c next, char ⟨position, carry length code ++ rest⟩ = .ok c next := by
    intro malformed read
    obtain ⟨c, next, read⟩ := read
    rw [char_of_malformed malformed] at read
    cases read
  constructor
  · intro read
    have least : room (length - 1) ≤ code := by
      by_contra short
      exact refused (.overlong (room_range inside).2 (Nat.lt_of_not_le short)) read
    refine ⟨least, ?_⟩
    by_contra invalid
    exact refused (malformed_of_not_valid least inside invalid) read
  · intro given
    rw [carry_of_valid given.1 inside given.2]
    exact ⟨_, _, yields_char (Char.ofNat code) position rest⟩

theorem put_char {value : Value} {front written : List UInt8}
    (done : ColumnType.char.codec.put value front = (written, none)) :
    ∃ c, value = .char c ∧ written = front ++ encodeChar c := by
  cases value with
  | char c => exact ⟨c, rfl, (Prod.mk.inj done).1.symm⟩
  | _ => cases done

/-- Whatever the bytes and the place, a character is read exactly where its one to four bytes come next,
and everything else is refused in one of the ways that `Refuses` lists. In particular a number that is
carried in too many bytes or is no scalar value is never read, bytes that end within a character are left
where they are, and what the codec of characters wrote is read again. To judge the announced bytes as a
text gives the same reader. -/
theorem char_exact (cursor : Cursor) :
    (∀ c next, char cursor = .ok c next ↔
      ∃ count, 1 ≤ count ∧ count ≤ 4 ∧ count ≤ cursor.remaining ∧
        cursor.unread.take count = String.utf8EncodeChar c ∧ next = cursor.advance count) ∧
    (∀ fault next, char cursor = .error fault next ↔
      ∃ spent, Refuses cursor.position cursor.unread fault spent ∧ next = cursor.advance spent) ∧
    (∀ length code rest, code < room length → cursor.unread = carry length code ++ rest →
      ((∃ c next, char cursor = .ok c next) ↔ room (length - 1) ≤ code ∧ code.isValidChar)) ∧
    (∀ c later, later ≠ [] → cursor.unread ++ later = String.utf8EncodeChar c →
      ∃ needed, char cursor =
        .error (.unexpectedEnd cursor.position needed cursor.remaining) cursor) ∧
    (∀ value front written, ColumnType.char.codec.put value front = (written, none) →
      ∃ c, value = .char c ∧ written = front ++ String.utf8EncodeChar c ∧
        char ((Cursor.start (written ++ cursor.unread)).advance front.length) =
          .ok c ((Cursor.start (written ++ cursor.unread)).advance written.length)) ∧
    firstOfText = char := by
  obtain ⟨position, unread⟩ := cursor
  refine ⟨fun _ _ => char_eq_ok, fun _ _ => char_eq_error, ?_, ?_, ?_, firstOfText_eq⟩
  · intro length code rest inside same
    obtain rfl : unread = carry length code ++ rest := same
    exact char_of_carry inside rest
  · intro c later unfinished split
    rw [← encodeChar_eq_utf8EncodeChar] at split
    exact char_of_truncated unfinished split
  · intro value front written done
    obtain ⟨c, rfl, rfl⟩ := put_char done
    refine ⟨c, rfl, by rw [encodeChar_eq_utf8EncodeChar], ?_⟩
    have read := yields_char c front.length unread
    simpa [Cursor.start, Cursor.advance] using read

/-- A euro sign cut short and one as it is written, and a surrogate in front of a letter. -/
theorem char_exact_euro :
    (∃ needed, char ⟨3, [0xE2, 0x82]⟩ =
      .error (.unexpectedEnd 3 needed 2) ⟨3, [0xE2, 0x82]⟩) ∧
    (∃ c, Value.char '€' = .char c ∧ char ⟨1, [0xE2, 0x82, 0xAC, 0xE2, 0x82]⟩ =
      .ok c ⟨4, [0xE2, 0x82]⟩) ∧
    ¬∃ c next, char ⟨0, [0xED, 0xA0, 0x80, 0x41]⟩ = .ok c next := by
  obtain ⟨_, _, _, truncated, written, _⟩ := char_exact ⟨3, [0xE2, 0x82]⟩
  obtain ⟨_, _, carried, _⟩ := char_exact ⟨0, [0xED, 0xA0, 0x80, 0x41]⟩
  have surrogate : 0xD800 < room 3 := by decide
  refine ⟨truncated '€' [0xAC] (by decide) (by decide), ?_, ?_⟩
  · obtain ⟨c, same, _, read⟩ := written (.char '€') [0xAA] [0xAA, 0xE2, 0x82, 0xAC] (by decide)
    exact ⟨c, same, read⟩
  · rw [carried 3 0xD800 [0x41] surrogate (by decide)]
    decide

end GameSheet.Wire.Reader
