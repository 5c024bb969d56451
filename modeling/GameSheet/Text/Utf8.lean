/-!
UTF-8. `encodeChar` is the one encoding of a scalar value in one to four bytes. Decoding reads the
payload bits that the lead byte announces and accepts them only when the scalar's own encoding is
the bytes that were read, so overlong forms, surrogates, values past U+10FFFF and stray
continuation bytes have no reading.
-/

namespace GameSheet.Text.Utf8

def encodeChar (c : Char) : List UInt8 :=
  let code := c.toNat
  if code < 0x80 then [UInt8.ofNat code]
  else if code < 0x800 then [UInt8.ofNat (0xC0 + code / 64), UInt8.ofNat (0x80 + code % 64)]
  else if code < 0x10000 then
    [UInt8.ofNat (0xE0 + code / 4096), UInt8.ofNat (0x80 + code / 64 % 64),
      UInt8.ofNat (0x80 + code % 64)]
  else
    [UInt8.ofNat (0xF0 + code / 262144), UInt8.ofNat (0x80 + code / 4096 % 64),
      UInt8.ofNat (0x80 + code / 64 % 64), UInt8.ofNat (0x80 + code % 64)]

def encode (chars : List Char) : List UInt8 := chars.flatMap encodeChar

/-- How many bytes a sequence with this lead byte takes; continuation bytes lead nothing. -/
def width? (lead : UInt8) : Option Nat :=
  let code := lead.toNat
  if code < 0x80 then some 1
  else if code < 0xC0 then none
  else if code < 0xE0 then some 2
  else if code < 0xF0 then some 3
  else if code < 0xF8 then some 4
  else none

/-- The payload bits of a sequence, whether or not it is well formed. -/
def payload : List UInt8 → Nat
  | [a] => a.toNat
  | [a, b] => a.toNat % 32 * 64 + b.toNat % 64
  | [a, b, c] => a.toNat % 16 * 4096 + b.toNat % 64 * 64 + c.toNat % 64
  | [a, b, c, d] => a.toNat % 8 * 262144 + b.toNat % 64 * 4096 + c.toNat % 64 * 64 + d.toNat % 64
  | _ => 0

/-- The scalar value whose encoding is exactly these bytes. -/
def scalar? (bytes : List UInt8) : Option Char :=
  let c := Char.ofNat (payload bytes)
  if encodeChar c = bytes then some c else none

def decodeChar? (bytes : List UInt8) : Option (Char × List UInt8) :=
  match bytes with
  | [] => none
  | lead :: _ =>
    match width? lead with
    | none => none
    | some width => (scalar? (bytes.take width)).map (fun c => (c, bytes.drop width))

theorem width_pos {lead : UInt8} {width : Nat} (known : width? lead = some width) : 0 < width := by
  simp only [width?] at known
  split at known <;> try split at known
  all_goals try split at known
  all_goals try split at known
  all_goals try split at known
  all_goals simp at known
  all_goals omega

theorem decodeChar_shorter {bytes rest : List UInt8} {c : Char}
    (decoded : decodeChar? bytes = some (c, rest)) : rest.length < bytes.length := by
  cases bytes with
  | nil => simp [decodeChar?] at decoded
  | cons lead tail =>
    simp only [decodeChar?] at decoded
    split at decoded
    · simp at decoded
    · rename_i width known
      have positive := width_pos known
      simp only [Option.map_eq_some_iff, Prod.mk.injEq] at decoded
      obtain ⟨_, _, _, rfl⟩ := decoded
      simp only [List.length_drop, List.length_cons]
      omega

/-- The characters read so far, last one first, are `seen`. -/
def decodeFrom (seen : List Char) (bytes : List UInt8) : Option (List Char) :=
  match bytes with
  | [] => some seen.reverse
  | lead :: tail =>
    match _read : decodeChar? (lead :: tail) with
    | none => none
    | some (c, rest) => decodeFrom (c :: seen) rest
termination_by bytes.length
decreasing_by exact decodeChar_shorter _read

def decode? (bytes : List UInt8) : Option (List Char) := decodeFrom [] bytes

end GameSheet.Text.Utf8
