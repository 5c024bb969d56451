/-!
Variable-length integers. Each byte carries seven bits, the least significant group first, and all
bytes but the last have the top bit set. A reader of a given width refuses a last possible byte
that would leave the width, so it takes at most five bytes for 32 bits and ten for 64.
-/

namespace GameSheet.Wire

inductive VarintError where
  | truncated (read : Nat)
  | overflow (bits : Nat)
  deriving DecidableEq, Repr

namespace VarintError

def code : VarintError → String
  | truncated _ => "TRUNCATED"
  | overflow _ => "OVERFLOW"

def message : VarintError → String
  | truncated read => s!"varint truncated after {read} bytes"
  | overflow bits => s!"varint overflows {bits} bits"

end VarintError

inductive VarintWidth where
  | narrow
  | wide
  deriving DecidableEq, Repr

namespace VarintWidth

def bits : VarintWidth → Nat
  | narrow => 32
  | wide => 64

/-- The place of the last byte that a value of this width can need, counted from zero. -/
def lastIndex : VarintWidth → Nat
  | narrow => 4
  | wide => 9

/-- The greatest last byte at that place. -/
def lastLimit : VarintWidth → Nat
  | narrow => 0x0F
  | wide => 0x01

end VarintWidth

namespace Varint

def encode (value : Nat) : List UInt8 :=
  if value < 128 then [UInt8.ofNat value]
  else UInt8.ofNat (128 + value % 128) :: encode (value / 128)

def size (value : Nat) : Nat := if value < 128 then 1 else 1 + size (value / 128)

/-- Reads on after `index` bytes: the value of the groups from there and how many bytes were read in
all. -/
def decodeFrom (width : VarintWidth) (index : Nat) : List UInt8 → Except VarintError (Nat × Nat)
  | [] => .error (.truncated index)
  | byte :: rest =>
    if index = width.lastIndex ∧ width.lastLimit < byte.toNat then .error (.overflow width.bits)
    else if byte.toNat < 128 then .ok (byte.toNat, index + 1)
    else (decodeFrom width (index + 1) rest).map
      (fun (high, read) => (byte.toNat % 128 + 128 * high, read))

def decode (width : VarintWidth) (bytes : List UInt8) : Except VarintError (Nat × Nat) :=
  decodeFrom width 0 bytes

theorem decodeFrom_advances {width : VarintWidth} {index value read : Nat} {bytes : List UInt8}
    (decoded : decodeFrom width index bytes = .ok (value, read)) :
    index < read ∧ read ≤ index + bytes.length := by
  induction bytes generalizing index value with
  | nil => simp [decodeFrom] at decoded
  | cons byte rest ih =>
    simp only [decodeFrom] at decoded
    split at decoded
    · simp at decoded
    · split at decoded
      · simp only [Except.ok.injEq, Prod.mk.injEq] at decoded
        simp only [List.length_cons]
        omega
      · cases later : decodeFrom width (index + 1) rest with
        | error fault => simp [later, Except.map] at decoded
        | ok pair =>
          simp only [later, Except.map, Except.ok.injEq, Prod.mk.injEq] at decoded
          have bound := @ih (index + 1) pair.1 (by rw [later, ← decoded.2])
          simp only [List.length_cons]
          omega

end Varint

end GameSheet.Wire
