/-!
Fixed-width numbers, least significant byte first.
-/

namespace GameSheet.Wire.LittleEndian

def encode : Nat → Nat → List UInt8
  | 0, _ => []
  | width + 1, value => UInt8.ofNat (value % 256) :: encode width (value / 256)

def decode : List UInt8 → Nat
  | [] => 0
  | byte :: rest => byte.toNat + 256 * decode rest

end GameSheet.Wire.LittleEndian
