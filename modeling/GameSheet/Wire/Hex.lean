/-!
Bytes in hexadecimal, two lower-case digits each.
-/

namespace GameSheet.Wire.Hex

def digit (value : Nat) : Char := if value < 10 then Char.ofNat (48 + value) else Char.ofNat (87 + value)

def encode (bytes : List UInt8) : List Char :=
  bytes.flatMap (fun byte => [digit (byte.toNat / 16), digit (byte.toNat % 16)])

def text (bytes : List UInt8) : String := String.ofList (encode bytes)

end GameSheet.Wire.Hex
