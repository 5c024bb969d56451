import GameSheet.Sha256
import GameSheet.Text.Utf8
import GameSheet.Wire.Hex

/-!
Fingerprints of row layouts: the first eight bytes of a SHA-256 digest over the names and type
keywords of the fields in order, each name ended by a unit separator and each keyword by a record
separator.
-/

namespace GameSheet

structure Fingerprint where
  bytes : Vector UInt8 8
  deriving DecidableEq

namespace Fingerprint

def unitSeparator : UInt8 := 0x1F

def recordSeparator : UInt8 := 0x1E

/-- What is digested for fields with these names and keywords. -/
def preimage (fields : List (String × String)) : List UInt8 :=
  fields.flatMap (fun (name, keyword) =>
    Text.Utf8.encode name.toList ++ unitSeparator ::
      Text.Utf8.encode keyword.toList ++ [recordSeparator])

def truncate (digest : List UInt8) : Fingerprint := ⟨Vector.ofFn (fun index => digest.getD index 0)⟩

def of (fields : List (String × String)) : Fingerprint := truncate (Sha256.digest (preimage fields))

/-- The fingerprint that eight bytes make. -/
def ofBytes? (bytes : List UInt8) : Option Fingerprint :=
  if exact : bytes.toArray.size = 8 then some ⟨⟨bytes.toArray, exact⟩⟩ else none

def toBytes (fingerprint : Fingerprint) : List UInt8 := fingerprint.bytes.toList

def text (fingerprint : Fingerprint) : String := Wire.Hex.text fingerprint.toBytes

end Fingerprint

end GameSheet
