import GameSheet.Schema.Fingerprint

/-!
The two forms of a blob. A raw blob is a stream of framed rows; a fingerprinted one has in front of
it the magic `DTB1` and the fingerprint of the row layout it was written with.
-/

namespace GameSheet

inductive BlobFormat where
  | raw
  | fingerprinted
  deriving DecidableEq, Repr, Inhabited

inductive HeaderError where
  | missing
  | mismatch (expected found : Fingerprint)
  deriving DecidableEq

namespace BlobFormat

def name : BlobFormat → String
  | raw => "raw"
  | fingerprinted => "fingerprinted"

/-- The case of ASCII letters does not matter. -/
def ofText? (text : String) : Option BlobFormat :=
  [raw, fingerprinted].find? (fun format => text.toList.map Char.toLower == format.name.toList)

def magic : List UInt8 := [0x44, 0x54, 0x42, 0x31]

def header (format : BlobFormat) (fingerprint : Fingerprint) : List UInt8 :=
  match format with
  | raw => []
  | fingerprinted => magic ++ fingerprint.toBytes

def splitHeader (format : BlobFormat) (expected : Fingerprint) (blob : List UInt8) :
    Except HeaderError (List UInt8) :=
  match format with
  | raw => .ok blob
  | fingerprinted =>
    if blob.take 4 = magic then
      match Fingerprint.ofBytes? ((blob.drop 4).take 8) with
      | none => .error .missing
      | some found =>
        if found = expected then .ok (blob.drop 12) else .error (.mismatch expected found)
    else .error .missing

end BlobFormat

end GameSheet
