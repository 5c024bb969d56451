import GameSheet.Table.BlobFormat
import Mathlib

/-!
Headers of blobs. A format's header is split off exactly the blobs that have it in front, and a blob
with the header of another layout is told by the two fingerprints.
-/

namespace GameSheet

theorem Fingerprint.toBytes_length (fingerprint : Fingerprint) : fingerprint.toBytes.length = 8 := by
  rw [toBytes, Vector.length_toList]

theorem Fingerprint.ofBytes?_eq_some {bytes : List UInt8} {fingerprint : Fingerprint} :
    ofBytes? bytes = some fingerprint ↔ bytes = fingerprint.toBytes := by
  unfold ofBytes?
  constructor
  · intro found
    split at found
    next exact =>
      rw [← Option.some.inj found]
      rfl
    next => simp at found
  · intro same
    have size : bytes.toArray.size = 8 := by
      rw [same, List.size_toArray, toBytes_length]
    rw [dif_pos size]
    simp only [same, toBytes, Vector.toArray_toList]

namespace BlobFormat

variable {expected found : Fingerprint} {blob rows : List UInt8}

theorem header_parts (found : Fingerprint) (rows : List UInt8) :
    (fingerprinted.header found ++ rows).take 4 = magic ∧
      ((fingerprinted.header found ++ rows).drop 4).take 8 = found.toBytes ∧
      (fingerprinted.header found ++ rows).drop 12 = rows := by
  have size := found.toBytes_length
  have behind : (fingerprinted.header found ++ rows).drop 4 = found.toBytes ++ rows := rfl
  have last : (fingerprinted.header found ++ rows).drop 12 = (found.toBytes ++ rows).drop 8 := rfl
  rw [behind, last]
  exact ⟨rfl, List.take_left' size, List.drop_left' size⟩

theorem splitHeader_fingerprinted (expected found : Fingerprint) (rows : List UInt8) :
    fingerprinted.splitHeader expected (fingerprinted.header found ++ rows) =
      if found = expected then .ok rows else .error (.mismatch expected found) := by
  obtain ⟨front, print, rest⟩ := header_parts found rows
  simp only [splitHeader, front, print, rest, Fingerprint.ofBytes?_eq_some.mpr rfl, if_true]

theorem splitHeader_eq_ok {format : BlobFormat} :
    format.splitHeader expected blob = .ok rows ↔ blob = format.header expected ++ rows := by
  constructor
  · intro split
    cases format with
    | raw => exact Except.ok.inj split
    | fingerprinted =>
      simp only [splitHeader] at split
      split_ifs at split with front
      split at split
      next => simp at split
      next found print =>
        split_ifs at split with same
        have read := Fingerprint.ofBytes?_eq_some.mp print
        rw [same] at read
        calc
          blob = blob.take 4 ++ ((blob.drop 4).take 8 ++ (blob.drop 4).drop 8) := by
            rw [List.take_append_drop, List.take_append_drop]
          _ = magic ++ (expected.toBytes ++ blob.drop 12) := by
            rw [front, read, List.drop_drop]
          _ = fingerprinted.header expected ++ rows := by
            rw [Except.ok.inj split, header, List.append_assoc]
  · intro same
    rw [same]
    cases format with
    | raw => rfl
    | fingerprinted => rw [splitHeader_fingerprinted, if_pos rfl]

end BlobFormat

end GameSheet
