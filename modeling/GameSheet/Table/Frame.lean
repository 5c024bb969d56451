import GameSheet.Wire.Varint

/-!
Frames. A stream of rows is each row's length as a varint of 32 bits, followed by the row. Reading
gives the frames in order up to the first error; offsets count from the start of the stream.
-/

namespace GameSheet

inductive FrameError where
  | badLength (offset : Nat) (fault : Wire.VarintError)
  | overrun (row offset length remaining : Nat)
  deriving DecidableEq, Repr

namespace Frame

def encode (row : List UInt8) : List UInt8 := Wire.Varint.encode row.length ++ row

structure Step where
  row : List UInt8
  size : Nat
  rest : List UInt8

/-- Takes one frame from the front; `ordinal` and `offset` only go into errors. -/
def next (ordinal offset : Nat) (bytes : List UInt8) : Except FrameError Step :=
  match Wire.Varint.decode .narrow bytes with
  | .error fault => .error (.badLength offset fault)
  | .ok (length, read) =>
    let body := bytes.drop read
    let row := body.take length
    if row.length < length then .error (.overrun ordinal offset length body.length)
    else .ok ⟨row, read + length, body.drop length⟩

theorem next_shorter {ordinal offset : Nat} {bytes : List UInt8} {step : Step}
    (taken : next ordinal offset bytes = .ok step) : step.rest.length < bytes.length := by
  unfold next at taken
  split at taken
  · simp at taken
  · rename_i length read decoded
    have advance := Wire.Varint.decodeFrom_advances decoded
    simp only at taken
    split at taken
    · simp at taken
    · simp only [Except.ok.injEq] at taken
      subst taken
      simp only [List.length_drop]
      omega

/-- The frames of a stream whose first frame has the given ordinal and offset. -/
def decodeFrom (ordinal offset : Nat) (bytes : List UInt8) :
    List (Except FrameError (Nat × List UInt8)) :=
  match bytes with
  | [] => []
  | first :: more =>
    match _taken : next ordinal offset (first :: more) with
    | .error fault => [.error fault]
    | .ok step => .ok (ordinal, step.row) :: decodeFrom (ordinal + 1) (offset + step.size) step.rest
termination_by bytes.length
decreasing_by exact next_shorter _taken

def decode (bytes : List UInt8) : List (Except FrameError (Nat × List UInt8)) := decodeFrom 0 0 bytes

end Frame

end GameSheet
