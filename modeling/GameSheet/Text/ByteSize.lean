import GameSheet.Text.Decimal

/-!
Sizes as people read them. Up to a kibibyte the bytes are counted; above it a size has two places, and
a half of the last place goes to the even neighbour.
-/

namespace GameSheet.Text.ByteSize

def kibibyte : Nat := 1024

def mebibyte : Nat := 1024 * kibibyte

/-- The nearest number of hundredths of a unit. -/
def hundredths (bytes unit : Nat) : Nat :=
  let below := bytes * 100 / unit
  let rest := 2 * (bytes * 100 % unit)
  if rest < unit ∨ (rest = unit ∧ below % 2 = 0) then below else below + 1

def places (count : Nat) : List Char :=
  natural (count / 100) ++ ['.', digitChar (count / 10 % 10), digitChar (count % 10)]

def text (bytes : Nat) : String :=
  if bytes < kibibyte then s!"{bytes} bytes"
  else if bytes < mebibyte then String.ofList (places (hundredths bytes kibibyte)) ++ " KB"
  else String.ofList (places (hundredths bytes mebibyte)) ++ " MB"

end GameSheet.Text.ByteSize
