/-!
Decimal numerals. `natural` and `integer` write a number in its shortest decimal form; `digit?`
knows the ten ASCII digits only.
-/

namespace GameSheet.Text

def digitChar (digit : Nat) : Char := Char.ofNat (48 + digit)

def digit? (c : Char) : Option Nat :=
  if 48 ≤ c.toNat ∧ c.toNat ≤ 57 then some (c.toNat - 48) else none

def isDigit (c : Char) : Bool := (digit? c).isSome

def natural (n : Nat) : List Char :=
  if n < 10 then [digitChar n] else natural (n / 10) ++ [digitChar (n % 10)]

def integer (n : Int) : List Char :=
  if n < 0 then '-' :: natural n.natAbs else natural n.natAbs

/-- The number that a run of digits denotes; other characters count as zero. -/
def digitsValue (digits : List Char) : Nat :=
  digits.foldl (fun total c => total * 10 + (digit? c).getD 0) 0

end GameSheet.Text
