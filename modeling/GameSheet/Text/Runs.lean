/-!
Sets of characters as runs of code points in ascending order, each with both its ends.
-/

namespace GameSheet.Text

abbrev Runs := List (Nat × Nat)

def Runs.holds (runs : Runs) (c : Char) : Bool :=
  runs.any (fun (first, last) => first ≤ c.toNat && c.toNat ≤ last)

end GameSheet.Text
