import GameSheet.Text.Decimal

/-!
The eight integer kinds of a sheet and the decimal numerals that denote their members. A numeral is
read from the left: the first character that is no digit, or the first digit that leaves the kind's
range, decides between a malformed numeral and an overflow.
-/

namespace GameSheet.Number

inductive IntegerKind where
  | byte | sbyte | short | ushort | int | uint | long | ulong
  deriving DecidableEq, Repr, Inhabited

namespace IntegerKind

def all : List IntegerKind := [byte, sbyte, short, ushort, int, uint, long, ulong]

def name : IntegerKind → String
  | byte => "byte"
  | sbyte => "sbyte"
  | short => "short"
  | ushort => "ushort"
  | int => "int"
  | uint => "uint"
  | long => "long"
  | ulong => "ulong"

def bits : IntegerKind → Nat
  | byte | sbyte => 8
  | short | ushort => 16
  | int | uint => 32
  | long | ulong => 64

def signed : IntegerKind → Bool
  | sbyte | short | int | long => true
  | byte | ushort | uint | ulong => false

def count : IntegerKind → Nat
  | byte | sbyte => 256
  | short | ushort => 65536
  | int | uint => 4294967296
  | long | ulong => 18446744073709551616

def half (kind : IntegerKind) : Nat := kind.count / 2

def least (kind : IntegerKind) : Int := if kind.signed then -kind.half else 0

def greatest (kind : IntegerKind) : Int :=
  if kind.signed then kind.half - 1 else kind.count - 1

theorem count_pos (kind : IntegerKind) : 0 < kind.count := by cases kind <;> decide

end IntegerKind

structure Bounded (kind : IntegerKind) where
  toInt : Int
  least_le : kind.least ≤ toInt
  le_greatest : toInt ≤ kind.greatest
  deriving DecidableEq, Repr

namespace Bounded

variable {kind : IntegerKind}

def ofInt? (kind : IntegerKind) (n : Int) : Option (Bounded kind) :=
  if inside : kind.least ≤ n ∧ n ≤ kind.greatest then some ⟨n, inside.1, inside.2⟩ else none

/-- The number that a pattern of the kind's width stands for. -/
def fold (kind : IntegerKind) (pattern : Nat) : Int :=
  if kind.signed ∧ kind.half ≤ pattern then pattern - kind.count else pattern

theorem least_le_fold {pattern : Nat} (small : pattern < kind.count) :
    kind.least ≤ fold kind pattern := by
  unfold fold IntegerKind.least IntegerKind.half
  cases kind <;> simp only [IntegerKind.count, IntegerKind.signed, Bool.false_eq_true, false_and,
    true_and, if_true, if_false] at small ⊢ <;> try split
  all_goals omega

theorem fold_le_greatest {pattern : Nat} (small : pattern < kind.count) :
    fold kind pattern ≤ kind.greatest := by
  unfold fold IntegerKind.greatest IntegerKind.half
  cases kind <;> simp only [IntegerKind.count, IntegerKind.signed, Bool.false_eq_true, false_and,
    true_and, if_true, if_false] at small ⊢ <;> try split
  all_goals omega

/-- The member that a pattern of the kind's width stands for; a signed kind takes patterns with the
top bit as negative. Only the pattern's residue matters. -/
def ofPattern (kind : IntegerKind) (pattern : Nat) : Bounded kind :=
  let residue := pattern % kind.count
  have small : residue < kind.count := Nat.mod_lt _ kind.count_pos
  ⟨fold kind residue, least_le_fold small, fold_le_greatest small⟩

/-- Two's complement in the kind's width. -/
def pattern (n : Bounded kind) : Nat := (n.toInt % kind.count).toNat

def text (n : Bounded kind) : List Char := Text.integer n.toInt

end Bounded

inductive NumeralFault where
  | malformed
  | overflow
  deriving DecidableEq, Repr

/-- Reads digits into `total`, which may not pass `limit`. -/
def readDigits (limit : Nat) : Nat → List Char → Except NumeralFault Nat
  | total, [] => .ok total
  | total, c :: rest =>
    match Text.digit? c with
    | none => .error .malformed
    | some digit =>
      if limit < total * 10 + digit then .error .overflow
      else readDigits limit (total * 10 + digit) rest

/-- At least one digit. -/
def readMagnitude (limit : Nat) : List Char → Except NumeralFault Nat
  | [] => .error .malformed
  | digits => readDigits limit 0 digits

/-- An optional plus sign, or for the signed kinds a minus sign, and then digits only. -/
def readInt (kind : IntegerKind) : List Char → Except NumeralFault Int
  | '+' :: digits => (readMagnitude kind.greatest.toNat digits).map Int.ofNat
  | '-' :: digits =>
    if kind.signed then (readMagnitude kind.least.natAbs digits).map Int.negOfNat
    else .error .malformed
  | digits => (readMagnitude kind.greatest.toNat digits).map Int.ofNat

theorem readDigits_le {limit total value : Nat} {digits : List Char} (bounded : total ≤ limit)
    (read : readDigits limit total digits = .ok value) : value ≤ limit := by
  induction digits generalizing total with
  | nil =>
    simp only [readDigits, Except.ok.injEq] at read
    omega
  | cons c rest ih =>
    simp only [readDigits] at read
    split at read
    · simp at read
    · split at read
      · simp at read
      · exact ih (by omega) read

theorem readMagnitude_le {limit value : Nat} {digits : List Char}
    (read : readMagnitude limit digits = .ok value) : value ≤ limit := by
  cases digits with
  | nil => simp [readMagnitude] at read
  | cons c rest => exact readDigits_le (Nat.zero_le _) read

theorem map_eq_ok {result : Except NumeralFault Nat} {f : Nat → Int} {n : Int}
    (mapped : result.map f = .ok n) : ∃ value, result = .ok value ∧ f value = n := by
  cases result with
  | error fault => simp [Except.map] at mapped
  | ok value => exact ⟨value, rfl, by simpa [Except.map] using mapped⟩

theorem readInt_inside {kind : IntegerKind} {chars : List Char} {n : Int}
    (read : readInt kind chars = .ok n) : kind.least ≤ n ∧ n ≤ kind.greatest := by
  have ends : kind.least ≤ 0 ∧ 0 ≤ kind.greatest := by cases kind <;> decide
  unfold readInt at read
  split at read
  · obtain ⟨value, magnitude, rfl⟩ := map_eq_ok read
    have bound := readMagnitude_le magnitude
    simp only [Int.ofNat_eq_natCast]
    omega
  · split at read
    · obtain ⟨value, magnitude, rfl⟩ := map_eq_ok read
      have bound := readMagnitude_le magnitude
      simp only [Int.negOfNat_eq, Int.ofNat_eq_natCast]
      omega
    · simp at read
  · obtain ⟨value, magnitude, rfl⟩ := map_eq_ok read
    have bound := readMagnitude_le magnitude
    simp only [Int.ofNat_eq_natCast]
    omega

def Bounded.read (kind : IntegerKind) (chars : List Char) : Except NumeralFault (Bounded kind) :=
  match found : readInt kind chars with
  | .error fault => .error fault
  | .ok n => .ok ⟨n, (readInt_inside found).1, (readInt_inside found).2⟩

end GameSheet.Number
