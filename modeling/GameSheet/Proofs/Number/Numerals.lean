import GameSheet.Number.Integer
import GameSheet.Proofs.Text.Trimming

/-!
Numerals as they are written. The digits of a number read as that number as long as it is within the
limit, so every member of an integer kind is read from its own text. Such a text has digits only, but
for a minus sign in front.
-/

namespace GameSheet.Text

theorem digit?_digitChar {digit : Nat} (small : digit < 10) : digit? (digitChar digit) = some digit := by
  have each : ∀ digit < 10, digit? (digitChar digit) = some digit := by decide
  exact each digit small

theorem isDigit_iff {c : Char} : isDigit c = true ↔ 48 ≤ c.toNat ∧ c.toNat ≤ 57 := by
  unfold isDigit digit?
  split_ifs with inside
  · exact iff_of_true rfl inside
  · exact iff_of_false Bool.false_ne_true inside

theorem natural_of_lt {n : Nat} (small : n < 10) : natural n = [digitChar n] := by
  rw [natural, if_pos small]

theorem natural_of_le {n : Nat} (large : 10 ≤ n) :
    natural n = natural (n / 10) ++ [digitChar (n % 10)] := by
  rw [natural, if_neg (Nat.not_lt.mpr large)]

theorem natural_ne_nil (n : Nat) : natural n ≠ [] := by
  rw [natural]
  split_ifs <;> simp

theorem isDigit_of_mem_natural {n : Nat} : ∀ c ∈ natural n, isDigit c = true := by
  have single : ∀ {digit : Nat}, digit < 10 → isDigit (digitChar digit) = true := by
    intro digit small
    rw [isDigit, digit?_digitChar small, Option.isSome_some]
  induction n using natural.induct with
  | case1 n small =>
    rw [natural_of_lt small]
    intro c member
    rw [List.mem_singleton.mp member]
    exact single small
  | case2 n large ih =>
    rw [natural_of_le (Nat.le_of_not_lt large)]
    intro c member
    rcases List.mem_append.mp member with front | last
    · exact ih c front
    · rw [List.mem_singleton.mp last]
      exact single (Nat.mod_lt n (by decide))

theorem mem_integer {n : Int} : ∀ c ∈ integer n, c = '-' ∨ isDigit c = true := by
  intro c member
  unfold integer at member
  split_ifs at member with negative
  · rcases List.mem_cons.mp member with rfl | digit
    · exact Or.inl rfl
    · exact Or.inr (isDigit_of_mem_natural c digit)
  · exact Or.inr (isDigit_of_mem_natural c member)

theorem trim_integer (n : Int) : trim (integer n) = integer n := by
  apply trimEnds_of_forall
  intro c member
  rcases mem_integer c member with rfl | digit
  · decide
  · have bounds := isDigit_iff.mp digit
    exact isBlank_of_visible (by omega) (by omega)

theorem not_mem_integer {c : Char} (unsigned : c ≠ '-') (other : isDigit c = false) (n : Int) :
    c ∉ integer n := by
  intro member
  rcases mem_integer c member with sign | digit
  · exact unsigned sign
  · exact Bool.false_ne_true (other.symm.trans digit)

end GameSheet.Text

namespace GameSheet.Number

open Text

theorem readDigits_append (limit total : Nat) (front back : List Char) :
    readDigits limit total (front ++ back) =
      (readDigits limit total front).bind (fun read => readDigits limit read back) := by
  induction front generalizing total with
  | nil => rfl
  | cons c rest ih =>
    rw [List.cons_append, readDigits, readDigits]
    cases digit? c with
    | none => rfl
    | some digit =>
      by_cases large : limit < total * 10 + digit
      · simp only [if_pos large]
        rfl
      · simp only [if_neg large]
        exact ih (total * 10 + digit)

theorem readDigits_digitChar {limit total digit : Nat} (small : digit < 10)
    (bound : total * 10 + digit ≤ limit) :
    readDigits limit total [digitChar digit] = .ok (total * 10 + digit) := by
  simp only [readDigits, digit?_digitChar small, if_neg (Nat.not_lt.mpr bound)]

theorem readDigits_natural {limit n : Nat} (bound : n ≤ limit) :
    readDigits limit 0 (natural n) = .ok n := by
  induction n using natural.induct with
  | case1 n small =>
    rw [natural_of_lt small, readDigits_digitChar small (by omega)]
    simp
  | case2 n large ih =>
    have digit : n % 10 < 10 := Nat.mod_lt n (by decide)
    have whole : n / 10 * 10 + n % 10 = n := Nat.div_add_mod' n 10
    rw [natural_of_le (Nat.le_of_not_lt large), readDigits_append, ih (by omega)]
    change readDigits limit (n / 10) _ = _
    rw [readDigits_digitChar digit (by omega), whole]

theorem readMagnitude_natural {limit n : Nat} (bound : n ≤ limit) :
    readMagnitude limit (natural n) = .ok n := by
  rw [← readDigits_natural bound]
  cases written : natural n with
  | nil => exact absurd written (natural_ne_nil n)
  | cons c rest => rfl

theorem readInt_natural (kind : IntegerKind) (n : Nat) :
    readInt kind (natural n) = (readMagnitude kind.greatest.toNat (natural n)).map Int.ofNat := by
  unfold readInt
  split
  next digits signed =>
    have digit := isDigit_of_mem_natural '+' (by rw [signed]; exact List.mem_cons_self)
    exact absurd digit (by decide)
  next digits signed =>
    have digit := isDigit_of_mem_natural '-' (by rw [signed]; exact List.mem_cons_self)
    exact absurd digit (by decide)
  next => rfl

variable {kind : IntegerKind}

theorem readInt_text (n : Bounded kind) : readInt kind n.text = .ok n.toInt := by
  have low := n.least_le
  have high := n.le_greatest
  unfold Bounded.text integer
  split_ifs with negative
  · have signed : kind.signed = true := by
      by_contra unsigned
      rw [IntegerKind.least, if_neg unsigned] at low
      omega
    have magnitude : readMagnitude kind.least.natAbs (natural n.toInt.natAbs) = .ok n.toInt.natAbs :=
      readMagnitude_natural (by omega)
    rw [readInt, if_pos signed, magnitude]
    have value : Int.negOfNat n.toInt.natAbs = n.toInt := by
      rw [Int.negOfNat_eq, Int.ofNat_eq_natCast]
      omega
    exact congrArg Except.ok value
  · rw [readInt_natural, readMagnitude_natural (by omega)]
    have value : Int.ofNat n.toInt.natAbs = n.toInt := Int.natAbs_of_nonneg (by omega)
    exact congrArg Except.ok value

theorem Bounded.read_eq_ok {chars : List Char} {n : Bounded kind} :
    Bounded.read kind chars = .ok n ↔ readInt kind chars = .ok n.toInt := by
  unfold Bounded.read
  split
  next fault failed => simp [failed]
  next found read =>
    constructor
    · intro given
      rw [read, ← Except.ok.inj given]
    · intro given
      obtain rfl := Except.ok.inj (read.symm.trans given)
      rfl

theorem Bounded.read_eq_error {chars : List Char} {fault : NumeralFault} :
    Bounded.read kind chars = .error fault ↔ readInt kind chars = .error fault := by
  unfold Bounded.read
  split
  next found failed => rw [failed, Except.error.injEq, Except.error.injEq]
  next found read => simp [read]

theorem Bounded.read_text (n : Bounded kind) : Bounded.read kind n.text = .ok n :=
  Bounded.read_eq_ok.mpr (readInt_text n)

end GameSheet.Number
