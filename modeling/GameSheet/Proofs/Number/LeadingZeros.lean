import GameSheet.Proofs.Number.Grammar

/-!
Numerals without leading zeros. A number has many runs of digits but only one that has no zero in
front of other digits, and that is the one it is written with.
-/

namespace GameSheet.Number

variable {digits : List Char}

def Shortest (digits : List Char) : Prop := digits.head? = some '0' → digits = ['0']

theorem digitChar_of_isDigit {c : Char} (digit : c.isDigit = true) :
    c.toNat - '0'.toNat < 10 ∧ Nat.digitChar (c.toNat - '0'.toNat) = c := by
  have bounds := Text.isDigit_iff_toNat.mp digit
  have each : ∀ n ∈ List.range' 48 10, n - '0'.toNat < 10 ∧
      Nat.digitChar (n - '0'.toNat) = Char.ofNat n := by decide
  have known := each c.toNat (by rw [List.mem_range'_1]; omega)
  rwa [Char.ofNat_toNat] at known

theorem eq_zero_of_head?_toDigits {n : Nat} (zero : (Nat.toDigits 10 n).head? = some '0') :
    n = 0 := by
  induction n using Nat.strongRecOn with
  | ind n ih =>
    by_cases small : n < 10
    · have each : ∀ n < 10, Nat.digitChar n = '0' → n = 0 := by decide
      rw [Nat.toDigits_of_lt_base small] at zero
      exact each n small (Option.some.inj zero)
    · rw [Nat.toDigits_of_base_le (by decide) (Nat.le_of_not_lt small),
        List.head?_append_of_ne_nil _ Nat.toDigits_ne_nil] at zero
      have front := ih (n / 10) (by omega) zero
      omega

theorem digits_toDigits (n : Nat) : Digits (Nat.toDigits 10 n) :=
  ⟨Nat.toDigits_ne_nil, fun _ member => Nat.isDigit_of_mem_toDigits (by decide) (by decide) member⟩

theorem shortest_toDigits (n : Nat) : Shortest (Nat.toDigits 10 n) := by
  intro zero
  rw [eq_zero_of_head?_toDigits zero]
  rfl

/-- A run of digits without leading zeros is the one that its number is written with. -/
theorem toDigits_of_shortest (run : Digits digits) (shortest : Shortest digits) :
    Nat.toDigits 10 (Nat.ofDigitChars 10 digits 0) = digits := by
  induction digits using List.reverseRecOn with
  | nil => exact absurd rfl run.nonempty
  | append_singleton front c ih =>
    obtain ⟨small, written⟩ := digitChar_of_isDigit (run.each c List.mem_concat_self)
    rw [Nat.ofDigitChars_append, Nat.ofDigitChars_cons, Nat.ofDigitChars_nil]
    by_cases alone : front = []
    · subst alone
      rw [Nat.ofDigitChars_nil, Nat.mul_zero, Nat.zero_add, Nat.toDigits_of_lt_base small, written]
      rfl
    · have begins : front.head? ≠ some '0' := by
        intro zero
        have whole := shortest (by rwa [List.head?_append_of_ne_nil _ alone])
        exact alone (List.append_eq_singleton_iff.mp whole |>.resolve_right (by simp) |>.1)
      have earlier := ih ⟨alone, fun d member => run.each d (List.mem_append_left _ member)⟩
        (fun zero => absurd zero begins)
      have positive : Nat.ofDigitChars 10 front 0 ≠ 0 := by
        intro none
        rw [none] at earlier
        exact begins (by rw [← earlier]; rfl)
      rw [Nat.toDigits_of_base_le (by decide) (by omega)]
      have quotient : (10 * Nat.ofDigitChars 10 front 0 + (c.toNat - '0'.toNat)) / 10 =
          Nat.ofDigitChars 10 front 0 := by omega
      have remainder : (10 * Nat.ofDigitChars 10 front 0 + (c.toNat - '0'.toNat)) % 10 =
          c.toNat - '0'.toNat := by omega
      rw [quotient, remainder, earlier, written]

end GameSheet.Number
