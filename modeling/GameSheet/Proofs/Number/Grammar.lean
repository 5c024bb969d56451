import GameSheet.Proofs.Number.Numerals
import GameSheet.Proofs.Traversal

/-!
Which texts are numerals. A numeral is a run of digits, at least one, that may have a sign in front;
only the signed kinds know the minus sign. A kind reads the numerals of its members and nothing else.
Reading stops at the first digit that leaves the range, so a text is an overflow as soon as it begins
with a numeral outside the range, whether or not the whole of it is a numeral.
-/

namespace GameSheet.Text

theorem isDigit_iff_toNat {c : Char} : c.isDigit = true ↔ 48 ≤ c.toNat ∧ c.toNat ≤ 57 := by
  simp only [Char.isDigit, Bool.and_eq_true, decide_eq_true_eq]
  exact Iff.rfl

theorem digit?_of_isDigit {c : Char} (digit : c.isDigit = true) :
    digit? c = some (c.toNat - '0'.toNat) :=
  if_pos (isDigit_iff_toNat.mp digit)

theorem digit?_of_not_isDigit {c : Char} (other : ¬c.isDigit = true) : digit? c = none :=
  if_neg (fun inside => other (isDigit_iff_toNat.mpr inside))

theorem le_ofDigitChars (digits : List Char) (total : Nat) :
    total ≤ Nat.ofDigitChars 10 digits total := by
  induction digits generalizing total with
  | nil => exact le_rfl
  | cons c rest ih =>
    rw [Nat.ofDigitChars_cons]
    have step := ih (10 * total + (c.toNat - '0'.toNat))
    omega

end GameSheet.Text

namespace GameSheet.Number

open Text

structure Digits (chars : List Char) : Prop where
  nonempty : chars ≠ []
  each : ∀ c ∈ chars, c.isDigit = true

inductive Sign where
  | none
  | plus
  | minus
  deriving DecidableEq

namespace Sign

def chars : Sign → List Char
  | none => []
  | plus => ['+']
  | minus => ['-']

def apply : Sign → Nat → Int
  | none, magnitude => magnitude
  | plus, magnitude => magnitude
  | minus, magnitude => -magnitude

def split : List Char → Sign × List Char
  | '+' :: rest => (plus, rest)
  | '-' :: rest => (minus, rest)
  | rest => (none, rest)

theorem chars_split (chars : List Char) : (split chars).1.chars ++ (split chars).2 = chars := by
  unfold split
  split <;> rfl

theorem split_of_unsigned {chars : List Char} (plus : ∀ rest, chars ≠ '+' :: rest)
    (minus : ∀ rest, chars ≠ '-' :: rest) : split chars = (none, chars) := by
  unfold split
  split
  next rest => exact absurd rfl (plus rest)
  next rest => exact absurd rfl (minus rest)
  next => rfl

theorem split_append (sign : Sign) {rest : List Char} (digit : ∀ c ∈ rest.head?, c.isDigit = true) :
    split (sign.chars ++ rest) = (sign, rest) := by
  cases sign with
  | plus => rfl
  | minus => rfl
  | none =>
    apply split_of_unsigned
    · rintro later rfl
      exact absurd (digit '+' rfl) (by decide)
    · rintro later rfl
      exact absurd (digit '-' rfl) (by decide)

end Sign

def Denotes (signed : Bool) (chars : List Char) (n : Int) : Prop :=
  ∃ sign digits, (sign = Sign.minus → signed = true) ∧ Digits digits ∧
    chars = sign.chars ++ digits ∧ n = sign.apply (Nat.ofDigitChars 10 digits 0)

theorem Digits.head (digits : Digits front) {back : List Char} :
    ∀ c ∈ (front ++ back).head?, c.isDigit = true := by
  intro c first
  obtain ⟨d, rest, rfl⟩ := List.exists_cons_of_ne_nil digits.nonempty
  obtain rfl := Option.some.inj first
  exact digits.each d List.mem_cons_self

theorem Denotes.signs_digits {signed : Bool} {chars : List Char} {n : Int}
    (numeral : Denotes signed chars n) : ∀ c ∈ chars, c = '+' ∨ c = '-' ∨ c.isDigit = true := by
  obtain ⟨sign, digits, _, run, rfl, _⟩ := numeral
  intro c member
  rcases List.mem_append.mp member with front | digit
  · cases sign with
    | none => exact absurd front List.not_mem_nil
    | plus => exact Or.inl (List.mem_singleton.mp front)
    | minus => exact Or.inr (Or.inl (List.mem_singleton.mp front))
  · exact Or.inr (Or.inr (run.each c digit))

theorem Denotes.trimmed {signed : Bool} {chars : List Char} {n : Int}
    (numeral : Denotes signed chars n) : Trimmed isBlank chars := by
  have visible : ∀ c ∈ chars, isBlank c = false := by
    intro c member
    rcases numeral.signs_digits c member with rfl | rfl | digit
    · decide
    · decide
    · have bounds := isDigit_iff_toNat.mp digit
      exact isBlank_of_visible (by omega) (by omega)
  exact ⟨fun c first => visible c (List.mem_of_head? first),
    fun c last => visible c (List.mem_of_getLast? last)⟩

section Magnitudes

variable {limit total value : Nat} {digits : List Char}

theorem readDigits_cons_of_isDigit {c : Char} (digit : c.isDigit = true) (rest : List Char) :
    readDigits limit total (c :: rest) =
      if limit < 10 * total + (c.toNat - '0'.toNat) then .error .overflow
      else readDigits limit (10 * total + (c.toNat - '0'.toNat)) rest := by
  rw [readDigits, digit?_of_isDigit digit, Nat.mul_comm total 10]

theorem readDigits_cons_of_not_isDigit {c : Char} (other : ¬c.isDigit = true) (rest : List Char) :
    readDigits limit total (c :: rest) = .error .malformed := by
  rw [readDigits, digit?_of_not_isDigit other]

theorem readDigits_eq_ok (bounded : total ≤ limit) : readDigits limit total digits = .ok value ↔
    (∀ c ∈ digits, c.isDigit = true) ∧ Nat.ofDigitChars 10 digits total = value ∧ value ≤ limit := by
  induction digits generalizing total with
  | nil =>
    rw [readDigits, Except.ok.injEq, Nat.ofDigitChars_nil]
    constructor
    · rintro rfl
      exact ⟨List.forall_mem_nil _, rfl, bounded⟩
    · intro given
      exact given.2.1
  | cons c rest ih =>
    rw [List.forall_mem_cons, Nat.ofDigitChars_cons]
    by_cases digit : c.isDigit = true
    · rw [readDigits_cons_of_isDigit digit]
      by_cases large : limit < 10 * total + (c.toNat - '0'.toNat)
      · rw [if_pos large]
        refine iff_of_false (by simp) ?_
        rintro ⟨_, rfl, small⟩
        have grown := le_ofDigitChars rest (10 * total + (c.toNat - '0'.toNat))
        omega
      · rw [if_neg large, ih (Nat.le_of_not_lt large), and_iff_right digit]
    · rw [readDigits_cons_of_not_isDigit digit]
      exact iff_of_false (by simp) (fun given => digit given.1.1)

/-- Digits overflow when the number of some of them, from the first one on, is above the limit. -/
theorem readDigits_eq_overflow (bounded : total ≤ limit) :
    readDigits limit total digits = .error .overflow ↔
      ∃ front, front <+: digits ∧ (∀ c ∈ front, c.isDigit = true) ∧
        limit < Nat.ofDigitChars 10 front total := by
  induction digits generalizing total with
  | nil =>
    refine iff_of_false (by simp [readDigits]) ?_
    rintro ⟨front, begins, _, large⟩
    rw [List.prefix_nil.mp begins, Nat.ofDigitChars_nil] at large
    omega
  | cons c rest ih =>
    -- The part that is too large has a digit, as the total itself is not.
    have first : (∃ front, front <+: c :: rest ∧ (∀ c ∈ front, c.isDigit = true) ∧
        limit < Nat.ofDigitChars 10 front total) ↔
        c.isDigit = true ∧ ∃ front, front <+: rest ∧ (∀ c ∈ front, c.isDigit = true) ∧
          limit < Nat.ofDigitChars 10 front (10 * total + (c.toNat - '0'.toNat)) := by
      constructor
      · rintro ⟨front, begins, each, large⟩
        rcases List.prefix_cons_iff.mp begins with rfl | ⟨more, rfl, later⟩
        · rw [Nat.ofDigitChars_nil] at large
          omega
        · rw [Nat.ofDigitChars_cons] at large
          obtain ⟨digit, each⟩ := List.forall_mem_cons.mp each
          exact ⟨digit, more, later, each, large⟩
      · rintro ⟨digit, front, begins, each, large⟩
        refine ⟨c :: front, (List.prefix_cons_inj c).mpr begins, ?_, ?_⟩
        · exact List.forall_mem_cons.mpr ⟨digit, each⟩
        · rwa [Nat.ofDigitChars_cons]
    rw [first]
    by_cases digit : c.isDigit = true
    · rw [readDigits_cons_of_isDigit digit, and_iff_right digit]
      by_cases large : limit < 10 * total + (c.toNat - '0'.toNat)
      · rw [if_pos large]
        exact iff_of_true rfl ⟨[], List.nil_prefix, List.forall_mem_nil _, large⟩
      · rw [if_neg large, ih (Nat.le_of_not_lt large)]
    · rw [readDigits_cons_of_not_isDigit digit]
      exact iff_of_false (by simp) (fun given => digit given.1)

theorem readMagnitude_eq_readDigits (nonempty : digits ≠ []) :
    readMagnitude limit digits = readDigits limit 0 digits := by
  cases digits with
  | nil => exact absurd rfl nonempty
  | cons c rest => rfl

theorem readMagnitude_eq_ok : readMagnitude limit digits = .ok value ↔
    Digits digits ∧ Nat.ofDigitChars 10 digits 0 = value ∧ value ≤ limit := by
  by_cases empty : digits = []
  · rw [empty]
    exact iff_of_false (by simp [readMagnitude]) (fun given => given.1.nonempty rfl)
  · rw [readMagnitude_eq_readDigits empty, readDigits_eq_ok (Nat.zero_le limit)]
    exact and_congr_left' ⟨fun each => ⟨empty, each⟩, Digits.each⟩

theorem readMagnitude_eq_overflow : readMagnitude limit digits = .error .overflow ↔
    ∃ front, front <+: digits ∧ Digits front ∧ limit < Nat.ofDigitChars 10 front 0 := by
  by_cases empty : digits = []
  · rw [empty]
    refine iff_of_false (by simp [readMagnitude]) ?_
    rintro ⟨front, begins, run, _⟩
    exact run.nonempty (List.prefix_nil.mp begins)
  · rw [readMagnitude_eq_readDigits empty, readDigits_eq_overflow (Nat.zero_le limit)]
    apply exists_congr
    intro front
    refine and_congr_right (fun _ => and_congr_left (fun large => ?_))
    refine ⟨fun each => ⟨?_, each⟩, Digits.each⟩
    rintro rfl
    exact absurd large (Nat.not_lt.mpr (Nat.zero_le limit))

end Magnitudes

variable {kind : IntegerKind}

def IntegerKind.limit (kind : IntegerKind) : Sign → Nat
  | .none | .plus => kind.greatest.toNat
  | .minus => kind.least.natAbs

theorem IntegerKind.le_limit_iff (sign : Sign) {magnitude : Nat} :
    magnitude ≤ kind.limit sign ↔
      kind.least ≤ sign.apply magnitude ∧ sign.apply magnitude ≤ kind.greatest := by
  have ends : kind.least ≤ 0 ∧ 0 ≤ kind.greatest := by cases kind <;> decide
  cases sign <;> simp only [limit, Sign.apply] <;> omega

theorem readInt_eq (kind : IntegerKind) (chars : List Char) : readInt kind chars =
    if ((Sign.split chars).1 = .minus → kind.signed = true) then
      (readMagnitude (kind.limit (Sign.split chars).1) (Sign.split chars).2).map
        (Sign.split chars).1.apply
    else .error .malformed := by
  have negative : Sign.apply .minus = Int.negOfNat := by
    funext magnitude
    rw [Int.negOfNat_eq]
    rfl
  unfold readInt
  split
  next => rfl
  next => cases signed : kind.signed <;> simp [Sign.split, IntegerKind.limit, negative]
  next plus minus =>
    have unsigned : (Sign.none, chars).1 = .minus → kind.signed = true := Sign.noConfusion
    rw [Sign.split_of_unsigned plus minus, if_pos unsigned]
    rfl

theorem readInt_eq_ok {chars : List Char} {n : Int} : readInt kind chars = .ok n ↔
    Denotes kind.signed chars n ∧ kind.least ≤ n ∧ n ≤ kind.greatest := by
  rw [readInt_eq]
  constructor
  · intro read
    split_ifs at read with known
    obtain ⟨value, magnitude, rfl⟩ := map_eq_ok read
    obtain ⟨run, rfl, inside⟩ := readMagnitude_eq_ok.mp magnitude
    exact ⟨⟨_, _, known, run, (Sign.chars_split chars).symm, rfl⟩, (kind.le_limit_iff _).mp inside⟩
  · rintro ⟨⟨sign, digits, known, run, rfl, rfl⟩, inside⟩
    have parted : Sign.split (sign.chars ++ digits) = (sign, digits) := by
      have head : ∀ c ∈ (digits ++ []).head?, c.isDigit = true := run.head
      rw [List.append_nil] at head
      exact Sign.split_append sign head
    have magnitude := readMagnitude_eq_ok.mpr ⟨run, rfl, (kind.le_limit_iff sign).mpr inside⟩
    rw [parted, if_pos known, magnitude]
    rfl

/-- The text begins with a numeral of a number that is no member of the kind. -/
def Overflows (kind : IntegerKind) (chars : List Char) : Prop :=
  ∃ front n, front <+: chars ∧ Denotes kind.signed front n ∧ ¬(kind.least ≤ n ∧ n ≤ kind.greatest)

theorem readInt_eq_overflow {chars : List Char} :
    readInt kind chars = .error .overflow ↔ Overflows kind chars := by
  rw [readInt_eq]
  constructor
  · intro read
    split_ifs at read with known
    · obtain ⟨front, ⟨back, joined⟩, run, large⟩ :=
        readMagnitude_eq_overflow.mp (Traversal.map_eq_error.mp read)
      refine ⟨_, _, ⟨back, ?_⟩, ⟨_, front, known, run, rfl, rfl⟩, ?_⟩
      · rw [List.append_assoc, joined, Sign.chars_split]
      · rw [← kind.le_limit_iff]
        exact Nat.not_le.mpr large
    · cases read
  · rintro ⟨_, _, ⟨back, rfl⟩, ⟨sign, digits, known, run, rfl, rfl⟩, outside⟩
    rw [← kind.le_limit_iff, Nat.not_le] at outside
    have magnitude := readMagnitude_eq_overflow.mpr
      ⟨digits, List.prefix_append digits back, run, outside⟩
    rw [List.append_assoc, Sign.split_append sign run.head, if_pos known, magnitude]
    rfl

/-- A numeral overflows exactly when its own number is no member. -/
theorem Denotes.overflows_iff {chars : List Char} {n : Int} (numeral : Denotes kind.signed chars n) :
    Overflows kind chars ↔ ¬(kind.least ≤ n ∧ n ≤ kind.greatest) := by
  constructor
  · intro overflows inside
    have failed := readInt_eq_overflow.mpr overflows
    rw [readInt_eq_ok.mpr ⟨numeral, inside⟩] at failed
    cases failed
  · intro outside
    exact ⟨chars, n, List.prefix_rfl, numeral, outside⟩

/-- A text that overflows need not be a numeral; where it is one, or where nothing overflows, the
overflows are the numerals of numbers outside the kind. -/
theorem overflows_iff_outside {chars : List Char} :
    (Overflows kind chars ↔
        ∃ n, Denotes kind.signed chars n ∧ ¬(kind.least ≤ n ∧ n ≤ kind.greatest)) ↔
      (∃ n, Denotes kind.signed chars n) ∨ ¬Overflows kind chars := by
  have whole : (∃ n, Denotes kind.signed chars n ∧ ¬(kind.least ≤ n ∧ n ≤ kind.greatest)) →
      Overflows kind chars := by
    rintro ⟨n, numeral, outside⟩
    exact numeral.overflows_iff.mpr outside
  constructor
  · intro classified
    by_cases overflows : Overflows kind chars
    · obtain ⟨n, numeral, _⟩ := classified.mp overflows
      exact Or.inl ⟨n, numeral⟩
    · exact Or.inr overflows
  · rintro (⟨n, numeral⟩ | clear)
    · exact ⟨fun overflows => ⟨n, numeral, numeral.overflows_iff.mp overflows⟩, whole⟩
    · exact iff_of_false clear (fun given => clear (whole given))

end GameSheet.Number
