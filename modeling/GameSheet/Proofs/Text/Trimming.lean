import GameSheet.Text.Blank
import Mathlib

/-!
Trimmed text: its first and its last character stay. What is left of a text is trimmed, a text that
is trimmed is left as it is, and so it is found among any characters that are dropped around it.
-/

namespace GameSheet.Text

variable {drop : Char → Bool} {chars : List Char}

structure Trimmed (drop : Char → Bool) (chars : List Char) : Prop where
  first : ∀ c ∈ chars.head?, drop c = false
  last : ∀ c ∈ chars.getLast?, drop c = false

theorem head?_dropWhile (drop : Char → Bool) (chars : List Char) :
    ∀ c ∈ (chars.dropWhile drop).head?, drop c = false := by
  intro c first
  have kept := List.head?_dropWhile_not drop chars
  rwa [Option.mem_def.mp first] at kept

theorem dropWhile_eq_self (first : ∀ c ∈ chars.head?, drop c = false) :
    chars.dropWhile drop = chars := by
  cases chars with
  | nil => rfl
  | cons c rest => exact List.dropWhile_cons_of_neg (by simp [first c rfl])

theorem head?_dropEnd (first : ∀ c ∈ chars.head?, drop c = false) :
    ∀ c ∈ (dropEnd drop chars).head?, drop c = false := by
  obtain ⟨rest, joined⟩ : dropEnd drop chars <+: chars := List.rdropWhile_prefix drop chars
  intro c found
  apply first c
  rw [← joined, List.head?_append, Option.mem_def.mp found, Option.some_or]
  rfl

theorem trimmed_trimEnds (drop : Char → Bool) (chars : List Char) :
    Trimmed drop (trimEnds drop chars) where
  first := head?_dropEnd (head?_dropWhile drop chars)
  last := by
    intro c found
    rw [trimEnds, dropEnd, List.getLast?_reverse] at found
    exact head?_dropWhile drop _ c found

theorem trimEnds_of_trimmed (trimmed : Trimmed drop chars) : trimEnds drop chars = chars := by
  rw [trimEnds, dropWhile_eq_self trimmed.first, dropEnd, dropWhile_eq_self, List.reverse_reverse]
  rw [List.head?_reverse]
  exact trimmed.last

theorem trimEnds_of_forall (kept : ∀ c ∈ chars, drop c = false) : trimEnds drop chars = chars :=
  trimEnds_of_trimmed
    ⟨fun c found => kept c (List.mem_of_head? found), fun c found => kept c (List.mem_of_getLast? found)⟩

def Padded (pad : Char → Prop) (core chars : List Char) : Prop :=
  ∃ front back, (∀ c ∈ front, pad c) ∧ (∀ c ∈ back, pad c) ∧ chars = front ++ core ++ back

theorem padded_trimEnds (drop : Char → Bool) (chars : List Char) :
    Padded (drop · = true) (trimEnds drop chars) chars := by
  have kept : chars.dropWhile drop =
      trimEnds drop chars ++ ((chars.dropWhile drop).reverse.takeWhile drop).reverse := by
    rw [trimEnds, dropEnd, ← List.reverse_append, List.takeWhile_append_dropWhile, List.reverse_reverse]
  refine ⟨chars.takeWhile drop, ((chars.dropWhile drop).reverse.takeWhile drop).reverse, ?_, ?_, ?_⟩
  · intro c member
    exact List.mem_takeWhile_imp member
  · intro c member
    exact List.mem_takeWhile_imp (List.mem_reverse.mp member)
  · rw [List.append_assoc, ← kept, List.takeWhile_append_dropWhile]

theorem trimEnds_of_padded {core : List Char} (trimmed : Trimmed drop core)
    (padded : Padded (drop · = true) core chars) : trimEnds drop chars = core := by
  obtain ⟨front, back, before, behind, rfl⟩ := padded
  rw [trimEnds, List.append_assoc, List.dropWhile_append_of_pos before]
  cases core with
  | nil =>
    rw [List.nil_append, List.dropWhile_eq_nil_iff.mpr behind]
    rfl
  | cons c rest =>
    have stays : ∀ first ∈ (c :: rest ++ back).head?, drop first = false := trimmed.first
    have last : (c :: rest).reverse.dropWhile drop = (c :: rest).reverse := by
      apply dropWhile_eq_self
      rw [List.head?_reverse]
      exact trimmed.last
    rw [dropWhile_eq_self stays, dropEnd, List.reverse_append,
      List.dropWhile_append_of_pos (fun c member => behind c (List.mem_reverse.mp member)), last,
      List.reverse_reverse]

theorem Trimmed.map (trimmed : Trimmed drop chars) {f : Char → Char}
    (alike : ∀ c, drop (f c) = drop c) : Trimmed drop (chars.map f) where
  first := by
    intro c found
    rw [List.head?_map] at found
    obtain ⟨origin, stood, rfl⟩ := Option.map_eq_some_iff.mp found
    rw [alike]
    exact trimmed.first origin stood
  last := by
    intro c found
    rw [List.getLast?_map] at found
    obtain ⟨origin, stood, rfl⟩ := Option.map_eq_some_iff.mp found
    rw [alike]
    exact trimmed.last origin stood

theorem isBlank_of_visible {c : Char} (low : 0x21 ≤ c.toNat) (high : c.toNat ≤ 0x7E) :
    isBlank c = false := by
  simp only [isBlank, Bool.or_eq_false_iff, Bool.and_eq_false_iff, beq_eq_false_iff_ne,
    decide_eq_false_iff_not]
  omega

theorem trimEnds_length_le (drop : Char → Bool) (chars : List Char) :
    (trimEnds drop chars).length ≤ (chars.dropWhile drop).length :=
  (List.rdropWhile_prefix drop (chars.dropWhile drop)).length_le

end GameSheet.Text
