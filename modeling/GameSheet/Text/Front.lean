/-!
Text behind a front: a text has a rest behind a front exactly when it is the front and then that rest.
-/

namespace GameSheet.Text

/-- The rest of a text that begins with the front. -/
def behind? : List Char → List Char → Option (List Char)
  | [], text => some text
  | _ :: _, [] => none
  | c :: front, d :: text => if c = d then behind? front text else none

theorem behind?_eq_some_iff {front text rest : List Char} :
    behind? front text = some rest ↔ text = front ++ rest := by
  induction front generalizing text with
  | nil => simp [behind?]
  | cons c front ih =>
    cases text with
    | nil => simp [behind?]
    | cons d text =>
      by_cases h : c = d
      · simp [behind?, h, ih]
      · simp [behind?, h, Ne.symm h]

theorem behind?_eq_none_iff {front text : List Char} :
    behind? front text = none ↔ ¬front <+: text := by
  rw [← Decidable.not_iff_not, Decidable.not_not, ← ne_eq, Option.ne_none_iff_exists']
  constructor
  · intro found
    obtain ⟨rest, behind⟩ := found
    exact ⟨rest, (behind?_eq_some_iff.mp behind).symm⟩
  · intro begins
    obtain ⟨rest, joined⟩ := begins
    exact ⟨rest, behind?_eq_some_iff.mpr joined.symm⟩

end GameSheet.Text
