import GameSheet.Proofs.Text.Utf8
import GameSheet.Schema.Basic

/-!
The bytes that a fingerprint is taken of. Nothing is escaped in them: they determine names and
keywords as long as no name holds the unit separator and no keyword the record separator, and the
names that code is generated from hold neither.
-/

namespace GameSheet

namespace Fingerprint

def Separable (fields : List (String × String)) : Prop :=
  ∀ field ∈ fields, '\x1f' ∉ field.1.toList ∧ '\x1e' ∉ field.2.toList

/-- What stands in front of the first of two equal marks is the same. -/
theorem append_cons_inj {α : Type} {mark : α} {front other back later : List α}
    (plain : mark ∉ front) (bare : mark ∉ other)
    (same : front ++ mark :: back = other ++ mark :: later) : front = other ∧ back = later := by
  induction front generalizing other with
  | nil =>
    cases other with
    | nil => exact ⟨rfl, (List.cons.inj same).2⟩
    | cons first rest =>
      rw [(List.cons.inj same).1] at bare
      exact absurd List.mem_cons_self bare
  | cons first rest ih =>
    cases other with
    | nil =>
      rw [(List.cons.inj same).1] at plain
      exact absurd List.mem_cons_self plain
    | cons head tail =>
      obtain ⟨rfl, behind⟩ := List.cons.inj same
      obtain ⟨rfl, rest⟩ := ih (List.not_mem_of_not_mem_cons plain)
        (List.not_mem_of_not_mem_cons bare) behind
      exact ⟨rfl, rest⟩

theorem preimage_cons (name keyword : String) (fields : List (String × String)) :
    preimage ((name, keyword) :: fields) = Text.Utf8.encode name.toList ++ unitSeparator ::
      (Text.Utf8.encode keyword.toList ++ recordSeparator :: preimage fields) := by
  unfold preimage
  rw [List.flatMap_cons]
  simp only [List.append_assoc, List.cons_append, List.nil_append]

theorem text_inj {mark : Char} {text other : String} {back later : List UInt8}
    (ascii : mark.toNat < 0x80) (plain : mark ∉ text.toList) (bare : mark ∉ other.toList)
    (same : Text.Utf8.encode text.toList ++ UInt8.ofNat mark.toNat :: back =
      Text.Utf8.encode other.toList ++ UInt8.ofNat mark.toNat :: later) :
    text = other ∧ back = later := by
  obtain ⟨encoded, rest⟩ := append_cons_inj (Text.Utf8.not_mem_encode ascii plain)
    (Text.Utf8.not_mem_encode ascii bare) same
  exact ⟨String.toList_inj.mp (Text.Utf8.encode_injective encoded), rest⟩

/-- Separable fields are determined by the bytes that are digested. -/
theorem preimage_inj {fields others : List (String × String)} (plain : Separable fields)
    (bare : Separable others) : preimage fields = preimage others ↔ fields = others := by
  constructor
  · intro same
    -- The two separators of the first field are found in turn, and what is behind them is shorter.
    induction fields generalizing others with
    | nil =>
      cases others with
      | nil => rfl
      | cons other others =>
        rw [preimage_cons] at same
        simp [preimage] at same
    | cons field fields ih =>
      cases others with
      | nil =>
        rw [preimage_cons] at same
        simp [preimage] at same
      | cons other others =>
        obtain ⟨headPlain, tailPlain⟩ := List.forall_mem_cons.mp plain
        obtain ⟨headBare, tailBare⟩ := List.forall_mem_cons.mp bare
        rw [preimage_cons, preimage_cons] at same
        obtain ⟨name, rest⟩ := text_inj (by decide) headPlain.1 headBare.1 same
        obtain ⟨keyword, rest⟩ := text_inj (by decide) headPlain.2 headBare.2 rest
        rw [ih tailPlain tailBare rest, Prod.ext name keyword]
  · intro same
    rw [same]

def PlainKeyword (keyword : String) : Prop :=
  unitSeparator ∉ Text.Utf8.encode keyword.toList ∧
    recordSeparator ∉ Text.Utf8.encode keyword.toList

instance (keyword : String) : Decidable (PlainKeyword keyword) :=
  inferInstanceAs (Decidable (_ ∧ _))

end Fingerprint

end GameSheet
