import GameSheet.Codec.Registry
import GameSheet.Proofs.Codec.Laws

/-!
What a registry holds. A codec that was put in comes to stand under its keywords and no others come
in, so a registry reads back what it writes as long as each codec that was registered does.
-/

namespace GameSheet.TypeRegistry

variable {registry registered : TypeRegistry} {keywords : List String} {key : String}
  {codec added : Codec}

theorem mem_assign {codecs : List (String × Codec)} {keyword : String}
    (member : (key, codec) ∈ assign codecs keyword added) :
    (key, codec) ∈ codecs ∨ codec = added := by
  rcases List.mem_append.mp member with kept | last
  · exact Or.inl (List.mem_of_mem_filter kept)
  · right
    rw [List.mem_singleton] at last
    exact (Prod.mk.inj last).2

theorem insert_cons (registry : TypeRegistry) (keyword : String) (keywords : List String)
    (codec : Codec) : registry.insert (keyword :: keywords) codec =
      (registry.put codec keyword).insert keywords codec := rfl

theorem mem_insert (member : (key, codec) ∈ (registry.insert keywords added).codecs) :
    (key, codec) ∈ registry.codecs ∨ codec = added := by
  induction keywords generalizing registry with
  | nil => exact Or.inl member
  | cons keyword keywords ih =>
    rw [insert_cons] at member
    rcases ih member with earlier | new
    · exact mem_assign earlier
    · exact Or.inr new

theorem mem_foldl_insert {types : List ColumnType}
    (member : (key, codec) ∈ (types.foldl (fun registry type =>
      registry.insert (type.keyword :: type.aliases) type.codec) registry).codecs) :
    (key, codec) ∈ registry.codecs ∨ ∃ type : ColumnType, codec = type.codec := by
  induction types generalizing registry with
  | nil => exact Or.inl member
  | cons type types ih =>
    rcases ih member with earlier | known
    · rcases mem_insert earlier with before | new
      · exact Or.inl before
      · exact Or.inr ⟨type, new⟩
    · exact Or.inr known

theorem mem_of_resolve (found : registry.resolve key = .ok codec) :
    (normalKeyword key, codec) ∈ registry.codecs := by
  unfold resolve at found
  split at found
  next known present =>
    obtain ⟨front, back, split, _⟩ := List.lookup_eq_some_iff.mp present
    rw [← Except.ok.inj found, split]
    simp
  next => simp at found

theorem standard_codecs (member : (key, codec) ∈ standard.codecs) :
    ∃ type : ColumnType, codec = type.codec := by
  rcases mem_foldl_insert member with before | known
  · exact absurd before List.not_mem_nil
  · exact known

def Lawful (registry : TypeRegistry) : Prop :=
  ∀ key codec, (key, codec) ∈ registry.codecs → codec.ReadsBack

theorem standard_lawful : standard.Lawful := by
  intro key codec member
  obtain ⟨type, rfl⟩ := standard_codecs member
  exact type.codec_faithful.readsBack

theorem Lawful.insert (lawful : registry.Lawful) (reads : added.ReadsBack) :
    (registry.insert keywords added).Lawful := by
  intro key codec member
  rcases mem_insert member with before | rfl
  · exact lawful key codec before
  · exact reads

/-- A call that fails gives back the registry that it was made on. -/
theorem run_register (registry : TypeRegistry) (keywords : List String) (codec : Codec) :
    (register keywords codec).run registry =
      match keywords.find? (fun keyword => normalKeyword keyword = "id") with
      | some reserved => .error (.reservedKeyword reserved) registry
      | none => .ok () (registry.insert keywords codec) := by
  unfold register
  cases keywords.find? (fun keyword => normalKeyword keyword = "id") <;> rfl

theorem Lawful.register (lawful : registry.Lawful) (reads : added.ReadsBack)
    (done : (register keywords added).run registry = .ok () registered) : registered.Lawful := by
  rw [run_register] at done
  split at done
  next => cases done
  next =>
    obtain rfl := (EStateM.Result.ok.inj done).2
    exact lawful.insert reads

end GameSheet.TypeRegistry
