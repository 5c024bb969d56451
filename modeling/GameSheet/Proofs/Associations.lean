import Mathlib

/-!
Lists of keys and values, in which the first entry of a key is the one that is found.
-/

namespace GameSheet.Association

variable {κ ν : Type} [DecidableEq κ] {entries : List (κ × ν)} {key : κ}

theorem lookup_cons (other : κ) (value : ν) (rest : List (κ × ν)) (key : κ) :
    ((other, value) :: rest).lookup key = if key = other then some value else rest.lookup key := by
  rw [List.lookup_cons]
  by_cases same : key = other
  · rw [if_pos same, beq_iff_eq.mpr same]
  · rw [if_neg same, beq_eq_false_iff_ne.mpr same]

theorem lookup_eq_none : entries.lookup key = none ↔ key ∉ entries.map Prod.fst := by
  rw [List.lookup_eq_none_iff, List.mem_map]
  constructor
  · intro each given
    rcases given with ⟨entry, member, rfl⟩
    simpa using each entry member
  · intro absent entry member
    rw [bne_iff_ne]
    intro same
    exact absent ⟨entry, member, same.symm⟩

/-- Where each key stands once, a key finds what stands with it. -/
theorem lookup_eq_some_iff {value : ν} (distinct : (entries.map Prod.fst).Nodup) :
    entries.lookup key = some value ↔ (key, value) ∈ entries := by
  induction entries with
  | nil => simp
  | cons entry rest ih =>
    obtain ⟨first, stored⟩ := entry
    obtain ⟨absent, later⟩ := List.nodup_cons.mp distinct
    rw [lookup_cons, List.mem_cons, Prod.mk.injEq]
    by_cases same : key = first
    · subst same
      have alone : (key, value) ∉ rest := fun member =>
        absent (List.mem_map.mpr ⟨(key, value), member, rfl⟩)
      simp [alone, eq_comm]
    · simp [same, ih later]

theorem lookup_of_perm {other : List (κ × ν)} (reordered : entries.Perm other)
    (distinct : (entries.map Prod.fst).Nodup) (key : κ) : other.lookup key = entries.lookup key := by
  have again := (reordered.map Prod.fst).nodup_iff.mp distinct
  apply Option.ext
  intro value
  rw [lookup_eq_some_iff again, lookup_eq_some_iff distinct, reordered.mem_iff]

theorem lookup_filter_ne (entries : List (κ × ν)) (other key : κ) :
    (entries.filter (fun entry => entry.1 ≠ other)).lookup key =
      if key = other then none else entries.lookup key := by
  induction entries with
  | nil => exact (ite_self none).symm
  | cons entry rest ih =>
    obtain ⟨first, value⟩ := entry
    by_cases dropped : first = other
    · subst dropped
      rw [List.filter_cons_of_neg (by simp), ih, lookup_cons]
      split_ifs <;> rfl
    · rw [List.filter_cons_of_pos (by simpa using dropped), lookup_cons, lookup_cons, ih]
      split_ifs with found same
      · exact absurd (found.symm.trans same) dropped
      all_goals rfl

end GameSheet.Association
