import GameSheet.Table.OrderedMap
import Mathlib

/-!
Maps in ascending order of their keys. Looking up after an insertion finds the new value under its
key and under any other key what was there; insertions keep the order, so every key stands once.
-/

namespace GameSheet.OrderedMap

variable {κ ν : Type}

theorem length_keys (map : OrderedMap κ ν) : map.keys.length = map.size := List.length_map _

variable [Ord κ] {map : OrderedMap κ ν} {key other : κ} {value : ν}

def Ascending (map : OrderedMap κ ν) : Prop :=
  map.keys.Pairwise (fun first second => compare first second = .lt)

theorem ascending_empty : (empty : OrderedMap κ ν).Ascending := List.Pairwise.nil

variable [Std.LawfulEqOrd κ]

theorem compare_ne_lt (key : κ) : compare key key ≠ .lt := by
  rw [Std.ReflOrd.compare_self]
  decide

theorem Ascending.nodup (ascending : map.Ascending) : map.keys.Nodup := by
  apply List.Pairwise.imp _ ascending
  rintro first second before rfl
  exact compare_ne_lt first before

theorem place_keys {entries : List (κ × ν)} :
    other ∈ (place key value entries).map Prod.fst ↔
      other = key ∨ other ∈ entries.map Prod.fst := by
  induction entries with
  | nil => simp [place]
  | cons entry rest ih =>
    obtain ⟨first, kept⟩ := entry
    rw [place]
    split
    · simp
    next same =>
      rw [Std.LawfulEqCmp.eq_of_compare same]
      simp
    · simp only [List.map_cons, List.mem_cons, ih]
      tauto

theorem mem_keys_insert : other ∈ (map.insert key value).keys ↔ other = key ∨ other ∈ map.keys :=
  place_keys

theorem Ascending.insert [Std.TransOrd κ] (ascending : map.Ascending) (key : κ) (value : ν) :
    (map.insert key value).Ascending := by
  obtain ⟨entries⟩ := map
  unfold Ascending keys at ascending ⊢
  rw [OrderedMap.insert]
  induction entries with
  | nil => exact List.pairwise_singleton _ _
  | cons entry rest ih =>
    obtain ⟨first, kept⟩ := entry
    obtain ⟨least, ordered⟩ := List.pairwise_cons.mp ascending
    simp only [place]
    split
    next below =>
      refine List.pairwise_cons.mpr ⟨List.forall_mem_cons.mpr ⟨below, fun other member => ?_⟩, ascending⟩
      exact Std.TransCmp.lt_trans below (least other member)
    next same =>
      rw [← Std.LawfulEqCmp.eq_of_compare same] at least
      exact List.pairwise_cons.mpr ⟨least, ordered⟩
    next above =>
      refine List.pairwise_cons.mpr ⟨fun other member => ?_, ih ordered⟩
      rcases place_keys.mp member with rfl | inside
      · exact Std.OrientedCmp.gt_iff_lt.mp above
      · exact least other inside

variable [DecidableEq κ]

theorem get?_cons (key : κ) (value : ν) (rest : List (κ × ν)) (other : κ) :
    (⟨(key, value) :: rest⟩ : OrderedMap κ ν).get? other =
      if other = key then some value else (⟨rest⟩ : OrderedMap κ ν).get? other := by
  rw [get?, List.find?_cons]
  by_cases same : other = key
  · subst same
    rw [Std.ReflOrd.compare_self, if_pos rfl]
    rfl
  · have different : (compare other key == .eq) = false := by simpa using same
    rw [different, if_neg same]
    rfl

theorem get?_insert (map : OrderedMap κ ν) (key : κ) (value : ν) (other : κ) :
    (map.insert key value).get? other = if other = key then some value else map.get? other := by
  obtain ⟨entries⟩ := map
  rw [insert]
  induction entries with
  | nil => exact get?_cons key value [] other
  | cons entry rest ih =>
    obtain ⟨first, kept⟩ := entry
    simp only [place]
    split
    · exact get?_cons key value _ other
    next same =>
      obtain rfl := Std.LawfulEqCmp.eq_of_compare same
      simp only [get?_cons]
      split_ifs <;> rfl
    next above =>
      -- The key of the first entry is another one.
      have different : key ≠ first := by
        rintro rfl
        rw [Std.ReflOrd.compare_self] at above
        cases above
      simp only [get?_cons, ih]
      split_ifs with here there
      · exact absurd (there.symm.trans here) different
      all_goals rfl

theorem mem_keys : key ∈ map.keys ↔ ∃ value, map.get? key = some value := by
  obtain ⟨entries⟩ := map
  induction entries with
  | nil => simp [keys, get?]
  | cons entry rest ih =>
    obtain ⟨first, kept⟩ := entry
    have later : key ∈ rest.map Prod.fst ↔ _ := ih
    simp only [keys, List.map_cons, List.mem_cons, later, get?_cons]
    by_cases same : key = first
    · simp [same]
    · simp [same]

theorem contains_iff : map.contains key = true ↔ key ∈ map.keys := by
  rw [contains, Option.isSome_iff_exists, mem_keys]

theorem get?_eq_none : map.get? key = none ↔ key ∉ map.keys := by
  rw [mem_keys, Option.eq_none_iff_forall_ne_some, not_exists]

theorem Ascending.size_insert [Std.TransOrd κ] (ascending : map.Ascending) (key : κ) (value : ν) :
    (map.insert key value).size = if key ∈ map.keys then map.size else map.size + 1 := by
  have keys : (map.insert key value).keys.toFinset = Insert.insert key map.keys.toFinset := by
    ext other
    rw [List.mem_toFinset, mem_keys_insert, Finset.mem_insert, List.mem_toFinset]
  rw [← length_keys, ← length_keys,
    ← List.toFinset_card_of_nodup (ascending.insert key value).nodup,
    ← List.toFinset_card_of_nodup ascending.nodup, keys, Finset.card_insert_eq_ite]
  simp only [List.mem_toFinset]

theorem Ascending.mem_entries (ascending : map.Ascending) :
    (key, value) ∈ map.entries ↔ map.get? key = some value := by
  obtain ⟨entries⟩ := map
  unfold Ascending keys at ascending
  induction entries with
  | nil => simp [get?]
  | cons entry rest ih =>
    obtain ⟨first, kept⟩ := entry
    obtain ⟨least, ordered⟩ := List.pairwise_cons.mp ascending
    have later : (key, value) ∈ rest ↔ _ := ih ordered
    rw [List.mem_cons, later, get?_cons]
    by_cases same : key = first
    · subst same
      have absent : (⟨rest⟩ : OrderedMap κ ν).get? key ≠ some value := by
        intro found
        exact compare_ne_lt key (least key (mem_keys.mpr ⟨value, found⟩))
      simp [absent, eq_comm]
    · simp [same]

theorem Ascending.map_get? (ascending : map.Ascending) :
    map.keys.map map.get? = map.values.map some := by
  rw [keys, values, List.map_map, List.map_map]
  apply List.map_congr_left
  intro entry member
  exact ascending.mem_entries.mp member

end GameSheet.OrderedMap
