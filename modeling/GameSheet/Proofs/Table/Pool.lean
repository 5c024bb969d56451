import GameSheet.Proofs.Table.OrderedMap
import GameSheet.Table.StringPool

/-!
What a string pool counts. The counting map has every text that it was given, with the number of times
it was given it; sorting its entries changes none of them, and as no text comes twice the index leads
from each to its place and back. A pool therefore tells of every text how often it stands in the cells
that are counted.
-/

namespace GameSheet.StringPool

variable {text : String} {texts : List String}

/-! The counting map -/

theorem tally_concat (texts : List String) (text : String) :
    tally (texts ++ [text]) = bump (tally texts) text := by
  rw [tally, List.foldl_concat, tally]

theorem ascending_tally (texts : List String) : (tally texts).Ascending := by
  induction texts using List.reverseRecOn with
  | nil => exact OrderedMap.ascending_empty
  | append_singleton texts text ih =>
    rw [tally_concat]
    exact ih.insert _ _

/-- The map has a text that was never counted under no number, not under zero. -/
theorem get?_tally (texts : List String) (text : String) :
    (tally texts).get? text = if text ∈ texts then some (texts.count text) else none := by
  induction texts using List.reverseRecOn with
  | nil => rfl
  | append_singleton texts last ih =>
    rw [tally_concat, bump, OrderedMap.get?_insert]
    by_cases same : text = last
    · subst same
      rw [if_pos rfl, if_pos (by simp), ih, List.count_append, List.count_singleton_self]
      split_ifs with known
      · rfl
      · rw [List.count_eq_zero_of_not_mem known]
        rfl
    · rw [if_neg same, ih, List.count_append, List.count_singleton, beq_false_of_ne (Ne.symm same)]
      simp [same]

theorem mem_keys_tally : text ∈ (tally texts).keys ↔ text ∈ texts := by
  rw [OrderedMap.mem_keys, ← Option.isSome_iff_exists, get?_tally]
  by_cases known : text ∈ texts <;> simp [known]

theorem mem_tally {count : Nat} :
    (text, count) ∈ (tally texts).entries ↔ 0 < count ∧ count = texts.count text := by
  rw [(ascending_tally texts).mem_entries, get?_tally]
  by_cases known : text ∈ texts
  · have positive := List.count_pos_iff.mpr known
    rw [if_pos known, Option.some.injEq]
    omega
  · have zero := List.count_eq_zero_of_not_mem known
    rw [if_neg known]
    simp only [reduceCtorEq, false_iff]
    omega

theorem sum_tally (texts : List String) : ((tally texts).entries.map Prod.snd).sum = texts.length := by
  have counts : (tally texts).entries.map Prod.snd = (tally texts).keys.map texts.count := by
    rw [OrderedMap.keys, List.map_map]
    apply List.map_congr_left
    rintro ⟨text, count⟩ member
    exact (mem_tally.mp member).2
  have keys : (tally texts).keys.toFinset = texts.toFinset := by
    ext text
    rw [List.mem_toFinset, List.mem_toFinset, mem_keys_tally]
  rw [counts, ← List.sum_toFinset _ (ascending_tally texts).nodup, keys,
    List.sum_toFinset_count_eq_length]

/-! The index -/

theorem places_concat (entries : List (String × Nat)) (entry : String × Nat) :
    places (entries ++ [entry]) = (places entries).insert entry.1 entries.length := by
  rw [places, List.zipIdx_append, List.foldl_append, Nat.zero_add]
  rfl

theorem get?_places {entries : List (String × Nat)} (distinct : (entries.map Prod.fst).Nodup)
    {place : Nat} :
    (places entries).get? text = some place ↔ entries[place]?.map Prod.fst = some text := by
  induction entries using List.reverseRecOn generalizing place with
  | nil => simp [places, OrderedMap.get?, OrderedMap.empty]
  | append_singleton entries entry ih =>
    rw [List.map_append, List.map_singleton] at distinct
    have earlier : (places entries).get? text = some place ↔ _ := ih distinct.of_append_left
    rw [places_concat, OrderedMap.get?_insert, List.getElem?_append]
    by_cases same : text = entry.1
    · -- The last entry is the only one with its text.
      have new : text ∉ entries.map Prod.fst := by
        intro member
        exact List.disjoint_of_nodup_append distinct member (by simp [same])
      rw [if_pos same, Option.some.injEq]
      split_ifs with inside
      · have other : entries[place]?.map Prod.fst ≠ some text := by
          intro found
          rw [← List.getElem?_map] at found
          exact new (List.mem_of_getElem? found)
        simp only [other, iff_false]
        omega
      · rw [List.getElem?_singleton]
        split_ifs with last
        · simp only [Option.map_some, same, iff_true]
          omega
        · simp only [Option.map_none, reduceCtorEq, iff_false]
          omega
    · rw [if_neg same, earlier]
      split_ifs with inside
      · rfl
      · rw [List.getElem?_eq_none (not_lt.mp inside), List.getElem?_singleton]
        split_ifs <;> simp [Ne.symm same]

/-! The pool -/

section OfCounts

variable {counts : List (String × Nat)}

theorem ofCounts_perm (counts : List (String × Nat)) : (ofCounts counts).entries.Perm counts :=
  List.mergeSort_perm _ _

theorem indexOf?_ofCounts (distinct : (counts.map Prod.fst).Nodup) {place : Nat} :
    (ofCounts counts).indexOf? text = some place ↔ (ofCounts counts).get? place = some text :=
  get?_places (((ofCounts_perm counts).map Prod.fst).nodup_iff.mpr distinct)

theorem isSome_indexOf?_ofCounts (distinct : (counts.map Prod.fst).Nodup) :
    ((ofCounts counts).indexOf? text).isSome ↔ text ∈ counts.map Prod.fst := by
  rw [Option.isSome_iff_exists, ← ((ofCounts_perm counts).map Prod.fst).mem_iff,
    List.mem_iff_getElem?]
  apply exists_congr
  intro place
  rw [indexOf?_ofCounts distinct, get?, List.getElem?_map]

theorem countOf_ofCounts (distinct : (counts.map Prod.fst).Nodup) {count : Nat}
    (counted : (text, count) ∈ counts) : (ofCounts counts).countOf text = count := by
  obtain ⟨place, found⟩ := List.mem_iff_getElem?.mp ((ofCounts_perm counts).mem_iff.mpr counted)
  have named : (ofCounts counts).get? place = some text := by
    rw [get?, found]
    rfl
  rw [countOf, (indexOf?_ofCounts distinct).mpr named, Option.bind_some, found]
  rfl

end OfCounts

variable (sheet : Sheet) (columns : List Column) (start : Nat)

theorem build_perm : (build sheet columns start).entries.Perm
    (tally (cells sheet columns start)).entries :=
  ofCounts_perm _

theorem indexOf?_build (text : String) :
    ((build sheet columns start).indexOf? text).isSome ↔ text ∈ cells sheet columns start := by
  rw [build, isSome_indexOf?_ofCounts (ascending_tally _).nodup]
  exact mem_keys_tally

/-- The count of a text is the number of counted cells that hold it. -/
theorem countOf_build (text : String) :
    (build sheet columns start).countOf text = (cells sheet columns start).count text := by
  by_cases known : text ∈ cells sheet columns start
  · have positive := List.count_pos_iff.mpr known
    exact countOf_ofCounts (ascending_tally _).nodup (mem_tally.mpr ⟨positive, rfl⟩)
  · have absent : (build sheet columns start).indexOf? text = none := by
      rwa [← Option.not_isSome_iff_eq_none, indexOf?_build]
    rw [countOf, absent, List.count_eq_zero_of_not_mem known]
    rfl

theorem sum_build :
    ((build sheet columns start).entries.map Prod.snd).sum = (cells sheet columns start).length := by
  rw [((build_perm sheet columns start).map Prod.snd).sum_eq, sum_tally]

end GameSheet.StringPool
