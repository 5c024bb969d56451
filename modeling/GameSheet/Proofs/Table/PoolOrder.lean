import GameSheet.Proofs.Table.ContentRows
import GameSheet.Proofs.Table.Pool
import GameSheet.Proofs.Text.Utf8

/-!
The order of a string pool. Entries are compared by a rank that no two of them share, so there is one
way to put them in order: neither the order of the rows, nor the one in which a map gives its counts
away, nor what the sort does with equal entries can be seen in a pool.
-/

namespace GameSheet

open Text

namespace StringPool

/-! Entries by rank -/

/-- An entry stands in front of one with a lower count, and of one with the same count and greater
bytes. -/
def Precedes (a b : String × Nat) : Prop :=
  b.2 < a.2 ∨ a.2 = b.2 ∧ Utf8.encode a.1.toList < Utf8.encode b.1.toList

def rank (entry : String × Nat) : Natᵒᵈ ×ₗ String := toLex (OrderDual.toDual entry.2, entry.1)

variable {a b : String × Nat}

theorem rank_injective : Function.Injective rank := by
  intro a b same
  obtain ⟨counts, texts⟩ := Prod.mk.inj (toLex.injective same)
  exact Prod.ext texts (OrderDual.toDual.injective counts)

theorem precedes_iff : Precedes a b ↔ rank a < rank b := by
  rw [Precedes, rank, rank, Prod.Lex.toLex_lt_toLex, Utf8.encode_lt_encode, String.lt_iff_toList_lt]
  rfl

theorem before_iff : before a b = true ↔ rank a ≤ rank b := by
  rw [before, rank, rank, Prod.Lex.toLex_le_toLex, Bool.or_eq_true, Bool.and_eq_true, beq_iff_eq,
    decide_eq_true_iff, decide_eq_true_iff]
  rfl

theorem sorted_ofCounts (counts : List (String × Nat)) :
    (ofCounts counts).entries.Pairwise (fun a b => before a b = true) := by
  apply List.pairwise_mergeSort
  · intro a b c
    simp only [before_iff]
    exact le_trans
  · intro a b
    rw [Bool.or_eq_true, before_iff, before_iff]
    exact le_total _ _

variable {counts listed sorted : List (String × Nat)}

/-- There is one way to put entries in order. -/
theorem eq_ofCounts (same : sorted.Perm counts)
    (ordered : sorted.Pairwise (fun a b => before a b = true)) :
    (⟨sorted, places sorted⟩ : StringPool) = ofCounts counts := by
  have entries : sorted = (ofCounts counts).entries := by
    apply (same.trans (ofCounts_perm counts).symm).eq_of_pairwise _ ordered (sorted_ofCounts counts)
    intro a b _ _ front back
    exact rank_injective (le_antisymm (before_iff.mp front) (before_iff.mp back))
  rw [entries]
  rfl

theorem ofCounts_congr (same : listed.Perm counts) : ofCounts listed = ofCounts counts :=
  eq_ofCounts ((ofCounts_perm listed).trans same) (sorted_ofCounts listed)

theorem precedes_ofCounts (distinct : (counts.map Prod.fst).Nodup) :
    (ofCounts counts).entries.Pairwise Precedes := by
  have apart := ((ofCounts_perm counts).map Prod.fst).nodup_iff.mpr distinct
  rw [List.Nodup, List.pairwise_map] at apart
  refine ((sorted_ofCounts counts).and apart).imp ?_
  rintro a b ⟨front, different⟩
  rw [precedes_iff]
  exact lt_of_le_of_ne (before_iff.mp front) (fun same => different (congrArg _ (rank_injective same)))

/-- Which texts come, and how often, is all that the counts depend on. -/
theorem tally_perm {texts others : List String} (same : texts.Perm others) :
    (tally texts).entries.Perm (tally others).entries := by
  have distinct : ∀ texts, (tally texts).entries.Nodup :=
    fun texts => (ascending_tally texts).nodup.of_map
  rw [List.perm_ext_iff_of_nodup (distinct texts) (distinct others)]
  rintro ⟨text, count⟩
  rw [mem_tally, mem_tally, same.count_eq]

/-! Cells -/

def occurrences (sheet : Sheet) (columns : List Column) (start : Nat) (text : String) : Nat :=
  ((sheet.contentNumbers start).map (fun row => columns.countP (fun column =>
    !column.isComment && column.codec.isString && sheet.cell? row column.index == some text))).sum

variable {sheet revised : Sheet} {columns : List Column} {start moved : Nat} {text : String}

theorem count_cells : (cells sheet columns start).count text = occurrences sheet columns start text := by
  rw [cells, Sheet.contentRows_eq_map, List.flatMap_map, List.count_flatMap, occurrences]
  congr 1
  apply List.map_congr_left
  intro row _
  rw [Function.comp_apply, List.count_filterMap, List.countP_filter]
  apply List.countP_congr
  intro column _
  rw [Sheet.getElem?_cellsAt, Bool.and_comm, Column.isString]

theorem cells_perm
    (same : ((sheet.contentRows start).map Prod.snd).Perm ((revised.contentRows moved).map Prod.snd)) :
    (cells sheet columns start).Perm (cells revised columns moved) := by
  have rows := same.flatMap_right (fun row =>
    (columns.filter Column.isString).filterMap (fun column => row[column.index]?))
  rwa [List.flatMap_map, List.flatMap_map] at rows

theorem build_congr
    (same : ((sheet.contentRows start).map Prod.snd).Perm ((revised.contentRows moved).map Prod.snd)) :
    build sheet columns start = build revised columns moved :=
  ofCounts_congr (tally_perm (cells_perm same))

theorem mem_build {count : Nat} :
    (text, count) ∈ (build sheet columns start).entries ↔
      0 < count ∧ count = occurrences sheet columns start text := by
  rw [(build_perm sheet columns start).mem_iff, mem_tally, count_cells]

theorem indexOf?_eq_none : (build sheet columns start).indexOf? text = none ↔
    occurrences sheet columns start text = 0 := by
  rw [← Option.not_isSome_iff_eq_none, indexOf?_build, ← count_cells, List.count_eq_zero]

/-- Whatever sheet, columns and start row: a pool has every text that occurs and no other, once and
with the number of its occurrences, those with higher counts in front and equally frequent ones in
byte order; its index leads from each text to its place and back. It does not depend on the order of
the content rows, nor on the order in which the counts come out of their map, nor on the sort. -/
theorem build_ordered (sheet : Sheet) (columns : List Column) (start : Nat) :
    let pool := build sheet columns start
    let occurring := occurrences sheet columns start
    (pool.entries.map Prod.fst).Nodup ∧
    pool.entries.Pairwise Precedes ∧
    (∀ text count, (text, count) ∈ pool.entries ↔ 0 < count ∧ count = occurring text) ∧
    (∀ text place, pool.indexOf? text = some place ↔ pool.get? place = some text) ∧
    (∀ place, place < pool.size ↔ ∃ text, pool.get? place = some text) ∧
    (∀ text, pool.countOf text = occurring text ∧
      (pool.countOf text = 0 ↔ pool.indexOf? text = none)) ∧
    (∀ (revised : Sheet) (moved : Nat),
      ((sheet.contentRows start).map Prod.snd).Perm ((revised.contentRows moved).map Prod.snd) →
      build revised columns moved = pool) ∧
    ∀ listed : List (String × Nat), listed.Perm (tally (cells sheet columns start)).entries →
      ofCounts listed = pool ∧
      ∀ sorted : List (String × Nat), sorted.Perm listed →
        sorted.Pairwise (fun a b => before a b = true) → ⟨sorted, places sorted⟩ = pool := by
  intro pool occurring
  have distinct := (ascending_tally (cells sheet columns start)).nodup
  refine ⟨?_, precedes_ofCounts distinct, fun text count => mem_build,
    fun text place => indexOf?_ofCounts distinct, fun place => ?_, fun text => ?_,
    fun revised moved same => (build_congr same).symm, fun listed same => ⟨?_, ?_⟩⟩
  · exact ((build_perm sheet columns start).map Prod.fst).nodup_iff.mpr distinct
  · rw [← Option.isSome_iff_exists, get?, Option.isSome_map, size, isSome_getElem?]
  · have counted : pool.countOf text = occurring text :=
      (countOf_build sheet columns start text).trans count_cells
    exact ⟨counted, by rw [counted, indexOf?_eq_none]⟩
  · exact ofCounts_congr same
  · exact fun sorted again ordered => eq_ofCounts (again.trans same) ordered

end StringPool

end GameSheet
