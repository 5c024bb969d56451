import GameSheet.Proofs.Table.OrderedMap
import GameSheet.Proofs.Traversal
import GameSheet.Table.DataTable

/-!
Indexing rows by identifier. Whatever the policy, a table that comes about has the last row of every
identifier, in ascending order, and notes the rows that stand behind one with the same identifier. The
policies differ in when it comes about: one that rejects duplicates stops at the first such row.
-/

namespace GameSheet

section Ascending

variable {α β : Type} [LinearOrder β] {key : α → β} {items : List α} {item : α}

theorem head?_eq_some_least (ascending : items.Pairwise (fun first second => key first < key second)) :
    items.head? = some item ↔ item ∈ items ∧ ∀ other ∈ items, key item ≤ key other := by
  cases items with
  | nil => simp
  | cons first rest =>
    have above : ∀ other ∈ rest, key first < key other := (List.pairwise_cons.mp ascending).1
    constructor
    · rintro ⟨⟩
      refine ⟨List.mem_cons_self, List.forall_mem_cons.mpr ⟨le_rfl, ?_⟩⟩
      exact fun other member => (above other member).le
    · rintro ⟨member, least⟩
      rcases List.mem_cons.mp member with rfl | later
      · rfl
      · exact absurd (least first List.mem_cons_self) (above item later).not_ge

theorem getLast?_eq_some_greatest
    (ascending : items.Pairwise (fun first second => key first < key second)) :
    items.getLast? = some item ↔ item ∈ items ∧ ∀ other ∈ items, key other ≤ key item := by
  have descending : items.reverse.Pairwise
      (fun first second => OrderDual.toDual (key first) < OrderDual.toDual (key second)) :=
    List.pairwise_reverse.mpr ascending
  rw [← List.head?_reverse, head?_eq_some_least descending]
  simp only [List.mem_reverse, OrderDual.toDual_le_toDual]

end Ascending

namespace DataTable

def repeats (ids : List Int) : List Int :=
  (ids.zipIdx.filter (fun (id, place) => decide (id ∈ ids.take place))).map Prod.fst

theorem repeats_concat (ids : List Int) (id : Int) :
    repeats (ids ++ [id]) = repeats ids ++ if id ∈ ids then [id] else [] := by
  have front : ids.zipIdx.filter (fun (other, place) => decide (other ∈ (ids ++ [id]).take place)) =
      ids.zipIdx.filter (fun (other, place) => decide (other ∈ ids.take place)) := by
    apply List.filter_congr
    rintro ⟨other, place⟩ member
    have inside : place < ids.length := (List.mem_zipIdx' member).1
    simp only [List.take_append_of_le_length inside.le]
  unfold repeats
  rw [List.zipIdx_append, List.filter_append, front, List.map_append]
  by_cases known : id ∈ ids <;> simp [known]

variable {ρ : Type} {idOf : ρ → Int} {policy : DuplicateIdPolicy} {table next : DataTable ρ}
  {rows : List ρ} {row : ρ}

/-- A table of these rows: it has the last row of each identifier and notes the identifiers that
came again. -/
structure Indexes (table : DataTable ρ) (idOf : ρ → Int) (rows : List ρ) : Prop where
  ascending : table.rows.Ascending
  last : ∀ id, table.get? id = (rows.filter (fun row => idOf row = id)).getLast?
  overridden : table.overridden = repeats (rows.map idOf)
  total : table.size + table.overridden.length = rows.length

/-! One row -/

theorem add_fresh (fresh : idOf row ∉ table.ids) :
    table.add idOf policy row = .ok ⟨table.rows.insert (idOf row) row, table.overridden⟩ := by
  have absent : ¬table.rows.contains (idOf row) = true := OrderedMap.contains_iff.not.mpr fresh
  rw [add.eq_def]
  simp only [if_neg absent]

theorem add_reject (known : idOf row ∈ table.ids) :
    table.add idOf .reject row = .error (.duplicateId (idOf row)) := by
  rw [add, if_pos (OrderedMap.contains_iff.mpr known)]

theorem add_override (known : idOf row ∈ table.ids) :
    table.add idOf .override row =
      .ok ⟨table.rows.insert (idOf row) row, table.overridden ++ [idOf row]⟩ := by
  rw [add, if_pos (OrderedMap.contains_iff.mpr known)]

theorem exists_add (fits : policy = .reject → idOf row ∉ table.ids) :
    ∃ next, table.add idOf policy row = .ok next := by
  by_cases known : idOf row ∈ table.ids
  · cases policy with
    | reject => exact absurd known (fits rfl)
    | override => exact ⟨_, add_override known⟩
  · exact ⟨_, add_fresh known⟩

theorem add_eq_ok (done : table.add idOf policy row = .ok next) :
    next.rows = table.rows.insert (idOf row) row ∧
      next.overridden = table.overridden ++ if idOf row ∈ table.ids then [idOf row] else [] := by
  by_cases known : idOf row ∈ table.ids
  · cases policy with
    | reject =>
      rw [add_reject known] at done
      cases done
    | override =>
      rw [add_override known, Except.ok.injEq] at done
      rw [← done, if_pos known]
      exact ⟨rfl, rfl⟩
  · rw [add_fresh known, Except.ok.injEq] at done
    rw [← done, if_neg known, List.append_nil]
    exact ⟨rfl, rfl⟩

namespace Indexes

theorem mem_ids (indexes : table.Indexes idOf rows) {id : Int} :
    id ∈ table.ids ↔ id ∈ rows.map idOf := by
  rw [← not_iff_not, ids, ← OrderedMap.get?_eq_none, ← get?, indexes.last, List.getLast?_eq_none_iff,
    List.filter_eq_nil_iff]
  simp

theorem add (indexes : table.Indexes idOf rows) (done : table.add idOf policy row = .ok next) :
    next.Indexes idOf (rows ++ [row]) := by
  obtain ⟨stored, noted⟩ := add_eq_ok done
  constructor
  · rw [stored]
    exact indexes.ascending.insert _ _
  · intro id
    rw [get?, stored, OrderedMap.get?_insert, ← get?, indexes.last, List.filter_append]
    by_cases same : id = idOf row
    · simp [same]
    · simp [same, Ne.symm same]
  · rw [noted, indexes.overridden, List.map_append, List.map_singleton, repeats_concat]
    simp only [indexes.mem_ids]
  · rw [size, stored, indexes.ascending.size_insert, noted, List.length_append, List.length_append,
      ← indexes.total]
    unfold size ids
    split_ifs
    · rw [List.length_singleton, List.length_singleton]
      omega
    · rw [List.length_singleton, List.length_nil]
      omega

theorem ids_ascending (indexes : table.Indexes idOf rows) : table.ids.Pairwise (· < ·) :=
  indexes.ascending.imp compare_lt_iff_lt.mp

theorem idOf_of_get? (indexes : table.Indexes idOf rows) {id : Int}
    (found : table.get? id = some row) : idOf row = id := by
  rw [indexes.last] at found
  have member := List.mem_of_getLast? found
  exact of_decide_eq_true (List.mem_filter.mp member).2

theorem map_get? (indexes : table.Indexes idOf rows) :
    table.ids.map table.get? = table.toList.map some := indexes.ascending.map_get?

theorem map_idOf (indexes : table.Indexes idOf rows) : table.toList.map idOf = table.ids := by
  unfold toList ids OrderedMap.values OrderedMap.keys
  rw [List.map_map]
  apply List.map_congr_left
  rintro ⟨id, row⟩ member
  exact indexes.idOf_of_get? (indexes.ascending.mem_entries.mp member)

theorem mem_toList (indexes : table.Indexes idOf rows) :
    row ∈ table.toList ↔ table.get? (idOf row) = some row := by
  have stands : row ∈ table.toList ↔ some row ∈ table.ids.map table.get? := by
    rw [indexes.map_get?, List.mem_map_of_injective (Option.some_injective ρ)]
  rw [stands, List.mem_map]
  constructor
  · rintro ⟨id, _, found⟩
    rwa [indexes.idOf_of_get? found]
  · intro found
    exact ⟨idOf row, OrderedMap.mem_keys.mpr ⟨row, found⟩, found⟩

theorem toList_ascending (indexes : table.Indexes idOf rows) :
    table.toList.Pairwise (fun first second => idOf first < idOf second) := by
  have ascending := indexes.ids_ascending
  rwa [← indexes.map_idOf, List.pairwise_map] at ascending

theorem rowsWhere (indexes : table.Indexes idOf rows) (wanted : ρ → Bool) :
    (table.rowsWhere wanted).map some =
      (table.ids.filter (fun id => (table.get? id).any wanted)).map table.get? := by
  have kept : (table.ids.map table.get?).filter (fun found => found.any wanted) =
      (table.ids.filter (fun id => (table.get? id).any wanted)).map table.get? := List.filter_map
  rw [← kept, indexes.map_get?, List.filter_map]
  rfl

theorem first?_eq_some (indexes : table.Indexes idOf rows) :
    table.first? = some row ↔
      table.get? (idOf row) = some row ∧ ∀ id ∈ table.ids, idOf row ≤ id := by
  rw [first?, head?_eq_some_least indexes.toList_ascending, indexes.mem_toList, ← indexes.map_idOf,
    List.forall_mem_map]

theorem last?_eq_some (indexes : table.Indexes idOf rows) :
    table.last? = some row ↔
      table.get? (idOf row) = some row ∧ ∀ id ∈ table.ids, id ≤ idOf row := by
  rw [last?, getLast?_eq_some_greatest indexes.toList_ascending, indexes.mem_toList,
    ← indexes.map_idOf, List.forall_mem_map]

end Indexes

/-! Many rows -/

theorem indexes_empty (idOf : ρ → Int) : (empty : DataTable ρ).Indexes idOf [] where
  ascending := OrderedMap.ascending_empty
  last _ := rfl
  overridden := rfl
  total := rfl

theorem ofRows_append (idOf : ρ → Int) (policy : DuplicateIdPolicy) (front back : List ρ) :
    ofRows idOf policy (front ++ back) =
      ofRows idOf policy front >>= fun table => back.foldlM (add idOf policy) table :=
  List.foldlM_append

theorem ofRows_concat (idOf : ρ → Int) (policy : DuplicateIdPolicy) (rows : List ρ) (row : ρ) :
    ofRows idOf policy (rows ++ [row]) =
      ofRows idOf policy rows >>= fun table => table.add idOf policy row := by
  simp [ofRows_append]

theorem indexes_ofRows (done : ofRows idOf policy rows = .ok table) : table.Indexes idOf rows := by
  induction rows using List.reverseRecOn generalizing table with
  | nil =>
    obtain rfl := Except.ok.inj done
    exact indexes_empty idOf
  | append_singleton rows row ih =>
    rw [ofRows_concat] at done
    obtain ⟨earlier, before, added⟩ := Traversal.bind_eq_ok.mp done
    exact (ih before).add added

theorem exists_ofRows (fits : policy = .reject → (rows.map idOf).Nodup) :
    ∃ table, ofRows idOf policy rows = .ok table := by
  induction rows using List.reverseRecOn with
  | nil => exact ⟨empty, rfl⟩
  | append_singleton rows row ih =>
    obtain ⟨table, before⟩ := ih (fun strict => by
      have distinct := fits strict
      rw [List.map_append] at distinct
      exact distinct.of_append_left)
    have new : policy = .reject → idOf row ∉ table.ids := by
      intro strict known
      rw [(indexes_ofRows before).mem_ids] at known
      have distinct := fits strict
      rw [List.map_append] at distinct
      exact List.disjoint_of_nodup_append distinct known (List.mem_singleton_self _)
    rw [ofRows_concat, before]
    exact exists_add new

theorem ofRows_duplicate {front back : List ρ} (distinct : (front.map idOf).Nodup)
    (again : idOf row ∈ front.map idOf) :
    ofRows idOf .reject (front ++ row :: back) = .error (.duplicateId (idOf row)) := by
  have made : ∃ table, ofRows idOf .reject front = .ok table := exists_ofRows (fun _ => distinct)
  obtain ⟨table, before⟩ := made
  have known := (indexes_ofRows before).mem_ids.mpr again
  have stops : ofRows idOf .reject (front ++ [row]) = .error (.duplicateId (idOf row)) := by
    rw [ofRows_concat, before]
    exact add_reject known
  rw [List.append_cons, ofRows_append, stops]
  rfl

/-- Where identifiers are repeated, one is the first to be. -/
theorem exists_first_repeat (repeated : ¬(rows.map idOf).Nodup) :
    ∃ front row back, rows = front ++ row :: back ∧ (front.map idOf).Nodup ∧
      idOf row ∈ front.map idOf := by
  induction rows using List.reverseRecOn with
  | nil => exact absurd List.nodup_nil repeated
  | append_singleton rows last ih =>
    by_cases distinct : (rows.map idOf).Nodup
    · refine ⟨rows, last, [], rfl, distinct, ?_⟩
      by_contra new
      apply repeated
      rw [List.map_append, List.map_singleton]
      exact List.nodup_append.mpr ⟨distinct, List.nodup_singleton _, by simpa using new⟩
    · obtain ⟨front, row, back, rfl, before, again⟩ := ih distinct
      exact ⟨front, row, back ++ [last], by simp, before, again⟩

theorem ofRows_reject_eq_error {fault : IndexError} :
    ofRows idOf .reject rows = .error fault ↔
      ∃ front row back, rows = front ++ row :: back ∧ (front.map idOf).Nodup ∧
        idOf row ∈ front.map idOf ∧ fault = .duplicateId (idOf row) := by
  constructor
  · intro failed
    have repeated : ¬(rows.map idOf).Nodup := by
      intro distinct
      have made : ∃ table, ofRows idOf .reject rows = .ok table :=
        exists_ofRows (fun _ => distinct)
      obtain ⟨table, done⟩ := made
      rw [done] at failed
      cases failed
    obtain ⟨front, row, back, rfl, distinct, again⟩ := exists_first_repeat repeated
    rw [ofRows_duplicate distinct again] at failed
    exact ⟨front, row, back, rfl, distinct, again, (Except.error.inj failed).symm⟩
  · rintro ⟨front, row, back, rfl, distinct, again, rfl⟩
    exact ofRows_duplicate distinct again

theorem exists_ofRows_reject :
    (∃ table, ofRows idOf .reject rows = .ok table) ↔ (rows.map idOf).Nodup := by
  constructor
  · rintro ⟨table, done⟩
    by_contra repeated
    obtain ⟨front, row, back, rfl, distinct, again⟩ := exists_first_repeat repeated
    rw [ofRows_duplicate distinct again] at done
    cases done
  · exact fun distinct => exists_ofRows (fun _ => distinct)

/-- Rejecting duplicates makes a table of rows with distinct identifiers and otherwise names the first
identifier that comes again; replacing them always makes one. A table has the last row of each
identifier, in ascending order and no others, and notes every identifier that came again; looking up,
searching and the outermost rows agree with that. -/
theorem ofRows_under_policy (idOf : ρ → Int) (rows : List ρ) :
    ((∃ table, ofRows idOf .reject rows = .ok table) ↔ (rows.map idOf).Nodup) ∧
    (∀ fault, ofRows idOf .reject rows = .error fault ↔
      ∃ front row back, rows = front ++ row :: back ∧ (front.map idOf).Nodup ∧
        idOf row ∈ front.map idOf ∧ fault = .duplicateId (idOf row)) ∧
    (∃ table, ofRows idOf .override rows = .ok table) ∧
    ∀ policy table, ofRows idOf policy rows = .ok table →
      (∀ id, table.get? id = (rows.filter (fun row => idOf row = id)).getLast?) ∧
      table.overridden = repeats (rows.map idOf) ∧
      table.size + table.overridden.length = rows.length ∧
      table.ids.Pairwise (· < ·) ∧
      (∀ id, id ∈ table.ids ↔ id ∈ rows.map idOf) ∧
      (table.toList.map some = table.ids.map table.get? ∧ table.toList.map idOf = table.ids) ∧
      (∀ wanted, (table.rowsWhere wanted).map some =
        (table.ids.filter (fun id => (table.get? id).any wanted)).map table.get?) ∧
      (∀ id, table.contains id = true ↔ ∃ row, table.get? id = some row) ∧
      (∀ row, table.first? = some row ↔
        table.get? (idOf row) = some row ∧ ∀ id ∈ table.ids, idOf row ≤ id) ∧
      ∀ row, table.last? = some row ↔
        table.get? (idOf row) = some row ∧ ∀ id ∈ table.ids, id ≤ idOf row := by
  refine ⟨exists_ofRows_reject, fun fault => ofRows_reject_eq_error,
    exists_ofRows (by simp), fun policy table done => ?_⟩
  have indexes := indexes_ofRows done
  refine ⟨indexes.last, indexes.overridden, indexes.total, indexes.ids_ascending,
    fun id => indexes.mem_ids, ⟨indexes.map_get?.symm, indexes.map_idOf⟩, indexes.rowsWhere,
    fun id => ?_, fun row => indexes.first?_eq_some, fun row => indexes.last?_eq_some⟩
  exact OrderedMap.contains_iff.trans OrderedMap.mem_keys

end DataTable

end GameSheet
