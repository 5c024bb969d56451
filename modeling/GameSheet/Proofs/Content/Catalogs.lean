import GameSheet.Content.Catalog
import GameSheet.Proofs.Table.OrderedMap
import GameSheet.Proofs.Traversal

/-!
Catalogs and how they came about. A catalog changes by calls that put a table in, of which some fail.
Each table in it stands under a name of its kind since the one call that succeeded under that name;
the calls after that under the name fail and leave it there.
-/

namespace GameSheet

namespace TableName

instance : Std.TransOrd TableName :=
  inferInstanceAs (Std.TransCmp (compareLex (compareOn TableName.type) (compareOn TableName.instance?)))

instance : Std.LawfulEqOrd TableName where
  eq_of_compare {first second} same := by
    obtain ⟨types, instances⟩ := Ordering.then_eq_eq.mp same
    cases first
    cases second
    simp_all

theorem kind_ofKind (kind : TableKind) : (ofKind kind).kind = .ok kind := by
  cases kind <;> decide

end TableName

theorem LoadedTable.as?_eq_some {loaded : LoadedTable} {kind : TableKind}
    {table : DataTable kind.Row} : loaded.as? kind = some table ↔ loaded = ⟨kind, table⟩ := by
  obtain ⟨found, content⟩ := loaded
  unfold LoadedTable.as?
  by_cases same : found = kind
  · subst same
    simp
  · simp [same]

inductive Insertion where
  | loaded (name : TableName) (table : LoadedTable)
  | typed (kind : TableKind) (name : TableName) (table : DataTable kind.Row)

namespace Insertion

def name : Insertion → TableName
  | loaded name _ => name
  | typed _ name _ => name

def table : Insertion → LoadedTable
  | loaded _ table => table
  | typed kind _ table => ⟨kind, table⟩

end Insertion

namespace Catalog

def perform (catalog : Catalog) : Insertion → EStateM.Result CatalogError Catalog Unit
  | .loaded name loaded => (insert name loaded).run catalog
  | .typed _ name table => (insertTable name table).run catalog

def after (catalog : Catalog) (call : Insertion) : Catalog :=
  match catalog.perform call with
  | .ok _ next | .error _ next => next

def ofCalls (calls : List Insertion) : Catalog := calls.foldl after empty

def AcceptedAt (calls : List Insertion) (place : Nat) (name : TableName) (loaded : LoadedTable) :
    Prop :=
  ∃ call next, calls[place]? = some call ∧ call.name = name ∧ call.table = loaded ∧
    (ofCalls (calls.take place)).perform call = .ok () next

variable {catalog next : Catalog} {call : Insertion} {name : TableName} {loaded : LoadedTable}

theorem perform_eq (catalog : Catalog) (call : Insertion) :
    catalog.perform call = (insert call.name call.table).run catalog := by
  cases call <;> rfl

/-! One call -/

/-- The steps of a call: each fault stands beside the catalog that the call was made on. -/
theorem run_insert (catalog : Catalog) (name : TableName) (loaded : LoadedTable) :
    (insert name loaded).run catalog =
      match name.kind with
      | .error cause => .error (.badName cause) catalog
      | .ok expected =>
        if loaded.kind ≠ expected then .error (.kindMismatch name expected loaded.kind) catalog
        else if catalog.tables.contains name then .error (.alreadyLoaded name) catalog
        else .ok () ⟨catalog.tables.insert name loaded⟩ := by
  unfold insert
  cases name.kind with
  | error cause => rfl
  | ok expected =>
    by_cases same : loaded.kind = expected
    · cases inside : catalog.tables.contains name <;>
        simp [same, inside, Except.mapError, MonadExcept.ofExcept]
    · simp [same, Except.mapError, MonadExcept.ofExcept]

theorem insert_of_badName {cause : TableNameError} (bad : name.kind = .error cause) :
    (insert name loaded).run catalog = .error (.badName cause) catalog := by
  rw [run_insert, bad]

theorem insert_of_mismatch {expected : TableKind} (named : name.kind = .ok expected)
    (other : loaded.kind ≠ expected) : (insert name loaded).run catalog =
      .error (.kindMismatch name expected loaded.kind) catalog := by
  simp only [run_insert, named, if_pos other]

theorem insert_of_loaded {kept : LoadedTable} (named : name.kind = .ok loaded.kind)
    (there : catalog.loaded? name = some kept) :
    (insert name loaded).run catalog = .error (.alreadyLoaded name) catalog := by
  have inside : catalog.tables.contains name = true := by
    rw [OrderedMap.contains, ← loaded?, there, Option.isSome_some]
  simp [run_insert, named, inside]

theorem insert_of_new (named : name.kind = .ok loaded.kind) (new : catalog.loaded? name = none) :
    (insert name loaded).run catalog = .ok () ⟨catalog.tables.insert name loaded⟩ := by
  have absent : catalog.tables.contains name = false := by
    rw [OrderedMap.contains, ← loaded?, new, Option.isSome_none]
  simp [run_insert, named, absent]

theorem insert_eq_error {fault : CatalogError}
    (failed : (insert name loaded).run catalog = .error fault next) : next = catalog := by
  rw [run_insert] at failed
  split at failed
  next => exact (EStateM.Result.error.inj failed).2.symm
  next =>
    split_ifs at failed
    · exact (EStateM.Result.error.inj failed).2.symm
    · exact (EStateM.Result.error.inj failed).2.symm

theorem insert_eq_ok : (insert name loaded).run catalog = .ok () next ↔
    name.kind = .ok loaded.kind ∧ catalog.loaded? name = none ∧
      next = ⟨catalog.tables.insert name loaded⟩ := by
  constructor
  · intro done
    cases named : name.kind with
    | error cause =>
      rw [insert_of_badName named] at done
      cases done
    | ok expected =>
      by_cases same : loaded.kind = expected
      · subst same
        cases there : catalog.loaded? name with
        | some kept =>
          rw [insert_of_loaded named there] at done
          cases done
        | none =>
          rw [insert_of_new named there] at done
          exact ⟨rfl, rfl, (EStateM.Result.ok.inj done).2.symm⟩
      · rw [insert_of_mismatch named same] at done
        cases done
  · rintro ⟨named, new, rfl⟩
    exact insert_of_new named new

theorem mem_names : name ∈ catalog.names ↔ ∃ loaded, catalog.loaded? name = some loaded :=
  OrderedMap.mem_keys

theorem not_mem_names : name ∉ catalog.names ↔ catalog.loaded? name = none := by
  rw [mem_names, Option.eq_none_iff_forall_ne_some, not_exists]

theorem after_of_ok (done : catalog.perform call = .ok () next) : catalog.after call = next := by
  rw [after, done]

theorem after_of_error {fault : CatalogError} (failed : catalog.perform call = .error fault next) :
    catalog.after call = catalog := by
  rw [after, failed]
  rw [perform_eq] at failed
  exact insert_eq_error failed

structure Sound (catalog : Catalog) : Prop where
  named : ∀ name loaded, catalog.loaded? name = some loaded → name.kind = .ok loaded.kind
  ascending : catalog.tables.Ascending

theorem sound_empty : empty.Sound where
  named _ _ found := by cases found
  ascending := OrderedMap.ascending_empty

theorem loaded?_insert (loaded : LoadedTable) (other : TableName) :
    (⟨catalog.tables.insert name loaded⟩ : Catalog).loaded? other =
      if other = name then some loaded else catalog.loaded? other :=
  OrderedMap.get?_insert catalog.tables name loaded other

theorem Sound.after (sound : catalog.Sound) (call : Insertion) : (catalog.after call).Sound := by
  cases done : catalog.perform call with
  | error fault left => rwa [after_of_error done]
  | ok _ next =>
    rw [after_of_ok done]
    rw [perform_eq] at done
    obtain ⟨named, _, rfl⟩ := insert_eq_ok.mp done
    constructor
    · intro name loaded found
      rw [loaded?_insert] at found
      split_ifs at found with same
      · obtain rfl := Option.some.inj found
        rwa [same]
      · exact sound.named name loaded found
    · exact sound.ascending.insert _ _

/-- A call adds the table that it puts in and changes nothing else. -/
theorem loaded?_after : (catalog.after call).loaded? name = some loaded ↔
    catalog.loaded? name = some loaded ∨
      (call.name = name ∧ call.table = loaded ∧ ∃ next, catalog.perform call = .ok () next) := by
  cases done : catalog.perform call with
  | error fault left => simp [after_of_error done]
  | ok _ next =>
    rw [after_of_ok done]
    rw [perform_eq] at done
    obtain ⟨_, new, rfl⟩ := insert_eq_ok.mp done
    rw [loaded?_insert]
    by_cases same : name = call.name
    · subst same
      simp [new]
    · simp [same, Ne.symm same]

/-! Many calls -/

variable {calls : List Insertion} {place : Nat}

theorem ofCalls_concat (calls : List Insertion) (call : Insertion) :
    ofCalls (calls ++ [call]) = (ofCalls calls).after call := List.foldl_concat ..

theorem sound_ofCalls (calls : List Insertion) : (ofCalls calls).Sound := by
  induction calls using List.reverseRecOn with
  | nil => exact sound_empty
  | append_singleton calls call ih =>
    rw [ofCalls_concat]
    exact ih.after call

theorem loaded?_append (there : (ofCalls calls).loaded? name = some loaded)
    (later : List Insertion) : (ofCalls (calls ++ later)).loaded? name = some loaded := by
  induction later using List.reverseRecOn with
  | nil => rwa [List.append_nil]
  | append_singleton later call ih =>
    rw [← List.append_assoc, ofCalls_concat]
    exact loaded?_after.mpr (Or.inl ih)

theorem acceptedAt_concat : AcceptedAt (calls ++ [call]) place name loaded ↔
    AcceptedAt calls place name loaded ∨ (place = calls.length ∧ call.name = name ∧
      call.table = loaded ∧ ∃ next, (ofCalls calls).perform call = .ok () next) := by
  unfold AcceptedAt
  rcases Nat.lt_trichotomy place calls.length with before | rfl | beyond
  · rw [List.getElem?_append_left before, List.take_append_of_le_length before.le]
    simp [before.ne]
  · simp
  · have past : calls[place]? = none := List.getElem?_eq_none beyond.le
    have pastAll : (calls ++ [call])[place]? = none := List.getElem?_eq_none (by simpa using beyond)
    simp [past, pastAll, beyond.ne']

theorem loaded?_ofCalls : (ofCalls calls).loaded? name = some loaded ↔
    ∃ place, AcceptedAt calls place name loaded := by
  induction calls using List.reverseRecOn with
  | nil => simp [ofCalls, empty, loaded?, OrderedMap.get?, OrderedMap.empty, AcceptedAt]
  | append_singleton calls call ih =>
    simp only [ofCalls_concat, loaded?_after, ih, acceptedAt_concat, exists_or, exists_eq_left]

/-- Under one name one call is accepted: the tables in the way of a later one stay. -/
theorem AcceptedAt.not_lt {again : LoadedTable} {later : Nat}
    (accepted : AcceptedAt calls place name loaded) (other : AcceptedAt calls later name again) :
    ¬place < later := by
  intro before
  obtain ⟨call, next, found, rfl, rfl, done⟩ := accepted
  obtain ⟨call', next', found', same, rfl, done'⟩ := other
  have early : AcceptedAt (calls.take later) place call.name call.table := by
    refine ⟨call, next, ?_, rfl, rfl, ?_⟩
    · rwa [List.getElem?_take_of_lt before]
    · rwa [List.take_take, Nat.min_eq_left before.le]
  have there := loaded?_ofCalls.mpr ⟨place, early⟩
  rw [perform_eq] at done'
  obtain ⟨_, new, _⟩ := insert_eq_ok.mp done'
  rw [same, there] at new
  cases new

theorem AcceptedAt.unique {again : LoadedTable} {other : Nat}
    (accepted : AcceptedAt calls place name loaded) (twice : AcceptedAt calls other name again) :
    other = place :=
  Nat.le_antisymm (Nat.le_of_not_lt (accepted.not_lt twice)) (Nat.le_of_not_lt (twice.not_lt accepted))

theorem get?_eq_some {kind : TableKind} {table : DataTable kind.Row} :
    catalog.get? kind name = some table ↔ catalog.loaded? name = some ⟨kind, table⟩ := by
  rw [get?, Option.bind_eq_some_iff]
  simp only [LoadedTable.as?_eq_some]
  constructor
  · rintro ⟨_, found, rfl⟩
    exact found
  · exact fun found => ⟨_, found, rfl⟩

theorem get?_ofCalls {kind : TableKind} {table : DataTable kind.Row} :
    (ofCalls calls).get? kind name = some table ↔ name.kind = .ok kind ∧
      ∃ place, AcceptedAt calls place name ⟨kind, table⟩ ∧
        ∀ other again, AcceptedAt calls other name again → other = place := by
  rw [get?_eq_some]
  constructor
  · intro found
    obtain ⟨place, accepted⟩ := loaded?_ofCalls.mp found
    exact ⟨(sound_ofCalls calls).named _ _ found, place, accepted,
      fun other again twice => accepted.unique twice⟩
  · rintro ⟨_, place, accepted, _⟩
    exact loaded?_ofCalls.mpr ⟨place, accepted⟩

/-- A table of a kind's own name is of that kind, so it is there whatever was put in. -/
theorem table?_ofCalls {kind : TableKind} : ((ofCalls calls).table? kind).isSome ↔
    ∃ place loaded, AcceptedAt calls place (TableName.ofKind kind) loaded := by
  rw [Option.isSome_iff_exists]
  simp only [table?, get?_eq_some]
  constructor
  · rintro ⟨table, found⟩
    obtain ⟨place, accepted⟩ := loaded?_ofCalls.mp found
    exact ⟨place, _, accepted⟩
  · rintro ⟨place, ⟨found, table⟩, accepted⟩
    have there := loaded?_ofCalls.mpr ⟨place, accepted⟩
    have named := (sound_ofCalls calls).named _ _ there
    rw [TableName.kind_ofKind] at named
    obtain rfl := Except.ok.inj named
    exact ⟨table, there⟩

/-- Whatever calls a catalog came from: its tables are under names of their kinds, and no call
replaces one; a call that fails leaves it and tells the first thing that is wrong, the name before the
kind and the kind before a name that is taken; its names ascend; and a table that is asked for by name
and kind, or by kind alone, is there exactly when the one call that was accepted under the name put it
in. -/
theorem catalog_of_calls (calls : List Insertion) :
    let catalog := ofCalls calls
    (∀ entry ∈ catalog.tables.entries, entry.1.kind = .ok entry.2.kind) ∧
    (∀ name loaded, catalog.loaded? name = some loaded →
      ∀ later, (ofCalls (calls ++ later)).loaded? name = some loaded) ∧
    (∀ call : Insertion,
      (∀ fault left, catalog.perform call = .error fault left →
        left = catalog ∧ ofCalls (calls ++ [call]) = catalog) ∧
      (∀ cause, call.name.kind = .error cause →
        catalog.perform call = .error (.badName cause) catalog) ∧
      (∀ expected, call.name.kind = .ok expected → call.table.kind ≠ expected →
        catalog.perform call = .error (.kindMismatch call.name expected call.table.kind) catalog) ∧
      (call.name.kind = .ok call.table.kind → call.name ∈ catalog.names →
        catalog.perform call = .error (.alreadyLoaded call.name) catalog) ∧
      (call.name.kind = .ok call.table.kind → call.name ∉ catalog.names →
        ∃ next, catalog.perform call = .ok () next)) ∧
    (catalog.names.Pairwise (fun first second => compare first second = .lt) ∧
      catalog.names.Nodup ∧ catalog.names.length = catalog.size) ∧
    (∀ kind name table, catalog.get? kind name = some table ↔ name.kind = .ok kind ∧
      ∃ place, AcceptedAt calls place name ⟨kind, table⟩ ∧
        ∀ other again, AcceptedAt calls other name again → other = place) ∧
    ∀ kind, (catalog.table? kind).isSome ↔
      ∃ place loaded, AcceptedAt calls place (TableName.ofKind kind) loaded := by
  intro catalog
  have sound : catalog.Sound := sound_ofCalls calls
  refine ⟨?_, fun name loaded there => loaded?_append there, fun call => ?_,
    ⟨sound.ascending, sound.ascending.nodup, OrderedMap.length_keys _⟩,
    fun kind name table => get?_ofCalls, fun kind => table?_ofCalls⟩
  · rintro ⟨name, loaded⟩ member
    exact sound.named name loaded (sound.ascending.mem_entries.mp member)
  · rw [ofCalls_concat, perform_eq]
    refine ⟨fun fault left failed => ?_, fun cause => insert_of_badName,
      fun expected => insert_of_mismatch, fun named inside => ?_, fun named absent => ?_⟩
    · exact ⟨insert_eq_error failed, after_of_error ((perform_eq catalog call).trans failed)⟩
    · obtain ⟨kept, there⟩ := mem_names.mp inside
      exact insert_of_loaded named there
    · exact ⟨_, insert_of_new named (not_mem_names.mp absent)⟩

end Catalog

end GameSheet
