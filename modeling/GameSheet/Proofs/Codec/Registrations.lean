import GameSheet.Proofs.Associations
import GameSheet.Proofs.Codec.Keywords

/-!
Registries and how they came about. A registry starts with the standard codecs and changes by calls
that put a codec under keywords, of which some fail. A keyword resolves to the codec of the last call
that succeeded and lists it in some spelling; a call that lists the identifier keyword in any spelling
fails and changes nothing, so that keyword keeps the standard codec.
-/

namespace GameSheet

namespace ColumnType

def names (type : ColumnType) : List String := type.keyword :: type.aliases

theorem names_normal (type : ColumnType) : ∀ name ∈ type.names, normalKeyword name = name := by
  have normal : ∀ known ∈ all, ∀ name ∈ known.names, normalKeyword name = name := by decide +kernel
  exact normal type (mem_all type)

theorem eq_of_mem_names {type other : ColumnType} {name : String} (member : name ∈ type.names)
    (again : name ∈ other.names) : other = type := by
  have single : ∀ known ∈ all, ∀ name ∈ known.names, ∀ second ∈ all,
      name ∈ second.names → second = known := by decide +kernel
  exact single type (mem_all type) name member other (mem_all other) again

end ColumnType

namespace TypeRegistry

structure Registration where
  keywords : List String
  codec : Codec

namespace Registration

def run (call : Registration) (registry : TypeRegistry) :
    EStateM.Result LookupError TypeRegistry Unit :=
  (register call.keywords call.codec).run registry

def Lists (call : Registration) (keyword : String) : Prop :=
  normalKeyword keyword ∈ call.keywords.map normalKeyword

def Free (call : Registration) : Prop := ∀ listed ∈ call.keywords, normalKeyword listed ≠ "id"

end Registration

def after (registry : TypeRegistry) (call : Registration) : TypeRegistry :=
  match call.run registry with
  | .ok _ next | .error _ next => next

def ofCalls (calls : List Registration) : TypeRegistry := calls.foldl after standard

def AcceptedAt (calls : List Registration) (place : Nat) (call : Registration) : Prop :=
  calls[place]? = some call ∧
    ∃ next, call.run (ofCalls (calls.take place)) = .ok () next

variable {registry : TypeRegistry} {key keyword : String} {call : Registration}
  {calls : List Registration} {place : Nat}

/-! One call -/

theorem lookup_assign (codecs : List (String × Codec)) (key other : String) (codec : Codec) :
    (assign codecs key codec).lookup other =
      if other = key then some codec else codecs.lookup other := by
  rw [assign, List.lookup_append, Association.lookup_filter_ne, Association.lookup_cons]
  split_ifs
  · rfl
  · exact Option.or_none

theorem lookup_insert (registry : TypeRegistry) (keywords : List String) (codec : Codec)
    (key : String) : (registry.insert keywords codec).codecs.lookup key =
      if key ∈ keywords.map normalKeyword then some codec else registry.codecs.lookup key := by
  induction keywords generalizing registry with
  | nil => simp [insert]
  | cons keyword keywords ih =>
    rw [insert_cons, ih, put, lookup_assign, List.map_cons]
    by_cases first : key = normalKeyword keyword
    · simp [first]
    · simp [first]

theorem identifier_insert (registry : TypeRegistry) (keywords : List String) (codec : Codec) :
    (registry.insert keywords codec).identifier = registry.identifier := by
  induction keywords generalizing registry with
  | nil => rfl
  | cons keyword keywords ih => rw [insert_cons, ih, put]

theorem run_of_free (free : call.Free) :
    call.run registry = .ok () (registry.insert call.keywords call.codec) := by
  have absent : call.keywords.find? (fun keyword => normalKeyword keyword = "id") = none := by
    rw [List.find?_eq_none]
    intro listed member
    simpa using free listed member
  rw [Registration.run, run_register, absent]

/-- A call that lists the identifier keyword names the first listed spelling of it. -/
theorem run_reserved {front back : List String} {reserved : String}
    (listed : call.keywords = front ++ reserved :: back)
    (before : ∀ other ∈ front, normalKeyword other ≠ "id") (taken : normalKeyword reserved = "id") :
    call.run registry = .error (.reservedKeyword reserved) registry := by
  have first : call.keywords.find? (fun keyword => normalKeyword keyword = "id") =
      some reserved := by
    rw [List.find?_eq_some_iff_append]
    refine ⟨decide_eq_true taken, front, back, listed, ?_⟩
    intro other member
    simpa using before other member
  rw [Registration.run, run_register, first]

theorem exists_reserved (taken : ¬call.Free) : ∃ front reserved back,
    call.keywords = front ++ reserved :: back ∧
      (∀ other ∈ front, normalKeyword other ≠ "id") ∧ normalKeyword reserved = "id" := by
  cases found : call.keywords.find? (fun keyword => normalKeyword keyword = "id") with
  | none =>
    refine absurd (fun listed member => ?_) taken
    simpa using List.find?_eq_none.mp found listed member
  | some reserved =>
    obtain ⟨same, front, back, listed, before⟩ := List.find?_eq_some_iff_append.mp found
    refine ⟨front, reserved, back, listed, ?_, of_decide_eq_true same⟩
    intro other member
    simpa using before other member

theorem run_of_not_free (registry : TypeRegistry) (taken : ¬call.Free) :
    ∃ fault, call.run registry = .error fault registry := by
  obtain ⟨front, reserved, back, listed, before, same⟩ := exists_reserved taken
  exact ⟨_, run_reserved listed before same⟩

theorem exists_run_iff : (∃ next, call.run registry = .ok () next) ↔ call.Free := by
  constructor
  · intro ⟨next, done⟩
    by_contra taken
    obtain ⟨fault, failed⟩ := run_of_not_free registry taken
    rw [done] at failed
    cases failed
  · exact fun free => ⟨_, run_of_free free⟩

theorem after_of_free (free : call.Free) :
    registry.after call = registry.insert call.keywords call.codec := by
  rw [after, run_of_free free]

theorem after_of_not_free (taken : ¬call.Free) : registry.after call = registry := by
  obtain ⟨fault, failed⟩ := run_of_not_free registry taken
  rw [after, failed]

theorem identifier_after (registry : TypeRegistry) (call : Registration) :
    (registry.after call).identifier = registry.identifier := by
  by_cases free : call.Free
  · rw [after_of_free free, identifier_insert]
  · rw [after_of_not_free free]

theorem resolve_after_of_lists (free : call.Free) (lists : call.Lists keyword) :
    (registry.after call).resolve keyword = .ok call.codec := by
  unfold Registration.Lists at lists
  rw [resolve, after_of_free free, lookup_insert, if_pos lists]

theorem resolve_after_of_quiet (quiet : call.Free → ¬call.Lists keyword) :
    (registry.after call).resolve keyword = registry.resolve keyword := by
  by_cases free : call.Free
  · unfold Registration.Lists at quiet
    rw [resolve, resolve, after_of_free free, lookup_insert, if_neg (quiet free)]
  · rw [after_of_not_free free]

/-! The standard registry -/

theorem lookup_inserted (registry : TypeRegistry) {types : List ColumnType}
    (absent : ∀ type ∈ types, key ∉ type.names) :
    (types.foldl (fun registry type =>
      registry.insert (type.keyword :: type.aliases) type.codec) registry).codecs.lookup key =
      registry.codecs.lookup key := by
  induction types generalizing registry with
  | nil => rfl
  | cons type types ih =>
    obtain ⟨first, later⟩ := List.forall_mem_cons.mp absent
    rw [List.foldl_cons, ih _ later, lookup_insert, if_neg]
    rw [← ColumnType.names, List.map_congr_left (type.names_normal), List.map_id']
    exact first

theorem identifier_inserted (registry : TypeRegistry) (types : List ColumnType) :
    (types.foldl (fun registry type =>
      registry.insert (type.keyword :: type.aliases) type.codec) registry).identifier =
      registry.identifier := by
  induction types generalizing registry with
  | nil => rfl
  | cons type types ih => rw [List.foldl_cons, ih, identifier_insert]

theorem identifier_standard : standard.identifier = .id := by
  rw [standard, identifier_inserted, empty]

theorem lookup_standard {type : ColumnType} (named : key ∈ type.names) :
    standard.codecs.lookup key = some type.codec := by
  obtain ⟨front, back, split⟩ := List.append_of_mem (ColumnType.mem_all type)
  have distinct : (front ++ type :: back).Nodup := by
    rw [← split]
    decide
  have later : ∀ other ∈ back, key ∉ other.names := by
    intro other member again
    rw [ColumnType.eq_of_mem_names named again] at member
    exact (List.nodup_cons.mp distinct.of_append_right).1 member
  rw [standard, split, List.foldl_append, List.foldl_cons, lookup_inserted _ later, lookup_insert,
    if_pos]
  rw [← ColumnType.names, List.map_congr_left (type.names_normal), List.map_id']
  exact named

theorem resolve_standard {type : ColumnType} (named : normalKeyword keyword ∈ type.names) :
    standard.resolve keyword = .ok type.codec := by
  rw [resolve, lookup_standard named]

theorem resolve_standard_unknown (unknown : ∀ type : ColumnType, normalKeyword keyword ∉ type.names) :
    standard.resolve keyword = .error (.unknownType keyword) := by
  rw [resolve, standard, lookup_inserted empty (fun type _ => unknown type)]
  rfl

/-! Many calls -/

theorem acceptedAt_iff : AcceptedAt calls place call ↔ calls[place]? = some call ∧ call.Free := by
  rw [AcceptedAt, exists_run_iff]

theorem ofCalls_concat (calls : List Registration) (call : Registration) :
    ofCalls (calls ++ [call]) = (ofCalls calls).after call := List.foldl_concat ..

theorem resolve_of_quiet (quiet : ∀ call ∈ calls, call.Free → ¬call.Lists keyword) :
    (calls.foldl after registry).resolve keyword = registry.resolve keyword := by
  induction calls generalizing registry with
  | nil => rfl
  | cons call calls ih =>
    obtain ⟨first, later⟩ := List.forall_mem_cons.mp quiet
    rw [List.foldl_cons, ih later, resolve_after_of_quiet first]

theorem identifier_ofCalls (calls : List Registration) : (ofCalls calls).identifier = .id := by
  induction calls using List.reverseRecOn with
  | nil => rw [ofCalls, List.foldl_nil, identifier_standard]
  | append_singleton calls call ih => rw [ofCalls_concat, identifier_after, ih]

/-- The last call that succeeds and lists a keyword says what it resolves to. -/
theorem resolve_of_last (accepted : AcceptedAt calls place call) (lists : call.Lists keyword)
    (last : ∀ later other, AcceptedAt calls later other → other.Lists keyword → later ≤ place) :
    (ofCalls calls).resolve keyword = .ok call.codec := by
  obtain ⟨found, free⟩ := acceptedAt_iff.mp accepted
  obtain ⟨inside, located⟩ := List.getElem?_eq_some_iff.mp found
  have split : calls = calls.take place ++ call :: calls.drop (place + 1) := by
    rw [← located, List.cons_getElem_drop_succ, List.take_append_drop]
  have quiet : ∀ other ∈ calls.drop (place + 1), other.Free → ¬other.Lists keyword := by
    intro other member succeeds again
    obtain ⟨distance, stands⟩ := List.mem_iff_getElem?.mp member
    rw [List.getElem?_drop] at stands
    have early := last _ other (acceptedAt_iff.mpr ⟨stands, succeeds⟩) again
    omega
  rw [ofCalls, split, List.foldl_append, List.foldl_cons, resolve_of_quiet quiet]
  exact resolve_after_of_lists free lists

theorem resolve_of_none
    (none : ∀ place call, AcceptedAt calls place call → ¬call.Lists keyword) :
    (ofCalls calls).resolve keyword = standard.resolve keyword := by
  apply resolve_of_quiet
  intro call member free
  obtain ⟨place, found⟩ := List.mem_iff_getElem?.mp member
  exact none place call (acceptedAt_iff.mpr ⟨found, free⟩)

/-- Whatever calls a registry came from: a keyword resolves to the codec of the last call that
succeeded and lists it in some spelling, else to the standard codec under its normal form, else it is
unknown. A call fails exactly when it lists the identifier keyword in some spelling, and then names the
first such spelling and changes nothing; that keyword keeps the standard codec in every spelling, and
no call changes the codec of identifier columns. -/
theorem resolve_after_calls (calls : List Registration) (keyword : String) :
    let registry := ofCalls calls
    (∀ place call, AcceptedAt calls place call → call.Lists keyword →
      (∀ later other, AcceptedAt calls later other → other.Lists keyword → later ≤ place) →
      registry.resolve keyword = .ok call.codec) ∧
    ((∀ place call, AcceptedAt calls place call → ¬call.Lists keyword) →
      (∀ type : ColumnType, normalKeyword keyword ∈ type.keyword :: type.aliases →
        registry.resolve keyword = .ok type.codec) ∧
      ((∀ type : ColumnType, normalKeyword keyword ∉ type.keyword :: type.aliases) →
        registry.resolve keyword = .error (.unknownType keyword))) ∧
    (∀ call front reserved back, call.keywords = front ++ reserved :: back →
      (∀ other ∈ front, normalKeyword other ≠ "id") → normalKeyword reserved = "id" →
      call.run registry = .error (.reservedKeyword reserved) registry ∧
        ofCalls (calls ++ [call]) = registry) ∧
    (∀ call : Registration, (∀ listed ∈ call.keywords, normalKeyword listed ≠ "id") →
      ∃ next, call.run registry = .ok () next ∧ ofCalls (calls ++ [call]) = next) ∧
    (normalKeyword keyword = "id" → registry.resolve keyword = .ok .id) ∧
    registry.identifier = .id ∧
    ∀ call, (ofCalls (calls ++ [call])).identifier = registry.identifier := by
  intro registry
  refine ⟨fun place call => resolve_of_last, fun none => ⟨fun type named => ?_, fun unknown => ?_⟩,
    fun call front reserved back listed before taken => ?_, fun call free => ?_, fun same => ?_,
    identifier_ofCalls calls, fun call => ?_⟩
  · exact (resolve_of_none none).trans (resolve_standard named)
  · exact (resolve_of_none none).trans (resolve_standard_unknown unknown)
  · have failed : call.run registry = .error (.reservedKeyword reserved) registry :=
      run_reserved listed before taken
    refine ⟨failed, ?_⟩
    rw [ofCalls_concat, after, failed]
  · exact ⟨_, run_of_free free, (ofCalls_concat calls call).trans (after_of_free free)⟩
  · have none : ∀ place call, AcceptedAt calls place call → ¬call.Lists keyword := by
      intro place call accepted lists
      obtain ⟨listed, member, spelling⟩ := List.mem_map.mp lists
      exact (acceptedAt_iff.mp accepted).2 listed member (spelling.trans same)
    rw [resolve_of_none none]
    have named : normalKeyword keyword ∈ ColumnType.id.keyword :: ColumnType.id.aliases := by
      rw [same]
      exact List.mem_cons_self
    exact resolve_standard named
  · rw [ofCalls_concat, identifier_after]

end TypeRegistry

end GameSheet
