import GameSheet.Proofs.Codec.Registrations
import GameSheet.Proofs.Text.Trimming

/-!
Spellings of keywords. A normal form is trimmed, in lower case and has lost one namespace in front, and
what stood behind the namespace is not normalised again. So a normal form is its own normal form unless
it begins with a blank or with a namespace. A registry lists normal forms: one that is not its own
normal form leads to what is stored under the form behind it, or to nothing.
-/

namespace GameSheet

def namespaces : List (List Char) := ["system.".toList, "unityengine.".toList]

def loweredChars (keyword : String) : List Char := (Text.trim keyword.toList).map Char.toLower

structure Bare (chars : List Char) : Prop where
  blank : ∀ c ∈ chars.head?, Text.isBlank c = false
  named : ∀ front ∈ namespaces, ¬front <+: chars

/-- A namespace stands in front of a blank or of another namespace. -/
def Nested (keyword : String) : Prop :=
  ∃ front ∈ namespaces, ∃ rest, loweredChars keyword = front ++ rest ∧ ¬Bare rest

theorem isBlank_toLower (c : Char) : Text.isBlank c.toLower = Text.isBlank c := by
  by_cases upper : c.isUpper
  · have bounds : 65 ≤ c.toNat ∧ c.toNat ≤ 90 := by
      simpa [Char.isUpper, UInt32.le_iff_toNat_le] using upper
    have lowered : c.toLower.toNat = c.toNat + 32 := by
      rw [Char.toLower_eq_of_isUpper upper, Char.toNat_ofNat, if_pos (Or.inl (by omega))]
    rw [Text.isBlank_of_visible (by omega) (by omega), Text.isBlank_of_visible (by omega) (by omega)]
  · rw [Char.toLower_eq_of_not_isUpper upper]

theorem trimmed_loweredChars (keyword : String) : Text.Trimmed Text.isBlank (loweredChars keyword) :=
  (Text.trimmed_trimEnds Text.isBlank keyword.toList).map isBlank_toLower

theorem loweredChars_ofList {chars : List Char} (trimmed : Text.Trimmed Text.isBlank chars)
    (lower : ∀ c ∈ chars, c.toLower = c) : loweredChars (String.ofList chars) = chars := by
  rw [loweredChars, String.toList_ofList, Text.trim, Text.trimEnds_of_trimmed trimmed]
  exact (List.map_congr_left lower).trans (List.map_id' chars)

theorem toLower_loweredChars (keyword : String) : ∀ c ∈ loweredChars keyword, c.toLower = c := by
  intro c member
  obtain ⟨origin, _, rfl⟩ := List.mem_map.mp member
  exact Char.toLower_toLower_eq_toLower origin

/-- Two namespaces do not stand in front of the same text. -/
theorem namespace_unique {front other rest more : List Char} (first : front ∈ namespaces)
    (second : other ∈ namespaces) (same : front ++ rest = other ++ more) : rest = more := by
  have split : front = other := by
    simp only [namespaces, List.mem_cons, List.not_mem_nil, or_false] at first second
    rcases first with rfl | rfl
    · rcases second with rfl | rfl
      · rfl
      · simp at same
    · rcases second with rfl | rfl
      · simp at same
      · rfl
  rw [split] at same
  exact List.append_cancel_left same

/-- A normal form is what stands behind a namespace, or else all of the lowered keyword. -/
theorem normalKeyword_cases (keyword : String) :
    (∃ front ∈ namespaces, loweredChars keyword = front ++ (normalKeyword keyword).toList) ∨
      (normalKeyword keyword).toList = loweredChars keyword ∧
        ∀ front ∈ namespaces, ¬front <+: loweredChars keyword := by
  have unfolded : (normalKeyword keyword).toList =
      ((Text.behind? "system.".toList (loweredChars keyword)).or
        (Text.behind? "unityengine.".toList (loweredChars keyword))).getD (loweredChars keyword) :=
    String.toList_ofList
  cases system : Text.behind? "system.".toList (loweredChars keyword) with
  | some rest =>
    left
    rw [system] at unfolded
    exact ⟨_, List.mem_cons_self, by rw [unfolded]; exact Text.behind?_eq_some_iff.mp system⟩
  | none =>
    cases engine : Text.behind? "unityengine.".toList (loweredChars keyword) with
    | some rest =>
      left
      rw [system, engine] at unfolded
      exact ⟨_, List.mem_cons_of_mem _ List.mem_cons_self,
        by rw [unfolded]; exact Text.behind?_eq_some_iff.mp engine⟩
    | none =>
      right
      rw [system, engine] at unfolded
      refine ⟨unfolded, ?_⟩
      simp only [namespaces, List.forall_mem_cons, List.not_mem_nil, false_imp_iff, implies_true,
        and_true]
      exact ⟨Text.behind?_eq_none_iff.mp system, Text.behind?_eq_none_iff.mp engine⟩

theorem normalKeyword_eq_self_iff {keyword : String} : normalKeyword keyword = keyword ↔
    Bare keyword.toList ∧ (∀ c ∈ keyword.toList.getLast?, Text.isBlank c = false) ∧
      ∀ c ∈ keyword.toList, c.toLower = c := by
  constructor
  · intro fixed
    have cases := normalKeyword_cases keyword
    rw [fixed] at cases
    rcases cases with ⟨front, member, split⟩ | ⟨whole, plain⟩
    · -- The normal form would be shorter than the keyword by the namespace.
      have shorter : (loweredChars keyword).length ≤ keyword.toList.length := by
        rw [loweredChars, List.length_map]
        exact (Text.trimEnds_length_le Text.isBlank keyword.toList).trans
          (List.dropWhile_sublist Text.isBlank).length_le
      have long : ∀ known ∈ namespaces, 0 < known.length := by decide
      have lost := long front member
      rw [split, List.length_append] at shorter
      omega
    · have trimmed := trimmed_loweredChars keyword
      rw [whole]
      exact ⟨⟨trimmed.first, plain⟩, trimmed.last, toLower_loweredChars keyword⟩
  · rintro ⟨bare, last, lower⟩
    have lowered : loweredChars keyword = keyword.toList := by
      have same := loweredChars_ofList ⟨bare.blank, last⟩ lower
      rwa [String.ofList_toList] at same
    rcases normalKeyword_cases keyword with ⟨front, member, split⟩ | ⟨whole, _⟩
    · rw [lowered] at split
      exact absurd ⟨_, split.symm⟩ (bare.named front member)
    · exact String.toList_injective (whole.trans lowered)

theorem normalKeyword_suffix (keyword : String) :
    (normalKeyword keyword).toList <:+ loweredChars keyword := by
  rcases normalKeyword_cases keyword with ⟨front, _, split⟩ | ⟨whole, _⟩
  · exact ⟨front, split.symm⟩
  · rw [whole]

theorem normalKeyword_fixed_iff {keyword : String} :
    normalKeyword (normalKeyword keyword) = normalKeyword keyword ↔
      Bare (normalKeyword keyword).toList := by
  obtain ⟨front, split⟩ := normalKeyword_suffix keyword
  rw [normalKeyword_eq_self_iff, and_iff_left_iff_imp]
  intro _
  constructor
  · intro c found
    apply (trimmed_loweredChars keyword).last
    rw [← split, List.getLast?_append, Option.mem_def.mp found, Option.some_or]
    rfl
  · intro c member
    apply toLower_loweredChars keyword
    rw [← split]
    exact List.mem_append_right front member

theorem nested_iff {keyword : String} : Nested keyword ↔ ¬Bare (normalKeyword keyword).toList := by
  rcases normalKeyword_cases keyword with ⟨front, member, split⟩ | ⟨whole, plain⟩
  · constructor
    · rintro ⟨other, known, rest, again, crowded⟩
      rwa [namespace_unique known member (again.symm.trans split)] at crowded
    · intro crowded
      exact ⟨front, member, _, split, crowded⟩
  · constructor
    · rintro ⟨other, known, rest, again, _⟩
      exact absurd ⟨rest, again.symm⟩ (plain other known)
    · intro crowded
      rw [whole] at crowded
      exact absurd ⟨(trimmed_loweredChars keyword).first, plain⟩ crowded

namespace TypeRegistry

variable {registry : TypeRegistry} {keywords : List String} {key : String} {codec : Codec}
  {calls : List Registration}

def Distinct (registry : TypeRegistry) : Prop := (registry.codecs.map Prod.fst).Nodup

theorem Distinct.put (distinct : registry.Distinct) (added : Codec) (keyword : String) :
    (registry.put added keyword).Distinct := by
  have kept : ((registry.codecs.filter (fun entry => entry.1 ≠ normalKeyword keyword)).map
      Prod.fst).Nodup := distinct.sublist (List.filter_sublist.map Prod.fst)
  rw [Distinct, TypeRegistry.put, assign, List.map_append, List.nodup_append']
  refine ⟨kept, List.nodup_singleton _, ?_⟩
  intro other before last
  obtain ⟨entry, member, rfl⟩ := List.mem_map.mp before
  rw [List.map_singleton, List.mem_singleton] at last
  simpa [last] using List.of_mem_filter member

theorem Distinct.insert (distinct : registry.Distinct) (keywords : List String) (added : Codec) :
    (registry.insert keywords added).Distinct := by
  induction keywords generalizing registry with
  | nil => exact distinct
  | cons keyword keywords ih => exact ih (distinct.put added keyword)

theorem Distinct.inserted {types : List ColumnType} (distinct : registry.Distinct) :
    Distinct (types.foldl (fun registry type =>
      registry.insert (type.keyword :: type.aliases) type.codec) registry) := by
  induction types generalizing registry with
  | nil => exact distinct
  | cons type types ih => exact ih (distinct.insert (type.keyword :: type.aliases) type.codec)

theorem distinct_standard : standard.Distinct := by
  have empty : TypeRegistry.empty.Distinct := List.nodup_nil
  rw [standard]
  exact empty.inserted

theorem distinct_ofCalls (calls : List Registration) : (ofCalls calls).Distinct := by
  induction calls using List.reverseRecOn with
  | nil =>
    rw [ofCalls, List.foldl_nil]
    exact distinct_standard
  | append_singleton calls call ih =>
    rw [ofCalls_concat]
    by_cases free : call.Free
    · rw [after_of_free free]
      exact ih.insert call.keywords call.codec
    · rwa [after_of_not_free free]

theorem resolve_eq_ok (distinct : registry.Distinct) {keyword : String} :
    registry.resolve keyword = .ok codec ↔ (normalKeyword keyword, codec) ∈ registry.codecs := by
  rw [← Association.lookup_eq_some_iff distinct, resolve]
  cases registry.codecs.lookup (normalKeyword keyword) <;> simp

theorem mem_keywords : key ∈ registry.keywords ↔ ∃ codec, (key, codec) ∈ registry.codecs := by
  rw [TypeRegistry.keywords, List.mem_mergeSort, List.mem_map]
  constructor
  · rintro ⟨⟨stored, codec⟩, member, rfl⟩
    exact ⟨codec, member⟩
  · rintro ⟨codec, member⟩
    exact ⟨(key, codec), member, rfl⟩

/-- The calls that were accepted, and the standard types, list what a registry stores. -/
def Listed (calls : List Registration) (spelling : String) : Prop :=
  (∃ type : ColumnType, spelling ∈ type.names) ∨
    ∃ place call, AcceptedAt calls place call ∧ spelling ∈ call.keywords

theorem Listed.concat {spelling : String} (listed : Listed calls spelling) (call : Registration) :
    Listed (calls ++ [call]) spelling := by
  rcases listed with named | ⟨place, earlier, accepted, member⟩
  · exact Or.inl named
  · obtain ⟨found, free⟩ := acceptedAt_iff.mp accepted
    have inside := (List.getElem?_eq_some_iff.mp found).1
    refine Or.inr ⟨place, earlier, acceptedAt_iff.mpr ⟨?_, free⟩, member⟩
    rw [List.getElem?_append_left inside, found]

theorem exists_name_of_lookup {types : List ColumnType}
    (stored : (types.foldl (fun registry type =>
      registry.insert (type.keyword :: type.aliases) type.codec) registry).codecs.lookup key ≠ none)
    (fresh : registry.codecs.lookup key = none) : ∃ type ∈ types, key ∈ type.names := by
  by_contra absent
  push Not at absent
  rw [lookup_inserted registry absent] at stored
  exact stored fresh

theorem exists_listed (stored : (ofCalls calls).codecs.lookup key ≠ none) :
    ∃ spelling, Listed calls spelling ∧ normalKeyword spelling = key := by
  induction calls using List.reverseRecOn with
  | nil =>
    rw [ofCalls, List.foldl_nil, standard] at stored
    obtain ⟨type, _, named⟩ := exists_name_of_lookup stored rfl
    exact ⟨key, Or.inl ⟨type, named⟩, type.names_normal key named⟩
  | append_singleton calls call ih =>
    rw [ofCalls_concat] at stored
    by_cases free : call.Free
    · rw [after_of_free free, lookup_insert] at stored
      split_ifs at stored with last
      · obtain ⟨spelling, member, rfl⟩ := List.mem_map.mp last
        have accepted : AcceptedAt (calls ++ [call]) calls.length call :=
          acceptedAt_iff.mpr ⟨List.getElem?_concat_length, free⟩
        exact ⟨spelling, Or.inr ⟨calls.length, call, accepted, member⟩, rfl⟩
      · obtain ⟨spelling, listed, same⟩ := ih stored
        exact ⟨spelling, listed.concat call, same⟩
    · rw [after_of_not_free free] at stored
      obtain ⟨spelling, listed, same⟩ := ih stored
      exact ⟨spelling, listed.concat call, same⟩

theorem not_nested_of_named {type : ColumnType} {spelling : String} (named : spelling ∈ type.names) :
    ¬Nested spelling := by
  have normal := type.names_normal spelling named
  rw [nested_iff, ← normalKeyword_fixed_iff, normal]
  exact not_not_intro normal

/-- A call that succeeds stores its codec under the normal forms of what it lists. -/
theorem mem_ofCalls_concat (calls : List Registration) {call : Registration} (free : call.Free)
    {spelling : String} (member : spelling ∈ call.keywords) :
    (normalKeyword spelling, call.codec) ∈ (ofCalls (calls ++ [call])).codecs := by
  rw [← resolve_eq_ok (distinct_ofCalls _), ofCalls_concat]
  exact resolve_after_of_lists free (List.mem_map_of_mem member)

/-- Normalising twice is normalising once but for a namespace in front of a blank or of another
namespace. A registry lists the normal forms that it stores codecs under, each of some keyword that was
listed. Every keyword with that normal form resolves to the codec; the form itself does so when it
begins with neither a blank nor a namespace, and otherwise leads to what is stored under its own normal
form. As long as no call that succeeds lists such a keyword, all keywords of the registry resolve to
the codecs stored under them. -/
theorem keywords_resolve (calls : List Registration) :
    let registry := ofCalls calls
    (∀ keyword, normalKeyword (normalKeyword keyword) = normalKeyword keyword ↔ ¬Nested keyword) ∧
    (∀ key, key ∈ registry.keywords ↔ ∃ codec, (key, codec) ∈ registry.codecs) ∧
    (∀ key codec, (key, codec) ∈ registry.codecs →
      (∃ spelling, Listed calls spelling ∧ normalKeyword spelling = key) ∧
      (∀ spelling, normalKeyword spelling = key → registry.resolve spelling = .ok codec) ∧
      (normalKeyword key = key ↔ Bare key.toList) ∧
      (Bare key.toList → registry.resolve key = .ok codec) ∧
      ∀ other, registry.resolve key = .ok other ↔ (normalKeyword key, other) ∈ registry.codecs) ∧
    ((∀ place call, AcceptedAt calls place call → ∀ spelling ∈ call.keywords, ¬Nested spelling) →
      ∀ key codec, (key, codec) ∈ registry.codecs → registry.resolve key = .ok codec) := by
  intro registry
  have distinct : registry.Distinct := distinct_ofCalls calls
  have origin : ∀ key codec, (key, codec) ∈ registry.codecs →
      ∃ spelling, Listed calls spelling ∧ normalKeyword spelling = key := by
    intro key codec stored
    apply exists_listed
    rw [(Association.lookup_eq_some_iff distinct).mpr stored]
    exact Option.some_ne_none codec
  refine ⟨fun keyword => ?_, fun key => mem_keywords, fun key codec stored => ?_,
    fun plain key codec stored => ?_⟩
  · rw [normalKeyword_fixed_iff, nested_iff, not_not]
  · obtain ⟨spelling, listed, rfl⟩ := origin key codec stored
    have own : ∀ other, normalKeyword other = normalKeyword spelling →
        registry.resolve other = .ok codec := by
      intro other same
      rw [resolve_eq_ok distinct, same]
      exact stored
    exact ⟨⟨spelling, listed, rfl⟩, own, normalKeyword_fixed_iff,
      fun bare => own _ (normalKeyword_fixed_iff.mpr bare), fun other => resolve_eq_ok distinct⟩
  · obtain ⟨spelling, listed, rfl⟩ := origin key codec stored
    have flat : ¬Nested spelling := by
      rcases listed with ⟨type, named⟩ | ⟨place, call, accepted, member⟩
      · exact not_nested_of_named named
      · exact plain place call accepted spelling member
    rw [nested_iff, not_not] at flat
    rw [resolve_eq_ok distinct, normalKeyword_fixed_iff.mpr flat]
    exact stored

def spacedCall : Registration := ⟨["System. Percent"], .integer .byte⟩

def doubledCall : Registration := ⟨["system.system.int"], .string⟩

/-- A registry lists a keyword that it does not know, or that it takes for another one: one with a blank
behind the namespace, and one with the namespace twice. -/
theorem keywords_lost :
    normalKeyword (normalKeyword "System. Percent") ≠ normalKeyword "System. Percent" ∧
    " percent" ∈ (ofCalls [spacedCall]).keywords ∧
    (ofCalls [spacedCall]).resolve " percent" = .error (.unknownType " percent") ∧
    ("system.int", Codec.string) ∈ (ofCalls [doubledCall]).codecs ∧
    (ofCalls [doubledCall]).resolve "system.int" = .ok (.integer .int) := by
  have spaced : normalKeyword "System. Percent" = " percent" := by decide +kernel
  have doubled : normalKeyword "system.system.int" = "system.int" := by decide +kernel
  have inner : normalKeyword "system.int" = "int" := by decide +kernel
  have spacedFree : spacedCall.Free := by
    intro listed member
    rw [List.mem_singleton.mp member, spaced]
    decide
  have doubledFree : doubledCall.Free := by
    intro listed member
    rw [List.mem_singleton.mp member, doubled]
    decide
  have spacedStored := mem_ofCalls_concat [] spacedFree (List.mem_singleton_self _)
  have doubledStored := mem_ofCalls_concat [] doubledFree (List.mem_singleton_self _)
  rw [spaced] at spacedStored
  rw [doubled] at doubledStored
  refine ⟨by decide +kernel, mem_keywords.mpr ⟨_, spacedStored⟩, ?_, doubledStored, ?_⟩
  · have unlisted : ∀ type ∈ ColumnType.all, normalKeyword " percent" ∉ type.names := by
      decide +kernel
    have quiet : spacedCall.Free → ¬spacedCall.Lists " percent" := by
      intro _
      rw [Registration.Lists]
      decide +kernel
    rw [ofCalls, List.foldl_cons, List.foldl_nil, resolve_after_of_quiet quiet]
    exact resolve_standard_unknown (fun type => unlisted type type.mem_all)
  · have named : normalKeyword "system.int" ∈ (ColumnType.integer .int).names := by
      rw [inner]
      decide
    have quiet : doubledCall.Free → ¬doubledCall.Lists "system.int" := by
      intro _
      rw [Registration.Lists]
      decide +kernel
    rw [ofCalls, List.foldl_cons, List.foldl_nil, resolve_after_of_quiet quiet]
    exact resolve_standard named

end TypeRegistry

end GameSheet
