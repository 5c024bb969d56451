import Mathlib

/-!
Results of computations that may fail, and of one that runs over a list: it succeeds where every
element does, and otherwise it fails as the first element that fails does.
-/

namespace GameSheet.Traversal

variable {ε ε' α β : Type}

theorem bind_eq_ok {result : Except ε α} {next : α → Except ε β} {value : β} :
    (result >>= next) = .ok value ↔ ∃ first, result = .ok first ∧ next first = .ok value := by
  cases result <;> simp [bind, Except.bind]

theorem map_eq_ok {result : Except ε α} {f : α → β} {value : β} :
    result.map f = .ok value ↔ ∃ first, result = .ok first ∧ f first = value := by
  cases result <;> simp [Except.map]

theorem map_eq_error {result : Except ε α} {f : α → β} {fault : ε} :
    result.map f = .error fault ↔ result = .error fault := by
  cases result <;> simp [Except.map]

theorem mapError_eq_ok {result : Except ε α} {f : ε → ε'} {value : α} :
    result.mapError f = .ok value ↔ result = .ok value := by
  cases result <;> simp [Except.mapError]

theorem mapError_eq_error {result : Except ε α} {f : ε → ε'} {fault : ε'} :
    result.mapError f = .error fault ↔ ∃ cause, result = .error cause ∧ f cause = fault := by
  cases result <;> simp [Except.mapError]

variable {f : α → Except ε β}

theorem mapM_eq_ok {items : List α} {values : List β} :
    items.mapM f = .ok values ↔ List.Forall₂ (fun item value => f item = .ok value) items values := by
  induction items generalizing values with
  | nil =>
    rw [List.mapM_nil, List.forall₂_nil_left_iff]
    exact ⟨fun same => (Except.ok.inj same).symm, fun empty => by rw [empty]; rfl⟩
  | cons item items ih =>
    rw [List.mapM_cons, bind_eq_ok]
    constructor
    · intro given
      rcases given with ⟨value, first, rest⟩
      obtain ⟨later, done, same⟩ := bind_eq_ok.mp rest
      rw [← Except.ok.inj same]
      exact List.Forall₂.cons first (ih.mp done)
    · intro related
      cases related with
      | cons first done =>
        refine ⟨_, first, ?_⟩
        rw [ih.mpr done]
        rfl

theorem mapM_vector_eq_ok {count : Nat} {items : Vector α count} {values : Vector β count} :
    items.mapM f = .ok values ↔
      List.Forall₂ (fun item value => f item = .ok value) items.toList values.toList :=
  calc items.mapM f = .ok values
      ↔ Vector.toArray <$> items.mapM f = Vector.toArray <$> (.ok values : Except ε (Vector β count)) :=
        Vector.map_toArray_inj.symm
    _ ↔ items.toArray.mapM f = .ok values.toArray := by
        rw [Vector.toArray_mapM]
        rfl
    _ ↔ Array.toList <$> items.toArray.mapM f =
          Array.toList <$> (.ok values.toArray : Except ε (Array β)) := Array.map_toList_inj.symm
    _ ↔ items.toList.mapM f = .ok values.toList := by
        rw [Array.toList_mapM]
        rfl
    _ ↔ _ := mapM_eq_ok

theorem exists_mapM {items : List α} :
    (∃ values, items.mapM f = .ok values) ↔ ∀ item ∈ items, ∃ value, f item = .ok value := by
  simp only [mapM_eq_ok]
  induction items with
  | nil => simp
  | cons item items ih =>
    rw [List.forall_mem_cons, ← ih]
    constructor
    · intro given
      rcases given with ⟨_, first | ⟨first, rest⟩⟩
      exact ⟨⟨_, first⟩, _, rest⟩
    · intro given
      rcases given with ⟨⟨value, first⟩, values, rest⟩
      exact ⟨value :: values, .cons first rest⟩

theorem mapM_range {f : Nat → Except ε β} {count index : Nat} {values : List β} {value : β}
    (done : (List.range count).mapM f = .ok values) (found : values[index]? = some value) :
    index < count ∧ f index = .ok value := by
  have each := mapM_eq_ok.mp done
  obtain ⟨inside, rfl⟩ := List.getElem?_eq_some_iff.mp found
  have place : index < (List.range count).length := by rwa [each.length_eq]
  have related := each.get place inside
  rw [List.get_eq_getElem, List.get_eq_getElem, List.getElem_range] at related
  exact ⟨by rwa [List.length_range] at place, related⟩

theorem exists_of_forall₂ {related : α → β → Prop} {items : List α} {values : List β}
    (each : List.Forall₂ related items values) {value : β} (member : value ∈ values) :
    ∃ item ∈ items, related item value := by
  obtain ⟨position, inside, rfl⟩ := List.mem_iff_getElem.mp member
  have place : position < items.length := by rwa [each.length_eq]
  exact ⟨items[position], List.getElem_mem place, each.get place inside⟩

theorem exists_of_mapM {items : List α} {values : List β} (done : items.mapM f = .ok values)
    {value : β} (member : value ∈ values) : ∃ item ∈ items, f item = .ok value :=
  exists_of_forall₂ (mapM_eq_ok.mp done) member

theorem mapM_append_error {items more : List α} {item : α} {values : List β} {fault : ε}
    (done : items.mapM f = .ok values) (failed : f item = .error fault) :
    (items ++ item :: more).mapM f = .error fault := by
  rw [List.mapM_append, done, List.mapM_cons, failed]
  rfl

theorem mapM_eq_error {items : List α} {fault : ε} :
    items.mapM f = .error fault ↔ ∃ front item back, items = front ++ item :: back ∧
      (∀ earlier ∈ front, ∃ value, f earlier = .ok value) ∧ f item = .error fault := by
  constructor
  · intro given
    induction items with
    | nil => simp [pure, Except.pure] at given
    | cons item items ih =>
      rw [List.mapM_cons] at given
      cases first : f item with
      | error other =>
        rw [first] at given
        rw [Except.error.inj given] at first
        exact ⟨[], item, items, rfl, nofun, first⟩
      | ok value =>
        rw [first] at given
        cases rest : items.mapM f with
        | ok values => simp [rest, bind, Except.bind, pure, Except.pure] at given
        | error other =>
          simp only [rest, bind, Except.bind, Except.error.injEq] at given
          rw [given] at rest
          obtain ⟨front, last, back, rfl, earlier, failed⟩ := ih rest
          refine ⟨item :: front, last, back, rfl, ?_, failed⟩
          exact List.forall_mem_cons.mpr ⟨⟨value, first⟩, earlier⟩
  · intro given
    rcases given with ⟨front, item, back, rfl, earlier, failed⟩
    obtain ⟨values, done⟩ := exists_mapM.mpr earlier
    exact mapM_append_error done failed

theorem mapM_renamed {γ δ : Type} {g : γ → Except ε' δ} {place : α → γ} {onValue : β → δ}
    {onError : ε → ε'} {items : List α} (each : ∀ item ∈ items,
      g (place item) = ((f item).map onValue).mapError onError) :
    (items.map place).mapM g =
      ((items.mapM f).map (List.map onValue)).mapError onError := by
  induction items with
  | nil => rfl
  | cons item items ih =>
    rw [List.map_cons, List.mapM_cons, List.mapM_cons, each item List.mem_cons_self,
      ih (fun other member => each other (List.mem_cons_of_mem item member))]
    cases f item with
    | error fault => rfl
    | ok value => cases items.mapM f <;> rfl

@[simp] theorem toOption_ok (value : α) : (Except.ok value : Except ε α).toOption = some value := rfl

@[simp] theorem toOption_error (fault : ε) : (Except.error fault : Except ε α).toOption = none := rfl

theorem toOption_eq_some {result : Except ε α} {value : α} :
    result.toOption = some value ↔ result = .ok value := by
  cases result <;> simp

theorem toOption_bind_eq_some {result : Except ε α} {next : α → Option β} {value : β} :
    result.toOption.bind next = some value ↔ ∃ first, result = .ok first ∧ next first = some value := by
  simp only [Option.bind_eq_some_iff, toOption_eq_some]

/-- Leaving out values of a traversal is leaving out the elements that they come from. -/
theorem mapM_filter {γ : Type} {dropped : β → Bool} {place : β → γ} {items : List α} :
    (items.mapM f).toOption.map
        (fun values => (values.filter (fun value => !dropped value)).map place) =
      (items.filter (fun item => !(f item).toOption.any dropped)).mapM
        (fun item => (f item).toOption.map place) := by
  induction items with
  | nil => rfl
  | cons item items ih =>
    rw [List.mapM_cons, List.filter_cons]
    cases first : f item with
    | error fault =>
      simp only [toOption_error, Option.any_none, Bool.not_false, if_true, List.mapM_cons, first]
      rfl
    | ok value =>
      cases left : dropped value with
      | true =>
        simp only [toOption_ok, Option.any_some, left, Bool.not_true, Bool.false_eq_true, if_false]
        rw [← ih]
        cases items.mapM f with
        | error fault => rfl
        | ok values => simp [bind, Except.bind, pure, Except.pure, left]
      | false =>
        simp only [toOption_ok, Option.any_some, left, Bool.not_false, if_true, List.mapM_cons, first]
        rw [← ih]
        cases items.mapM f with
        | error fault => rfl
        | ok values => simp [bind, Except.bind, pure, Except.pure, left]

theorem mapM_map {m : Type → Type} [Monad m] [LawfulMonad m] {γ δ : Type} {g : γ → m δ} {h : α → m δ}
    {place : α → γ} {items : List α} (each : ∀ item ∈ items, g (place item) = h item) :
    (items.map place).mapM g = items.mapM h := by
  induction items with
  | nil => rw [List.map_nil, List.mapM_nil, List.mapM_nil]
  | cons item items ih =>
    rw [List.map_cons, List.mapM_cons, List.mapM_cons, each item List.mem_cons_self,
      ih (fun other member => each other (List.mem_cons_of_mem item member))]

theorem mapM_eq_filterMap {f g : α → Option β} {items : List α}
    (each : ∀ item ∈ items, ∃ value, f item = some value ∧ g item = some value) :
    items.mapM f = some (items.filterMap g) := by
  induction items with
  | nil => rfl
  | cons item items ih =>
    obtain ⟨value, done, kept⟩ := each item List.mem_cons_self
    rw [List.mapM_cons, done, ih (fun other member => each other (List.mem_cons_of_mem item member)),
      List.filterMap_cons_some kept]
    rfl

theorem map_eq_map_iff {γ : Type} {f : α → γ} {g : β → γ} {items : List α} {values : List β} :
    items.map f = values.map g ↔ List.Forall₂ (fun item value => f item = g value) items values := by
  rw [← List.forall₂_eq_eq_eq, List.forall₂_map_left_iff, List.forall₂_map_right_iff]

theorem forall₂_getElem? {related : α → β → Prop} {items : List α} {values : List β}
    (each : List.Forall₂ related items values) {position : Nat} {item : α}
    (found : items[position]? = some item) :
    ∃ value, values[position]? = some value ∧ related item value := by
  obtain ⟨inside, rfl⟩ := List.getElem?_eq_some_iff.mp found
  have place : position < values.length := by rwa [← each.length_eq]
  exact ⟨values[position], List.getElem?_eq_getElem place, each.get inside place⟩

theorem forall₂_imp_of_mem {related weaker : α → β → Prop} {items : List α} {values : List β}
    (each : List.Forall₂ related items values)
    (weaken : ∀ item ∈ items, ∀ value, related item value → weaker item value) :
    List.Forall₂ weaker items values := by
  have known := (List.forall₂_and_left items values).mpr ⟨fun item member => member, each⟩
  apply known.imp
  intro item value given
  exact weaken item given.1 value given.2

theorem forall₂_choose {γ : Type} {related : α → β → γ → Prop} {items : List α} {values : List β}
    (each : List.Forall₂ (fun item value => ∃ third, related item value third) items values) :
    ∃ chosen : List (β × γ), chosen.map Prod.fst = values ∧
      List.Forall₂ (fun item pair => related item pair.1 pair.2) items chosen := by
  induction each with
  | nil => exact ⟨[], rfl, List.Forall₂.nil⟩
  | cons first _ ih =>
    obtain ⟨third, holds⟩ := first
    obtain ⟨chosen, same, rest⟩ := ih
    exact ⟨(_, third) :: chosen, by rw [List.map_cons, same], List.Forall₂.cons holds rest⟩

theorem forall₂_zip {κ : Type} {key : α → κ} {related : α → β → Prop} {items : List α}
    {pairs : List (κ × β)} :
    (∃ values, List.Forall₂ related items values ∧ (items.map key).zip values = pairs) ↔
      List.Forall₂ (fun item pair => key item = pair.1 ∧ related item pair.2) items pairs := by
  constructor
  · rintro ⟨values, each, rfl⟩
    induction each with
    | nil => exact List.Forall₂.nil
    | cons first _ ih => exact List.Forall₂.cons ⟨rfl, first⟩ ih
  · intro each
    induction each with
    | nil => exact ⟨[], List.Forall₂.nil, rfl⟩
    | cons first _ ih =>
      obtain ⟨values, rest, rfl⟩ := ih
      exact ⟨_, List.Forall₂.cons first.2 rest, by rw [List.map_cons, List.zip_cons_cons, first.1]⟩

end GameSheet.Traversal
