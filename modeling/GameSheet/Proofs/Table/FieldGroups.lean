import GameSheet.Proofs.Number.LeadingZeros
import GameSheet.Proofs.Traversal
import GameSheet.Table.Record

/-!
Groups of numbered fields. Each field whose name is the stem and a number below 2^32 is in the group
once; the numbers ascend, and where two names have the same number the fields stay in the order of the
wire. A group that does not convert fails at its first field that does not, under the name that has the
number without leading zeros, which need not be the name of that field.
-/

namespace GameSheet

structure Slot where
  /-- Its position among the fields of the record. -/
  place : Nat
  name : String
  /-- The number behind the stem. -/
  number : Nat
  value : Value

namespace Slot

def entry (slot : Slot) : Nat × Value := (slot.number, slot.value)

def Before (slot other : Slot) : Prop :=
  slot.number < other.number ∨ slot.number = other.number ∧ slot.place < other.place

variable {slot other : Slot}

instance : Std.Asymm Slot.Before where
  asymm slot other before := by
    unfold Before at *
    omega

def upTo (slot other : Slot) : Bool := decide (slot.number ≤ other.number)

theorem upTo_iff : slot.upTo other = true ↔ slot.number ≤ other.number := decide_eq_true_iff

theorem upTo_trans (slot other last : Slot) (first : slot.upTo other = true)
    (second : other.upTo last = true) : slot.upTo last = true := by
  rw [upTo_iff] at *
  exact first.trans second

theorem upTo_total (slot other : Slot) : (slot.upTo other || other.upTo slot) = true := by
  rw [Bool.or_eq_true, upTo_iff, upTo_iff]
  exact Nat.le_total slot.number other.number

end Slot

/-- The name is the stem and a run of digits of a number below 2^32. -/
def Numbered (stem name : String) (number : Nat) : Prop :=
  ∃ digits, name.toList = stem.toList ++ digits ∧ Number.Digits digits ∧
    Nat.ofDigitChars 10 digits 0 = number ∧ number < 2 ^ 32

theorem Numbered.small {stem name : String} {number : Nat} (numbered : Numbered stem name number) :
    number < 2 ^ 32 := by
  obtain ⟨_, _, _, _, small⟩ := numbered
  exact small

def ShortestNumber (stem name : String) : Prop :=
  ∀ digits, name.toList = stem.toList ++ digits → Number.Shortest digits

theorem Text.digitsValue_eq {digits : List Char} (each : ∀ c ∈ digits, c.isDigit = true) :
    digitsValue digits = Nat.ofDigitChars 10 digits 0 := by
  rw [Nat.ofDigitChars_eq_foldl]
  apply List.foldl_ext
  intro total c member
  rw [digit?_of_isDigit (each c member), Option.getD_some, Nat.mul_comm]

theorem Text.isDigit_eq (c : Char) : isDigit c = c.isDigit := by
  rw [Bool.eq_iff_iff, isDigit_iff, isDigit_iff_toNat]

namespace Record

variable {record other : Record} {stem : String}

theorem groupNumber?_eq_some_iff {name : String} {number : Nat} :
    groupNumber? stem name = some number ↔ Numbered stem name number := by
  simp only [groupNumber?, Option.bind_eq_some_iff, Text.behind?_eq_some_iff,
    Option.ite_none_right_eq_some, Option.some.injEq, List.all_eq_true, Text.isDigit_eq, Numbered]
  apply exists_congr
  intro digits
  refine and_congr_right (fun _ => ?_)
  constructor
  · rintro ⟨⟨nonempty, each, small⟩, rfl⟩
    rw [Text.digitsValue_eq each] at small ⊢
    exact ⟨⟨nonempty, each⟩, rfl, small⟩
  · rintro ⟨run, rfl, small⟩
    rw [Text.digitsValue_eq run.each]
    exact ⟨⟨run.nonempty, run.each, small⟩, rfl⟩

structure Slots (record : Record) (stem : String) (slots : List Slot) : Prop where
  mem_iff : ∀ slot, slot ∈ slots ↔ record.fields[slot.place]? = some (slot.name, slot.value) ∧
    Numbered stem slot.name slot.number
  ordered : slots.Pairwise Slot.Before

/-- A record has one list of slots for a stem. -/
theorem Slots.unique {slots likewise : List Slot} (given : record.Slots stem slots)
    (again : record.Slots stem likewise) : slots = likewise :=
  given.ordered.eq_of_mem_iff again.ordered
    (fun slot => (given.mem_iff slot).trans (again.mem_iff slot).symm)

/-! The slots that a group is computed from -/

def slotAt? (stem : String) (field : (String × Value) × Nat) : Option Slot :=
  (groupNumber? stem field.1.1).map (fun number => ⟨field.2, field.1.1, number, field.1.2⟩)

def wireSlots (record : Record) (stem : String) : List Slot :=
  record.fields.zipIdx.filterMap (slotAt? stem)

def groupSlots (record : Record) (stem : String) : List Slot :=
  (record.wireSlots stem).mergeSort Slot.upTo

theorem slotAt?_eq_some_iff {field : (String × Value) × Nat} {slot : Slot} :
    slotAt? stem field = some slot ↔
      field = ((slot.name, slot.value), slot.place) ∧ Numbered stem slot.name slot.number := by
  rw [slotAt?, Option.map_eq_some_iff]
  constructor
  · rintro ⟨number, found, rfl⟩
    exact ⟨rfl, groupNumber?_eq_some_iff.mp found⟩
  · rintro ⟨rfl, numbered⟩
    exact ⟨slot.number, groupNumber?_eq_some_iff.mpr numbered, rfl⟩

theorem mem_wireSlots {slot : Slot} : slot ∈ record.wireSlots stem ↔
    record.fields[slot.place]? = some (slot.name, slot.value) ∧
      Numbered stem slot.name slot.number := by
  simp only [wireSlots, List.mem_filterMap, slotAt?_eq_some_iff, List.mem_zipIdx_iff_getElem?]
  constructor
  · rintro ⟨_, found, rfl, numbered⟩
    exact ⟨found, numbered⟩
  · rintro ⟨found, numbered⟩
    exact ⟨_, found, rfl, numbered⟩

theorem wireSlots_ordered (record : Record) (stem : String) :
    (record.wireSlots stem).Pairwise (fun slot other => slot.place < other.place) := by
  have places : record.fields.zipIdx.Pairwise (fun field later => field.2 < later.2) := by
    rw [← List.pairwise_map, List.zipIdx_map_snd]
    exact List.pairwise_lt_range' 1
  rw [wireSlots, List.pairwise_filterMap]
  apply places.imp
  intro field later before slot found behind there
  obtain ⟨rfl, _⟩ := slotAt?_eq_some_iff.mp found
  obtain ⟨rfl, _⟩ := slotAt?_eq_some_iff.mp there
  exact before

/-- Sorting leaves the slots of one number as they stand on the wire. -/
theorem filter_groupSlots (record : Record) (stem : String) (number : Nat) :
    (record.groupSlots stem).filter (fun slot => slot.number = number) =
      (record.wireSlots stem).filter (fun slot => slot.number = number) := by
  have alike : ((record.wireSlots stem).filter (fun slot => slot.number = number)).Pairwise
      (fun slot other => slot.upTo other = true) := by
    rw [List.pairwise_filter]
    apply List.pairwise_of_forall
    intro slot other first second
    rw [decide_eq_true_eq] at first second
    exact Slot.upTo_iff.mpr (first.trans second.symm).le
  have kept := List.sublist_mergeSort Slot.upTo_trans Slot.upTo_total alike List.filter_sublist
  have within := kept.filter (fun slot => slot.number = number)
  simp only [List.filter_filter, Bool.and_self] at within
  symm
  apply within.eq_of_length
  exact ((List.mergeSort_perm _ _).filter _).length_eq.symm

theorem slots_groupSlots (record : Record) (stem : String) :
    record.Slots stem (record.groupSlots stem) := by
  constructor
  · intro slot
    rw [groupSlots, List.mem_mergeSort, mem_wireSlots]
  · have sorted := List.pairwise_mergeSort Slot.upTo_trans Slot.upTo_total (record.wireSlots stem)
    rw [List.pairwise_iff_forall_sublist] at sorted ⊢
    intro slot other pair
    rcases Nat.lt_or_eq_of_le (Slot.upTo_iff.mp (sorted pair)) with less | same
    · exact Or.inl less
    · -- Two slots of one number stand as on the wire, where places ascend.
      have alike := pair.filter (fun member => member.number = other.number)
      rw [filter_groupSlots] at alike
      have wire : [slot, other].Sublist (record.wireSlots stem) :=
        (by simpa [same] using alike : [slot, other].Sublist _).trans List.filter_sublist
      exact Or.inr ⟨same, List.pairwise_iff_forall_sublist.mp (record.wireSlots_ordered stem) wire⟩

theorem group_eq (record : Record) (stem : String) :
    record.group stem = (record.groupSlots stem).map Slot.entry := by
  have entries : (record.wireSlots stem).map Slot.entry = record.fields.filterMap (fun field =>
      (groupNumber? stem field.1).map (fun number => (number, field.2))) := by
    have fields : record.fields = record.fields.zipIdx.map Prod.fst :=
      (List.zipIdx_map_fst 0 _).symm
    conv_rhs => rw [fields]
    rw [wireSlots, List.map_filterMap, List.filterMap_map]
    apply List.filterMap_congr
    intro field _
    rw [slotAt?, Option.map_map]
    rfl
  have sorted : (record.groupSlots stem).map Slot.entry =
      ((record.wireSlots stem).map Slot.entry).mergeSort (fun a b => decide (a.1 ≤ b.1)) :=
    List.map_mergeSort (fun _ _ _ _ => rfl)
  rw [sorted, entries]
  rfl

/-! Columns in another order -/

theorem group_ascending (record : Record) (stem : String) :
    (record.group stem).Pairwise (fun entry later => entry.1 ≤ later.1) := by
  rw [group_eq, List.pairwise_map]
  have sorted := List.pairwise_mergeSort Slot.upTo_trans Slot.upTo_total (record.wireSlots stem)
  exact sorted.imp Slot.upTo_iff.mp

theorem group_perm (reordered : record.fields.Perm other.fields) (stem : String) :
    (record.group stem).Perm (other.group stem) :=
  (List.mergeSort_perm _ _).trans ((reordered.filterMap _).trans (List.mergeSort_perm _ _).symm)

theorem group_reordered (reordered : record.fields.Perm other.fields)
    (distinct : ((record.group stem).map Prod.fst).Nodup) : other.group stem = record.group stem := by
  have same := group_perm reordered stem
  symm
  apply List.Perm.eq_of_pairwise _ (record.group_ascending stem) (other.group_ascending stem) same
  intro entry later member among before behind
  exact List.inj_on_of_nodup_map distinct member (same.mem_iff.mpr among) (Nat.le_antisymm before behind)

/-! Groups of one type -/

section Converted

variable {α : Type} {target : Target α} {fault : FieldError}

def mismatch (record : Record) (target : Target α) (stem : String) (slot : Slot) : FieldError :=
  .typeMismatch record.id.toInt s!"{stem}{slot.number}" target.expected slot.value.kind

def convertSlot (record : Record) (target : Target α) (stem : String) (slot : Slot) :
    Except FieldError α :=
  match target.take slot.value with
  | some taken => .ok taken
  | none => .error (record.mismatch target stem slot)

theorem convertSlot_eq_ok {slot : Slot} {taken : α} :
    record.convertSlot target stem slot = .ok taken ↔ target.take slot.value = some taken := by
  rw [convertSlot]
  cases target.take slot.value <;> simp

theorem convertSlot_eq_error {slot : Slot} : record.convertSlot target stem slot = .error fault ↔
    target.take slot.value = none ∧ record.mismatch target stem slot = fault := by
  rw [convertSlot]
  cases target.take slot.value <;> simp

theorem groupAs_eq (record : Record) (target : Target α) (stem : String) :
    record.groupAs target stem = (record.groupSlots stem).mapM (record.convertSlot target stem) := by
  rw [groupAs, group_eq]
  apply Traversal.mapM_map
  intro slot _
  rw [convertSlot]
  rfl

theorem groupAs_eq_ok {values : List α} : record.groupAs target stem = .ok values ↔
    List.Forall₂ (fun slot value => target.take slot.value = some value)
      (record.groupSlots stem) values := by
  simp only [groupAs_eq, Traversal.mapM_eq_ok, convertSlot_eq_ok]

theorem groupAs_eq_error : record.groupAs target stem = .error fault ↔
    ∃ front slot back, record.Slots stem (front ++ slot :: back) ∧
      (∀ earlier ∈ front, ∃ taken, target.take earlier.value = some taken) ∧
      target.take slot.value = none ∧ record.mismatch target stem slot = fault := by
  simp only [groupAs_eq, Traversal.mapM_eq_error, convertSlot_eq_ok, convertSlot_eq_error]
  have listed := record.slots_groupSlots stem
  constructor
  · rintro ⟨front, slot, back, split, given⟩
    exact ⟨front, slot, back, split ▸ listed, given⟩
  · rintro ⟨front, slot, back, slots, given⟩
    exact ⟨front, slot, back, listed.unique slots, given⟩

/-! The name that a mismatch tells -/

variable {name : String} {number : Nat}

theorem toList_reported (stem : String) (number : Nat) :
    s!"{stem}{number}".toList = stem.toList ++ Nat.toDigits 10 number := by
  rw [String.toList_append, Nat.toString_eq_ofList_toDigits, String.toList_ofList]
  rfl

theorem numbered_reported (stem : String) (small : number < 2 ^ 32) :
    Numbered stem s!"{stem}{number}" number :=
  ⟨Nat.toDigits 10 number, toList_reported stem number, Number.digits_toDigits number,
    Nat.ofDigitChars_ten_toDigits, small⟩

theorem shortest_reported (stem : String) (number : Nat) :
    ShortestNumber stem s!"{stem}{number}" := by
  intro digits split
  rw [toList_reported, List.append_cancel_left_eq] at split
  rw [← split]
  exact Number.shortest_toDigits number

theorem reported_eq_iff (numbered : Numbered stem name number) :
    s!"{stem}{number}" = name ↔ ShortestNumber stem name := by
  constructor
  · rintro rfl
    exact shortest_reported stem number
  · intro shortest
    obtain ⟨digits, split, run, rfl, _⟩ := numbered
    rw [← String.toList_inj, toList_reported, split,
      Number.toDigits_of_shortest run (shortest digits split)]

/-- A group fails exactly if some slot does not convert. It tells the identifier of the record and the
kind of the value in the first such slot; the name that it tells is the stem and the number of that
slot without leading zeros, so it is the name of that field just where the field has none. -/
theorem groupAs_mismatch (record : Record) (target : Target α) (stem : String) (fault : FieldError) :
    record.groupAs target stem = .error fault ↔ ∃ front slot back name,
      record.Slots stem (front ++ slot :: back) ∧
      (∀ earlier ∈ front, ∃ taken, target.take earlier.value = some taken) ∧
      target.take slot.value = none ∧
      fault = .typeMismatch record.id.toInt name target.expected slot.value.kind ∧
      Numbered stem name slot.number ∧ ShortestNumber stem name ∧
      (name = slot.name ↔ ShortestNumber stem slot.name) := by
  rw [groupAs_eq_error]
  constructor
  · rintro ⟨front, slot, back, slots, earlier, failed, rfl⟩
    obtain ⟨_, numbered⟩ := (slots.mem_iff slot).mp (by simp)
    exact ⟨front, slot, back, _, slots, earlier, failed, rfl, numbered_reported stem numbered.small,
      shortest_reported stem slot.number, reported_eq_iff numbered⟩
  · rintro ⟨front, slot, back, name, slots, earlier, failed, rfl, numbered, shortest, _⟩
    refine ⟨front, slot, back, slots, earlier, failed, ?_⟩
    rw [mismatch, (reported_eq_iff numbered).mpr shortest]

end Converted

def zeroed (second : String) : Record :=
  ⟨.ofPattern .int 9, ["P02", second, "Id"],
    [.string "two", .integer .int (.ofPattern .int 1), .integer .int (.ofPattern .int 9)]⟩

/-- A mismatch is told under the name of a field that does convert, or under one that no field has. -/
theorem mismatch_of_another :
    ((zeroed "P2").groupAs .int "P" = .error (.typeMismatch 9 "P2" "int" .string) ∧
      "P2" ∈ (zeroed "P2").names ∧
      ¬∃ value, ("P2", value) ∈ (zeroed "P2").fields ∧ Target.int.take value = none) ∧
    (zeroed "Q").groupAs .int "P" = .error (.typeMismatch 9 "P2" "int" .string) ∧
      "P2" ∉ (zeroed "Q").names := by
  refine ⟨⟨by cbv, by decide, ?_⟩, by cbv, by decide⟩
  rintro ⟨value, member, failed⟩
  have held : value = .integer .int (.ofPattern .int 1) := by
    simpa [zeroed, fields] using member
  rw [held] at failed
  cases failed

end Record

end GameSheet
