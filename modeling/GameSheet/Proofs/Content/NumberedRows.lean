import GameSheet.Content.Rows
import GameSheet.Proofs.Associations
import GameSheet.Proofs.Table.FieldGroups

/-!
Rows that are taken from numbered fields. The weapons and the armor of a ship end at the first slot
that has none, in the order of the slot numbers; a parameter is the number of a field with the value
of that same field. Columns in another order give the same rows as long as no number comes twice.
-/

namespace GameSheet

/-- A run of positive identifiers at the front, such that no longer one is there. -/
structure LeadingRun (all run : List Int) : Prop where
  front : run <+: all
  positive : ∀ id ∈ run, 0 < id
  longest : ∀ other, other <+: all → (∀ id ∈ other, 0 < id) → other <+: run

theorem leadingRun_takeWhile (all : List Int) : LeadingRun all (all.takeWhile (0 < ·)) := by
  refine ⟨List.takeWhile_prefix _, fun id member => by simpa using List.mem_takeWhile_imp member, ?_⟩
  rintro other ⟨rest, rfl⟩ positive
  rw [List.takeWhile_append_of_pos (by simpa using positive)]
  exact List.prefix_append other _

theorem leadingRun_iff {all run : List Int} : LeadingRun all run ↔ all.takeWhile (0 < ·) = run := by
  constructor
  · -- Of two longest runs each is in front of the other.
    intro given
    have taken := leadingRun_takeWhile all
    have within := given.longest _ taken.front taken.positive
    have around := taken.longest _ given.front given.positive
    exact within.eq_of_length_le around.length_le
  · rintro rfl
    exact leadingRun_takeWhile all

theorem Target.take_int_eq_some_iff {value : Value} {n : Number.Bounded .int} :
    int.take value = some n ↔ value = .integer .int n := by
  cases value with
  | integer kind m => cases kind <;> simp [int]
  | _ => simp [int]

theorem Target.take_string_eq_some_iff {value : Value} {text : String} :
    string.take value = some text ↔ value = .string text := by
  cases value <;> simp [string, Value.asString]

namespace Record

variable {record other : Record} {stem : String}

def Leads (record : Record) (stem : String) (ids : List Int) : Prop :=
  ∃ slots values, record.Slots stem slots ∧
    List.Forall₂ (fun slot n => slot.value = .integer .int n) slots values ∧
    LeadingRun (values.map (fun n => n.toInt)) ids

/-- One parameter for each slot, in the order of the slots: its number with its own text. -/
def Parametrizes (record : Record) (stem : String) (params : List (Nat × String)) : Prop :=
  ∃ slots, record.Slots stem slots ∧
    List.Forall₂ (fun slot param => slot.number = param.1 ∧ slot.value = .string param.2) slots params

theorem leadingIds_eq_ok {ids : List Int} :
    record.leadingIds stem = .ok ids ↔ record.Leads stem ids := by
  simp only [leadingIds, Traversal.map_eq_ok, groupAs_eq_ok, Target.take_int_eq_some_iff,
    ← leadingRun_iff]
  constructor
  · rintro ⟨values, held, run⟩
    exact ⟨_, values, record.slots_groupSlots stem, held, run⟩
  · rintro ⟨slots, values, listed, held, run⟩
    rw [listed.unique (record.slots_groupSlots stem)] at held
    exact ⟨values, held, run⟩

/-- The numbers come from one pass over the group and the texts from another. -/
theorem parametrizes_iff {params : List (Nat × String)} :
    record.Parametrizes stem params ↔ ∃ texts, record.groupAs .string stem = .ok texts ∧
      ((record.group stem).map Prod.fst).zip texts = params := by
  have numbers : (record.group stem).map Prod.fst = (record.groupSlots stem).map Slot.number := by
    rw [group_eq, List.map_map]
    rfl
  simp only [groupAs_eq_ok, Target.take_string_eq_some_iff, numbers]
  rw [Traversal.forall₂_zip]
  constructor
  · rintro ⟨slots, listed, held⟩
    rwa [listed.unique (record.slots_groupSlots stem)] at held
  · intro held
    exact ⟨_, record.slots_groupSlots stem, held⟩

/-! Columns in another order -/

structure Reorders (record other : Record) : Prop where
  id : other.id = record.id
  fields : record.fields.Perm other.fields

def DistinctNumbers (record : Record) (stem : String) : Prop :=
  ((record.group stem).map Prod.fst).Nodup

theorem get?_eq_bind (record : Record) (name : String) : record.get? name =
    (record.names.findIdx? (· = name)).bind (fun position => record.values[position]?) := by
  rw [get?]
  cases record.names.findIdx? (· = name) <;> rfl

theorem get?_eq_lookup (record : Record) (name : String) :
    record.get? name = record.fields.lookup name := by
  obtain ⟨id, names, values⟩ := record
  simp only [get?_eq_bind, fields]
  induction names generalizing values with
  | nil => rfl
  | cons first names ih =>
    cases values with
    | nil => simp
    | cons value values =>
      rw [List.zip_cons_cons, Association.lookup_cons, ← ih, List.findIdx?_cons]
      by_cases same : first = name
      · simp [same]
      · simp [same, Ne.symm same, Option.bind_map]

namespace Reorders

theorem group (reorders : record.Reorders other)
    (distinct : record.DistinctNumbers stem) : other.group stem = record.group stem :=
  group_reordered reorders.fields distinct

theorem groupAs {α : Type} (reorders : record.Reorders other) (target : Target α)
    (distinct : record.DistinctNumbers stem) :
    other.groupAs target stem = record.groupAs target stem := by
  rw [Record.groupAs, Record.groupAs, reorders.group distinct, reorders.id]

theorem leadingIds (reorders : record.Reorders other)
    (distinct : record.DistinctNumbers stem) :
    other.leadingIds stem = record.leadingIds stem := by
  rw [Record.leadingIds, Record.leadingIds, reorders.groupAs .int distinct]

theorem field {α : Type} (reorders : record.Reorders other)
    (distinct : (record.fields.map Prod.fst).Nodup) (target : Target α) (name : String) :
    other.field target name = record.field target name := by
  have same : other.get? name = record.get? name := by
    rw [get?_eq_lookup, get?_eq_lookup, Association.lookup_of_perm reorders.fields distinct]
  rw [Record.field, Record.field, same, reorders.id]

theorem int (reorders : record.Reorders other) (distinct : (record.fields.map Prod.fst).Nodup)
    (name : String) : other.int name = record.int name := by
  rw [Record.int, Record.int, reorders.field distinct]

end Reorders

/-! Rows -/

theorem aircraft_eq_ok {row : AircraftRow} : AircraftRow.ofRecord record = .ok row ↔
    row.id = record.id.toInt ∧ record.int "ThrusterId" = .ok row.thrusterId ∧
      record.Leads "WeaponId" row.weaponIds ∧ record.Leads "ArmorId" row.armorIds ∧
      record.int "DeadEffectId" = .ok row.deadEffectId ∧
      record.int "DeadSoundId" = .ok row.deadSoundId := by
  simp only [AircraftRow.ofRecord, Traversal.bind_eq_ok, leadingIds_eq_ok]
  constructor
  · rintro ⟨thrusterId, thruster, weaponIds, weapons, armorIds, armor, effectId, effect, soundId,
      sound, done⟩
    obtain rfl := Except.ok.inj done
    exact ⟨rfl, thruster, weapons, armor, effect, sound⟩
  · obtain ⟨id, thrusterId, weaponIds, armorIds, effectId, soundId⟩ := row
    rintro ⟨rfl, thruster, weapons, armor, effect, sound⟩
    exact ⟨thrusterId, thruster, weaponIds, weapons, armorIds, armor, effectId, effect, soundId, sound,
      rfl⟩

theorem upgrade_eq_ok {row : UpgradeRow} : UpgradeRow.ofRecord record = .ok row ↔
    row.id = record.id.toInt ∧ record.Parametrizes "Param" row.params ∧
      record.field .string "Name" = .ok row.name ∧
      record.field .string "Description" = .ok row.description ∧
      record.int "Rarity" = .ok row.rarity ∧
      record.field .string "TypeS" = .ok row.typeSelector := by
  simp only [UpgradeRow.ofRecord, Traversal.bind_eq_ok, parametrizes_iff]
  constructor
  · rintro ⟨texts, params, name, named, description, described, rarity, rare, selector, selected, done⟩
    obtain rfl := Except.ok.inj done
    exact ⟨rfl, ⟨texts, params, rfl⟩, named, described, rare, selected⟩
  · obtain ⟨id, name, description, rarity, selector, params⟩ := row
    rintro ⟨rfl, ⟨texts, each, rfl⟩, named, described, rare, selected⟩
    exact ⟨texts, each, name, named, description, described, rarity, rare, selector, selected, rfl⟩

theorem Reorders.aircraft (reorders : record.Reorders other)
    (distinct : (record.fields.map Prod.fst).Nodup)
    (weapons : record.DistinctNumbers "WeaponId")
    (armor : record.DistinctNumbers "ArmorId") :
    AircraftRow.ofRecord other = AircraftRow.ofRecord record := by
  simp only [AircraftRow.ofRecord, reorders.int distinct, reorders.leadingIds weapons,
    reorders.leadingIds armor, reorders.id]

theorem Reorders.upgrade (reorders : record.Reorders other)
    (distinct : (record.fields.map Prod.fst).Nodup)
    (params : record.DistinctNumbers "Param") :
    UpgradeRow.ofRecord other = UpgradeRow.ofRecord record := by
  simp only [UpgradeRow.ofRecord, reorders.group params, reorders.groupAs .string params,
    reorders.field distinct, reorders.int distinct, reorders.id]

/-- A group has one entry for each of its fields. The weapons and the armor of a ship are the longest
runs of positive identifiers from the lowest number up, and the parameters of an upgrade are the numbers
with the texts of their own fields. Where no number comes twice, nothing depends on the order of the
columns. -/
theorem numbered_rows (record : Record) :
    (∀ stem, ∃ slots, record.Slots stem slots ∧ record.group stem = slots.map Slot.entry) ∧
    (∀ row, AircraftRow.ofRecord record = .ok row ↔
      row.id = record.id.toInt ∧ record.int "ThrusterId" = .ok row.thrusterId ∧
        record.Leads "WeaponId" row.weaponIds ∧ record.Leads "ArmorId" row.armorIds ∧
        record.int "DeadEffectId" = .ok row.deadEffectId ∧
        record.int "DeadSoundId" = .ok row.deadSoundId) ∧
    (∀ row, UpgradeRow.ofRecord record = .ok row ↔
      row.id = record.id.toInt ∧ record.Parametrizes "Param" row.params ∧
        record.field .string "Name" = .ok row.name ∧
        record.field .string "Description" = .ok row.description ∧
        record.int "Rarity" = .ok row.rarity ∧
        record.field .string "TypeS" = .ok row.typeSelector) ∧
    ∀ other, record.Reorders other →
      (∀ stem, record.DistinctNumbers stem →
        other.group stem = record.group stem ∧ other.leadingIds stem = record.leadingIds stem) ∧
      ((record.fields.map Prod.fst).Nodup →
        (record.DistinctNumbers "WeaponId" → record.DistinctNumbers "ArmorId" →
          AircraftRow.ofRecord other = AircraftRow.ofRecord record) ∧
        (record.DistinctNumbers "Param" →
          UpgradeRow.ofRecord other = UpgradeRow.ofRecord record)) := by
  refine ⟨fun stem => ⟨_, record.slots_groupSlots stem, record.group_eq stem⟩,
    fun _ => aircraft_eq_ok, fun _ => upgrade_eq_ok, ?_⟩
  intro other reorders
  refine ⟨fun stem distinct => ⟨reorders.group distinct, reorders.leadingIds distinct⟩, ?_⟩
  intro distinct
  exact ⟨reorders.aircraft distinct, reorders.upgrade distinct⟩

/-- The weapon slots are 10, 2 and 3, and slot 3 is empty; there is no armor. -/
def fighterFields : List (String × Value) :=
  [("WeaponId10", .integer .int (.ofPattern .int 40002)),
    ("DeadSoundId", .integer .int (.ofPattern .int 3)),
    ("WeaponId2", .integer .int (.ofPattern .int 40000)),
    ("ThrusterId", .integer .int (.ofPattern .int 1)),
    ("WeaponId3", .integer .int (.ofPattern .int 0)),
    ("DeadEffectId", .integer .int (.ofPattern .int 2))]

def fighter (fields : List (String × Value)) : Record :=
  ⟨.ofPattern .int 9, fields.map Prod.fst, fields.map Prod.snd⟩

theorem numbered_rows_fighter :
    (fighter fighterFields).Reorders (fighter fighterFields.reverse) ∧
      ((fighter fighterFields).fields.map Prod.fst).Nodup ∧
      (fighter fighterFields).DistinctNumbers "WeaponId" ∧
      (fighter fighterFields).DistinctNumbers "ArmorId" ∧
      AircraftRow.ofRecord (fighter fighterFields.reverse) = .ok ⟨9, 1, [40000], [], 2, 3⟩ := by
  have reorders : (fighter fighterFields).Reorders (fighter fighterFields.reverse) :=
    ⟨rfl, (List.reverse_perm _).symm⟩
  have distinct : ((fighter fighterFields).fields.map Prod.fst).Nodup := by decide
  have weapons : (fighter fighterFields).DistinctNumbers "WeaponId" := by
    have numbers : ((fighter fighterFields).group "WeaponId").map Prod.fst = [2, 3, 10] := by cbv
    rw [DistinctNumbers, numbers]
    decide
  have armor : (fighter fighterFields).DistinctNumbers "ArmorId" := by
    have numbers : ((fighter fighterFields).group "ArmorId").map Prod.fst = [] := by cbv
    rw [DistinctNumbers, numbers]
    decide
  refine ⟨reorders, distinct, weapons, armor, ?_⟩
  obtain ⟨_, _, _, reordered⟩ := numbered_rows (fighter fighterFields)
  rw [((reordered _ reorders).2 distinct).1 weapons armor]
  cbv

end Record

end GameSheet
