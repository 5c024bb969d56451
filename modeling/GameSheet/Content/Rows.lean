import GameSheet.Content.Kind
import GameSheet.Table.Record

/-!
The typed rows of each table kind and how they are taken from records. Fields are found by name; a
numbered group of identifiers ends at the first one that is not positive.
-/

namespace GameSheet

/-- A ship template: its thruster, weapons and armor in slot order, and what its death shows. -/
structure AircraftRow where
  id : Int
  thrusterId : Int
  weaponIds : List Int
  armorIds : List Int
  deadEffectId : Int
  deadSoundId : Int
  deriving DecidableEq, Repr

structure ArmorRow where
  id : Int
  maxHp : Int
  defense : Int
  deriving DecidableEq, Repr

structure AsteroidRow where
  id : Int
  maxHp : Int
  attack : Int
  speed : UInt32
  angularSpeed : UInt32
  deadEffectId : Int
  deadSoundId : Int
  deriving DecidableEq, Repr

structure EntityRow where
  id : Int
  assetName : String
  deriving DecidableEq, Repr

structure MusicRow where
  id : Int
  assetName : String
  deriving DecidableEq, Repr

structure SceneRow where
  id : Int
  assetName : String
  /-- Zero plays no music. -/
  backgroundMusicId : Int
  deriving DecidableEq, Repr

structure SoundRow where
  id : Int
  assetName : String
  priority : Int
  looped : Bool
  volume : UInt32
  /-- Zero is flat, one is fully spatial. -/
  spatialBlend : UInt32
  deriving DecidableEq, Repr

structure ThrusterRow where
  id : Int
  speed : UInt32
  deriving DecidableEq, Repr

structure UiFormRow where
  id : Int
  assetName : String
  uiGroupName : String
  allowMultiInstance : Bool
  pauseCoveredUiForm : Bool
  deriving DecidableEq, Repr

structure UiSoundRow where
  id : Int
  assetName : String
  priority : Int
  volume : UInt32
  deriving DecidableEq, Repr

structure WeaponRow where
  id : Int
  attack : Int
  /-- Seconds between shots. -/
  attackInterval : UInt32
  bulletId : Int
  bulletSpeed : UInt32
  bulletSoundId : Int
  deriving DecidableEq, Repr

structure UpgradeRow where
  id : Int
  name : String
  description : String
  rarity : Int
  /-- Selects the effect, which says what the parameters mean. -/
  typeSelector : String
  /-- Numbered parameters in ascending order. -/
  params : List (Nat × String)
  deriving DecidableEq, Repr

namespace UpgradeRow

/-- The parameter with a number. -/
def param? (row : UpgradeRow) (number : Nat) : Option String := row.params.lookup number

/-- The parameter at a place in the list. -/
def paramAt? (row : UpgradeRow) (index : Nat) : Option String := row.params[index]?.map Prod.snd

end UpgradeRow

namespace Record

def int (record : Record) (name : String) : Except FieldError Int :=
  (record.field .int name).map (fun n => n.toInt)

/-- The identifiers of a group up to the first that is not positive. -/
def leadingIds (record : Record) (stem : String) : Except FieldError (List Int) :=
  (record.groupAs .int stem).map (fun ids => (ids.map (fun n => n.toInt)).takeWhile (0 < ·))

end Record

namespace AircraftRow

def ofRecord (record : Record) : Except FieldError AircraftRow := do
  let thrusterId ← record.int "ThrusterId"
  let weaponIds ← record.leadingIds "WeaponId"
  let armorIds ← record.leadingIds "ArmorId"
  let deadEffectId ← record.int "DeadEffectId"
  let deadSoundId ← record.int "DeadSoundId"
  return ⟨record.id.toInt, thrusterId, weaponIds, armorIds, deadEffectId, deadSoundId⟩

end AircraftRow

def ArmorRow.ofRecord (record : Record) : Except FieldError ArmorRow := do
  let maxHp ← record.int "MaxHP"
  let defense ← record.int "Defense"
  return ⟨record.id.toInt, maxHp, defense⟩

def AsteroidRow.ofRecord (record : Record) : Except FieldError AsteroidRow := do
  let maxHp ← record.int "MaxHP"
  let attack ← record.int "Attack"
  let speed ← record.field .float "Speed"
  let angularSpeed ← record.field .float "AngularSpeed"
  let deadEffectId ← record.int "DeadEffectId"
  let deadSoundId ← record.int "DeadSoundId"
  return ⟨record.id.toInt, maxHp, attack, speed, angularSpeed, deadEffectId, deadSoundId⟩

def EntityRow.ofRecord (record : Record) : Except FieldError EntityRow := do
  let assetName ← record.field .string "AssetName"
  return ⟨record.id.toInt, assetName⟩

def MusicRow.ofRecord (record : Record) : Except FieldError MusicRow := do
  let assetName ← record.field .string "AssetName"
  return ⟨record.id.toInt, assetName⟩

def SceneRow.ofRecord (record : Record) : Except FieldError SceneRow := do
  let assetName ← record.field .string "AssetName"
  let backgroundMusicId ← record.int "BackgroundMusicId"
  return ⟨record.id.toInt, assetName, backgroundMusicId⟩

def SoundRow.ofRecord (record : Record) : Except FieldError SoundRow := do
  let assetName ← record.field .string "AssetName"
  let priority ← record.int "Priority"
  let looped ← record.field .bool "Loop"
  let volume ← record.field .float "Volume"
  let spatialBlend ← record.field .float "SpatialBlend"
  return ⟨record.id.toInt, assetName, priority, looped, volume, spatialBlend⟩

def ThrusterRow.ofRecord (record : Record) : Except FieldError ThrusterRow := do
  let speed ← record.field .float "Speed"
  return ⟨record.id.toInt, speed⟩

def UiFormRow.ofRecord (record : Record) : Except FieldError UiFormRow := do
  let assetName ← record.field .string "AssetName"
  let uiGroupName ← record.field .string "UIGroupName"
  let allowMultiInstance ← record.field .bool "AllowMultiInstance"
  let pauseCoveredUiForm ← record.field .bool "PauseCoveredUIForm"
  return ⟨record.id.toInt, assetName, uiGroupName, allowMultiInstance, pauseCoveredUiForm⟩

def UiSoundRow.ofRecord (record : Record) : Except FieldError UiSoundRow := do
  let assetName ← record.field .string "AssetName"
  let priority ← record.int "Priority"
  let volume ← record.field .float "Volume"
  return ⟨record.id.toInt, assetName, priority, volume⟩

def WeaponRow.ofRecord (record : Record) : Except FieldError WeaponRow := do
  let attack ← record.int "Attack"
  let attackInterval ← record.field .float "AttackInterval"
  let bulletId ← record.int "BulletId"
  let bulletSpeed ← record.field .float "BulletSpeed"
  let bulletSoundId ← record.int "BulletSoundId"
  return ⟨record.id.toInt, attack, attackInterval, bulletId, bulletSpeed, bulletSoundId⟩

/-- The parameters are checked before the other fields. -/
def UpgradeRow.ofRecord (record : Record) : Except FieldError UpgradeRow := do
  let numbers := (record.group "Param").map Prod.fst
  let values ← record.groupAs .string "Param"
  let name ← record.field .string "Name"
  let description ← record.field .string "Description"
  let rarity ← record.int "Rarity"
  let typeSelector ← record.field .string "TypeS"
  return ⟨record.id.toInt, name, description, rarity, typeSelector, numbers.zip values⟩

namespace TableKind

abbrev Row : TableKind → Type
  | aircraft => AircraftRow
  | armor => ArmorRow
  | asteroid => AsteroidRow
  | entity => EntityRow
  | music => MusicRow
  | scene => SceneRow
  | sound => SoundRow
  | thruster => ThrusterRow
  | uiForm => UiFormRow
  | uiSound => UiSoundRow
  | weapon => WeaponRow
  | upgrade => UpgradeRow

def rowOfRecord (kind : TableKind) (record : Record) : Except FieldError kind.Row :=
  match kind with
  | aircraft => AircraftRow.ofRecord record
  | armor => ArmorRow.ofRecord record
  | asteroid => AsteroidRow.ofRecord record
  | entity => EntityRow.ofRecord record
  | music => MusicRow.ofRecord record
  | scene => SceneRow.ofRecord record
  | sound => SoundRow.ofRecord record
  | thruster => ThrusterRow.ofRecord record
  | uiForm => UiFormRow.ofRecord record
  | uiSound => UiSoundRow.ofRecord record
  | weapon => WeaponRow.ofRecord record
  | upgrade => UpgradeRow.ofRecord record

def rowId (kind : TableKind) (row : kind.Row) : Int :=
  match kind, row with
  | aircraft, row => row.id
  | armor, row => row.id
  | asteroid, row => row.id
  | entity, row => row.id
  | music, row => row.id
  | scene, row => row.id
  | sound, row => row.id
  | thruster, row => row.id
  | uiForm, row => row.id
  | uiSound, row => row.id
  | weapon, row => row.id
  | upgrade, row => row.id

end TableKind

end GameSheet
