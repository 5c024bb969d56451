/-!
The kinds of tables that the game knows. A kind fixes the row type of a table and the columns that
its rows are read from.
-/

namespace GameSheet

inductive TableKind where
  | aircraft | armor | asteroid | entity | music | scene | sound | thruster | uiForm | uiSound
  | weapon | upgrade
  deriving DecidableEq, Repr

namespace TableKind

def all : List TableKind :=
  [aircraft, armor, asteroid, entity, music, scene, sound, thruster, uiForm, uiSound, weapon, upgrade]

def name : TableKind → String
  | aircraft => "Aircraft"
  | armor => "Armor"
  | asteroid => "Asteroid"
  | entity => "Entity"
  | music => "Music"
  | scene => "Scene"
  | sound => "Sound"
  | thruster => "Thruster"
  | uiForm => "UIForm"
  | uiSound => "UISound"
  | weapon => "Weapon"
  | upgrade => "Upgrade"

def ofText? (text : String) : Option TableKind := all.find? (fun kind => kind.name = text)

/-- Names and type keywords of the columns, identifier first. -/
def columns : TableKind → List (String × String)
  | aircraft =>
    [("Id", "id"), ("ThrusterId", "int"), ("WeaponId0", "int"), ("WeaponId1", "int"),
      ("WeaponId2", "int"), ("ArmorId0", "int"), ("ArmorId1", "int"), ("ArmorId2", "int"),
      ("DeadEffectId", "int"), ("DeadSoundId", "int")]
  | armor => [("Id", "id"), ("MaxHP", "int"), ("Defense", "int")]
  | asteroid =>
    [("Id", "id"), ("MaxHP", "int"), ("Attack", "int"), ("Speed", "float"),
      ("AngularSpeed", "float"), ("DeadEffectId", "int"), ("DeadSoundId", "int")]
  | entity => [("Id", "id"), ("AssetName", "string")]
  | music => [("Id", "id"), ("AssetName", "string")]
  | scene => [("Id", "id"), ("AssetName", "string"), ("BackgroundMusicId", "int")]
  | sound =>
    [("Id", "id"), ("AssetName", "string"), ("Priority", "int"), ("Loop", "bool"),
      ("Volume", "float"), ("SpatialBlend", "float")]
  | thruster => [("Id", "id"), ("Speed", "float")]
  | uiForm =>
    [("Id", "id"), ("AssetName", "string"), ("UIGroupName", "string"),
      ("AllowMultiInstance", "bool"), ("PauseCoveredUIForm", "bool")]
  | uiSound => [("Id", "id"), ("AssetName", "string"), ("Priority", "int"), ("Volume", "float")]
  | weapon =>
    [("Id", "id"), ("Attack", "int"), ("AttackInterval", "float"), ("BulletId", "int"),
      ("BulletSpeed", "float"), ("BulletSoundId", "int")]
  | upgrade =>
    [("Id", "id"), ("Name", "string"), ("Description", "string"), ("Rarity", "int"),
      ("TypeS", "string"), ("Param1", "string"), ("Param2", "string")]

end TableKind

end GameSheet
