import GameSheet.Schema.Error
import GameSheet.Schema.Fingerprint

/-!
The fields that a row is made of, in the order in which they are written. Exactly one field has an
identifier codec, and its name is `Id`.
-/

namespace GameSheet

structure Field where
  name : String
  /-- The column of the sheet that the field is taken from. -/
  column : Nat
  codec : Codec

def identifierName : String := "Id"

/-- The positions of the fields with an identifier codec. -/
def identifierPositions (fields : List Field) : List Nat :=
  (fields.zipIdx.filter (fun (field, _) => field.codec.isIdentifier)).map Prod.snd

def renameIdentifier (field : Field) : Field :=
  if field.codec.isIdentifier then { field with name := identifierName } else field

structure RowLayout where
  fields : List Field
  /-- The position of the identifier among the fields. -/
  identifier : Nat
  single : identifierPositions fields = [identifier]
  named : ∀ field ∈ fields, field.codec.isIdentifier → field.name = identifierName

theorem renameIdentifier_codec (field : Field) : (renameIdentifier field).codec = field.codec := by
  unfold renameIdentifier
  split <;> rfl

theorem identifierPositions_rename (fields : List Field) :
    identifierPositions (fields.map renameIdentifier) = identifierPositions fields := by
  simp only [identifierPositions, List.zipIdx_map, List.filter_map, List.map_map]
  congr 1
  apply List.filter_congr
  intro pair _
  simp [Function.comp, renameIdentifier_codec]

namespace RowLayout

def ofFields (fields : List Field) : Except SchemaError RowLayout :=
  match positions : identifierPositions fields with
  | [identifier] =>
    .ok
      { fields := fields.map renameIdentifier
        identifier := identifier
        single := by rw [identifierPositions_rename, positions]
        named := by
          intro field member identifies
          simp only [List.mem_map] at member
          obtain ⟨source, _, rfl⟩ := member
          rw [renameIdentifier_codec] at identifies
          simp [renameIdentifier, identifies] }
  | found => .error (.identifierCount found.length)

/-- Resolves the type of each named field; field i belongs to column i. -/
def declareFields (registry : TypeRegistry) (declared : List (String × String)) :
    Except SchemaError (List Field) :=
  declared.zipIdx.mapM (fun ((name, keyword), column) =>
    match registry.resolve keyword with
    | .ok codec => .ok ⟨name, column, codec⟩
    | .error cause => .error (.unknownType column name cause))

/-- The layout of a table that is known by its names and types alone. -/
def declare (registry : TypeRegistry) (declared : List (String × String)) :
    Except SchemaError RowLayout := do
  ofFields (← declareFields registry declared)

def names (layout : RowLayout) : List String := layout.fields.map Field.name

def field? (layout : RowLayout) (name : String) : Option Field :=
  layout.fields.find? (fun field => field.name = name)

/-- The names and type keywords in order. -/
def signature (layout : RowLayout) : List (String × String) :=
  layout.fields.map (fun field => (field.name, field.codec.keyword))

def fingerprint (layout : RowLayout) : Fingerprint := Fingerprint.of layout.signature

end RowLayout

end GameSheet
