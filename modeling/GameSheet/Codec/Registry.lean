import GameSheet.Codec.Standard
import GameSheet.Text.Front

/-!
Keywords for column types. Keywords are compared in their normal form: trimmed, in ASCII lower case
and without one leading namespace. The identifier keyword cannot be taken over, so identifier
columns always have the standard identifier codec.
-/

namespace GameSheet

inductive LookupError where
  | unknownType (keyword : String)
  | reservedKeyword (keyword : String)
  deriving DecidableEq, Repr

namespace LookupError

def code : LookupError → String
  | unknownType _ => "UNKNOWN_TYPE"
  | reservedKeyword _ => "RESERVED_KEYWORD"

def message : LookupError → String
  | unknownType keyword => s!"unknown column type '{keyword}'"
  | reservedKeyword keyword => s!"'{keyword}' is reserved for the identifier column"

instance : Diagnostic LookupError where
  severity _ := .validation
  code := code
  message := message

end LookupError

def normalKeyword (keyword : String) : String :=
  let chars := (Text.trim keyword.toList).map Char.toLower
  let bare := (Text.behind? "system.".toList chars).or
    (Text.behind? "unityengine.".toList chars)
  String.ofList (bare.getD chars)

/-- Codecs under the normal forms of their keywords, and the codec of every identifier column. -/
structure TypeRegistry where
  codecs : List (String × Codec)
  identifier : Codec
  /-- No call takes the identifier column over. -/
  standing : identifier = .id

namespace TypeRegistry

def empty : TypeRegistry := ⟨[], .id, rfl⟩

/-- Puts the codec under one keyword, in place of the one that was there. -/
def assign (codecs : List (String × Codec)) (key : String) (codec : Codec) :
    List (String × Codec) :=
  codecs.filter (fun entry => entry.1 ≠ key) ++ [(key, codec)]

def put (registry : TypeRegistry) (codec : Codec) (keyword : String) : TypeRegistry :=
  { registry with codecs := assign registry.codecs (normalKeyword keyword) codec }

def insert (registry : TypeRegistry) (keywords : List String) (codec : Codec) : TypeRegistry :=
  keywords.foldl (fun registry keyword => registry.put codec keyword) registry

def standard : TypeRegistry :=
  ColumnType.all.foldl
    (fun registry type => registry.insert (type.keyword :: type.aliases) type.codec) empty

/-- The identifier keyword cannot be taken: no keyword is put in before all of them are looked at. -/
def register (keywords : List String) (codec : Codec) : EStateM LookupError TypeRegistry Unit := do
  if let some reserved := keywords.find? (fun keyword => normalKeyword keyword = "id") then
    throw (.reservedKeyword reserved)
  modify (fun registry => registry.insert keywords codec)

def resolve (registry : TypeRegistry) (keyword : String) : Except LookupError Codec :=
  match registry.codecs.lookup (normalKeyword keyword) with
  | some codec => .ok codec
  | none => .error (.unknownType keyword)

def keywords (registry : TypeRegistry) : List String :=
  (registry.codecs.map Prod.fst).mergeSort (fun a b => decide (a ≤ b))

end TypeRegistry

end GameSheet
