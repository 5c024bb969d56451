import GameSheet.Content.Kind
import GameSheet.Severity
import GameSheet.Text.Pieces

/-!
Table names. A name is a type, or a type and an instance joined by one underscore, none of them
empty. Names are ordered by type and then by instance, with the name that has no instance first.
-/

namespace GameSheet

structure TableName where
  type : String
  instance? : Option String
  deriving DecidableEq, Repr

inductive TableNameError where
  | empty
  | tooManySeparators (name : String)
  | emptyPart (name : String)
  | unknownKind (name type : String)
  deriving DecidableEq, Repr

namespace TableNameError

def code : TableNameError → String
  | empty => "NAME_EMPTY"
  | tooManySeparators _ => "NAME_TOO_MANY_SEPARATORS"
  | emptyPart _ => "NAME_EMPTY_PART"
  | unknownKind .. => "NAME_UNKNOWN_KIND"

def message : TableNameError → String
  | empty => "table name is empty"
  | tooManySeparators name => s!"table name '{name}' has more than one '_' separator"
  | emptyPart name => s!"table name '{name}' has an empty type or instance"
  | unknownKind name type => s!"table '{name}' has no known row type '{type}'"

end TableNameError

namespace TableName

def ofKind (kind : TableKind) : TableName := ⟨kind.name, none⟩

def parse (text : String) : Except TableNameError TableName :=
  if text = "" then .error .empty
  else
    match Text.pieces '_' text.toList with
    | [type] => .ok ⟨String.ofList type, none⟩
    | [type, part] =>
      if type = [] ∨ part = [] then .error (.emptyPart text)
      else .ok ⟨String.ofList type, some (String.ofList part)⟩
    | _ => .error (.tooManySeparators text)

def text (name : TableName) : String :=
  match name.instance? with
  | none => name.type
  | some part => name.type ++ "_" ++ part

def kind (name : TableName) : Except TableNameError TableKind :=
  match TableKind.ofText? name.type with
  | some kind => .ok kind
  | none => .error (.unknownKind name.text name.type)

def sourceFile (name : TableName) : String := name.text ++ ".txt"

def assetFile (name : TableName) : String := name.text ++ ".bytes"

instance : Ord TableName where
  compare a b := (compare a.type b.type).then (compare a.instance? b.instance?)

end TableName

end GameSheet
