import GameSheet.Value
import GameSheet.Severity
import GameSheet.Text.Decimal
import GameSheet.Text.Front

/-!
Records: the values of one row under the names of their fields, and typed access to them. Fields
whose names are a stem and a number form a group, which is ordered by the number.
-/

namespace GameSheet

structure Record where
  id : Number.Bounded .int
  names : List String
  /-- One for each name, in the order of the wire. -/
  values : List Value
  deriving DecidableEq

inductive FieldError where
  | missing (id : Int) (name : String)
  | typeMismatch (id : Int) (name expected : String) (found : Kind)
  deriving DecidableEq, Repr

namespace FieldError

def code : FieldError → String
  | missing .. => "FIELD_MISSING"
  | typeMismatch .. => "FIELD_TYPE_MISMATCH"

def message : FieldError → String
  | missing id name => s!"record {id} has no field '{name}'"
  | typeMismatch id name expected found =>
    s!"record {id}, field '{name}': expected {expected}, found {found.name}"

instance : Diagnostic FieldError where
  severity _ := .validation
  code := code
  message := message

end FieldError

namespace Record

def fields (record : Record) : List (String × Value) := record.names.zip record.values

/-- The value under the first field of that name. -/
def get? (record : Record) (name : String) : Option Value :=
  match record.names.findIdx? (· = name) with
  | some position => record.values[position]?
  | none => none

def field {α : Type} (record : Record) (target : Target α) (name : String) : Except FieldError α :=
  match record.get? name with
  | none => .error (.missing record.id.toInt name)
  | some value =>
    match target.take value with
    | some taken => .ok taken
    | none => .error (.typeMismatch record.id.toInt name target.expected value.kind)

/-- The number behind a stem: one or more ASCII digits that denote less than 2^32. -/
def groupNumber? (stem name : String) : Option Nat :=
  (Text.behind? stem.toList name.toList).bind (fun digits =>
    if digits ≠ [] ∧ digits.all Text.isDigit ∧
        Text.digitsValue digits < Number.IntegerKind.uint.count then
      some (Text.digitsValue digits)
    else none)

/-- The fields named by the stem and a number, in ascending order of the number; fields with equal
numbers stay in the order of the wire. -/
def group (record : Record) (stem : String) : List (Nat × Value) :=
  (record.fields.filterMap (fun (name, value) =>
    (groupNumber? stem name).map (fun number => (number, value)))).mergeSort
      (fun a b => decide (a.1 ≤ b.1))

def groupAs {α : Type} (record : Record) (target : Target α) (stem : String) :
    Except FieldError (List α) :=
  (record.group stem).mapM (fun (number, value) =>
    match target.take value with
    | some taken => .ok taken
    | none => .error
        (.typeMismatch record.id.toInt s!"{stem}{number}" target.expected value.kind))

end Record

end GameSheet
