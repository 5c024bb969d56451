import GameSheet.Severity
import GameSheet.Table.OrderedMap

/-!
Tables of rows by identifier, in ascending order. A policy says what becomes of a row whose
identifier an earlier row has: the table is given up, or the later row replaces the earlier one and
the identifier is noted.
-/

namespace GameSheet

inductive DuplicateIdPolicy where
  | reject
  | override
  deriving DecidableEq, Repr, Inhabited

namespace DuplicateIdPolicy

def name : DuplicateIdPolicy → String
  | reject => "reject"
  | override => "override"

/-- The case of ASCII letters does not matter. -/
def ofText? (text : String) : Option DuplicateIdPolicy :=
  [reject, override].find? (fun policy => text.toList.map Char.toLower == policy.name.toList)

end DuplicateIdPolicy

inductive IndexError where
  | duplicateId (id : Int)
  deriving DecidableEq, Repr

instance : Diagnostic IndexError where
  severity _ := .fatal
  code _ := "DUPLICATE_ID"
  message
    | .duplicateId id => s!"identifier {id} appears more than once"

structure DataTable (ρ : Type) where
  rows : OrderedMap Int ρ
  /-- The identifiers whose rows were replaced, in the order of the replacements. -/
  overridden : List Int
  deriving DecidableEq, Repr

namespace DataTable

variable {ρ : Type}

def empty : DataTable ρ := ⟨.empty, []⟩

def add (idOf : ρ → Int) (policy : DuplicateIdPolicy) (table : DataTable ρ) (row : ρ) :
    Except IndexError (DataTable ρ) :=
  let id := idOf row
  if table.rows.contains id then
    match policy with
    | .reject => .error (.duplicateId id)
    | .override => .ok ⟨table.rows.insert id row, table.overridden ++ [id]⟩
  else .ok ⟨table.rows.insert id row, table.overridden⟩

def ofRows (idOf : ρ → Int) (policy : DuplicateIdPolicy) (rows : List ρ) :
    Except IndexError (DataTable ρ) :=
  rows.foldlM (add idOf policy) empty

/-- Converts the rows in ascending order of their identifiers, which stay as they are. -/
def mapRows {σ ε : Type} (convert : ρ → Except ε σ) (table : DataTable ρ) :
    Except ε (DataTable σ) := do
  let entries ← table.rows.entries.mapM (fun (id, row) => do return (id, ← convert row))
  return ⟨⟨entries⟩, table.overridden⟩

def get? (table : DataTable ρ) (id : Int) : Option ρ := table.rows.get? id

def contains (table : DataTable ρ) (id : Int) : Bool := table.rows.contains id

def size (table : DataTable ρ) : Nat := table.rows.size

def ids (table : DataTable ρ) : List Int := table.rows.keys

def toList (table : DataTable ρ) : List ρ := table.rows.values

def first? (table : DataTable ρ) : Option ρ := table.toList.head?

def last? (table : DataTable ρ) : Option ρ := table.toList.getLast?

def rowsWhere (table : DataTable ρ) (wanted : ρ → Bool) : List ρ := table.toList.filter wanted

end DataTable

end GameSheet
