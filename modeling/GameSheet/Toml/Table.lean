import GameSheet.Number.Integer

/-!
TOML tables while a document is read. A table remembers where it came from, because that decides what
may still be added to it: a table with a header of its own is closed to dotted keys, one that dotted
keys made is closed to headers, and one that is only named above a header may get its own header
later. A value in brackets or braces is closed to everything.
-/

namespace GameSheet.Toml

open Number (Bounded)

inductive Datum where
  | string (text : String)
  | integer (n : Bounded .long)
  | array (items : List Datum)
  | table (entries : List (String × Datum))
  /-- A truth value, a float, a date or a time. -/
  | other

inductive Origin where
  | header
  | aboveHeader
  | dottedKey
  deriving DecidableEq, Repr

inductive Node where
  | value (content : Datum)
  | table (origin : Origin) (entries : List (String × Node))
  /-- The tables under one double-bracketed header, in order. -/
  | tables (elements : List (List (String × Node)))

abbrev Entries := List (String × Node)

def replace (key : String) (node : Node) (entries : Entries) : Entries :=
  entries.map (fun entry => if entry.1 = key then (key, node) else entry)

/-- Changes the table at the end of a path, with the tables on the way there made as needed. Where the
path meets an array of tables it goes on in the last of them. -/
def alter (made : Origin) (change : Origin → Entries → Option Entries) (origin : Origin)
    (entries : Entries) : List String → Option Entries
  | [] => change origin entries
  | key :: path =>
    match entries.lookup key with
    | none => do
      let inner ← alter made change made [] path
      return entries ++ [(key, .table made inner)]
    | some (.table found inner) =>
      if made = .dottedKey ∧ found = .header then none
      else do
        let inner ← alter made change found inner path
        return replace key (.table found inner) entries
    | some (.tables elements) => do
      let last ← elements.getLast?
      let last ← alter made change .header last path
      return replace key (.tables (elements.dropLast ++ [last])) entries
    | some (.value _) => none

/-- Adds a node under a new key. A dotted key may add to a table only if dotted keys made it. -/
def insert (path : List String) (key : String) (node : Node) (entries : Entries) :
    Option Entries :=
  alter .dottedKey (fun origin inner =>
    if !path.isEmpty && origin != .dottedKey then none
    else if (inner.lookup key).isSome then none
    else some (inner ++ [(key, node)])) .header entries path

/-- Gives a table a header. What headers below it put there before stays. -/
def openTable (key : String) (fill : Entries → Option Entries) (entries : Entries) :
    Option Entries :=
  match entries.lookup key with
  | none => do return entries ++ [(key, .table .header (← fill []))]
  | some (.table .aboveHeader inner) => do
    return replace key (.table .header (← fill inner)) entries
  | some _ => none

def appendTable (key : String) (fill : Entries → Option Entries) (entries : Entries) :
    Option Entries :=
  match entries.lookup key with
  | none => do return entries ++ [(key, .tables [← fill []])]
  | some (.tables elements) => do
    return replace key (.tables (elements ++ [← fill []])) entries
  | some _ => none

mutual

def Node.toDatum : Node → Datum
  | .value content => content
  | .table _ entries => .table (entriesDatum entries)
  | .tables elements => .array (elementsDatum elements)

def entriesDatum : List (String × Node) → List (String × Datum)
  | [] => []
  | (key, node) :: rest => (key, node.toDatum) :: entriesDatum rest

def elementsDatum : List (List (String × Node)) → List Datum
  | [] => []
  | entries :: rest => .table (entriesDatum entries) :: elementsDatum rest

end

end GameSheet.Toml
