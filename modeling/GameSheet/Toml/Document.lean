import GameSheet.Toml.Scalar
import GameSheet.Toml.Table

/-!
TOML documents: an optional byte-order mark, then lines that are blank, a comment, a header or a key
with a value.
-/

namespace GameSheet.Toml

open Number (Bounded)

/-- A key with its value: the names before the last, the last, and what stands behind the sign. -/
structure KeyValue where
  path : List String
  name : String
  value : Datum

def fill (pairs : List KeyValue) (entries : Entries) : Option Entries :=
  pairs.foldlM (fun entries pair => insert pair.path pair.name (.value pair.value) entries) entries

def dropSign : List Char → Option (List Char)
  | '=' :: rest => some rest
  | _ => none

def string : Reader Datum := fun text =>
  (string? text).map (fun (content, rest) => (.string (String.ofList content), rest))

/-- An integer has to fit 64 signed bits. -/
def integer : Reader Datum := fun text => do
  let (n, rest) ← integer? text
  let n ← Bounded.ofInt? .long n
  return (.integer n, rest)

mutual

/-- A value inside `depth` brackets. No more than two steps lie between characters that are taken, so
a budget above twice the text's length suffices. -/
def value (depth : Nat) : Nat → Reader Datum
  | 0, _ => none
  | budget + 1, text =>
    match text with
    | '[' :: rest =>
      if depth + 1 < nestingLimit then
        (items (depth + 1) budget rest).map (fun (items, rest) => (.array items, rest))
      else none
    | '{' :: rest =>
      if depth + 1 < nestingLimit then
        match skipBlanks rest with
        | '}' :: rest => some (.table [], rest)
        | _ => do
          let (pairs, rest) ← inlinePairs (depth + 1) budget rest
          let entries ← fill pairs []
          return (.table (entriesDatum entries), rest)
      else none
    | '"' :: _ => string text
    | '\'' :: _ => string text
    | _ => ((skipScalar text).map (fun rest => (.other, rest))) <|> integer text

/-- The items of an array up to its bracket. A comma may follow the last one. -/
def items (depth : Nat) : Nat → Reader (List Datum)
  | 0, _ => none
  | budget + 1, text =>
    match skipGaps text with
    | ']' :: rest => some ([], rest)
    | first => do
      let (item, rest) ← value depth budget first
      match skipGaps rest with
      | ']' :: rest => return ([item], rest)
      | ',' :: rest =>
        let (more, rest) ← items depth budget rest
        return (item :: more, rest)
      | _ => none

/-- A key with its value and the blanks behind it. -/
def keyValue (depth : Nat) : Nat → Reader KeyValue
  | 0, _ => none
  | budget + 1, text => do
    let (names, rest) ← key? text
    let rest ← dropSign rest
    let (content, rest) ← value depth budget (skipBlanks rest)
    let name ← names.getLast?
    return (⟨names.dropLast, name, content⟩, skipBlanks rest)

/-- The keys of a table in braces; no comma may follow the last one. -/
def inlinePairs (depth : Nat) : Nat → Reader (List KeyValue)
  | 0, _ => none
  | budget + 1, text => do
    let (pair, rest) ← keyValue depth budget text
    match rest with
    | '}' :: rest => return ([pair], rest)
    | ',' :: rest =>
      let (more, rest) ← inlinePairs depth budget rest
      return (pair :: more, rest)
    | _ => none

end

inductive Statement where
  | tableHeader (names : List String)
  | arrayHeader (names : List String)
  | pair (content : KeyValue)

def statement? : Reader Statement
  | '[' :: '[' :: rest => do
    let (names, rest) ← key? rest
    match rest with
    | ']' :: ']' :: rest => return (.arrayHeader names, rest)
    | _ => none
  | '[' :: rest => do
    let (names, rest) ← key? rest
    match rest with
    | ']' :: rest => return (.tableHeader names, rest)
    | _ => none
  | text => (keyValue 0 (2 * text.length + 3) text).map (fun (pair, rest) => (.pair pair, rest))

/-- The statements of a text, with a budget for its lines. -/
def statementsWithin : Nat → List Char → Option (List Statement)
  | 0, _ => none
  | budget + 1, text =>
    match skipBlanks text with
    | [] => some []
    | line =>
      match endLine? line with
      | some rest => statementsWithin budget rest
      | none => do
        let (statement, rest) ← statement? line
        let rest ← endLine? rest
        let more ← statementsWithin budget rest
        return statement :: more

/-- Each line takes a character, so a budget above the text's length suffices. -/
def statements (text : List Char) : Option (List Statement) :=
  statementsWithin (text.length + 1) text

structure Section where
  isArray : Bool
  names : List String
  pairs : List KeyValue

def sections (statements : List Statement) : List KeyValue × List Section :=
  statements.foldr (fun statement (pairs, later) =>
    match statement with
    | .pair content => (content :: pairs, later)
    | .tableHeader names => ([], ⟨false, names, pairs⟩ :: later)
    | .arrayHeader names => ([], ⟨true, names, pairs⟩ :: later)) ([], [])

def Section.addTo (part : Section) (root : Entries) : Option Entries := do
  let key ← part.names.getLast?
  alter .aboveHeader (fun _ inner =>
    if part.isArray then appendTable key (fill part.pairs) inner
    else openTable key (fill part.pairs) inner) .header root part.names.dropLast

def dropMark : List Char → List Char
  | '\ufeff' :: rest => rest
  | text => text

def parse? (text : String) : Option (List (String × Datum)) := do
  let (pairs, later) := sections (← statements (dropMark text.toList))
  let root ← fill pairs []
  let root ← later.foldlM (fun root part => part.addTo root) root
  return entriesDatum root

end GameSheet.Toml
