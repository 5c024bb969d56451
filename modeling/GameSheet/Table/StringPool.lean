import GameSheet.Schema.Basic
import GameSheet.Table.OrderedMap

/-!
The string pool of a sheet: every distinct text of its string columns with the number of cells that
hold it. The most frequent text comes first, and texts that are equally frequent are in byte order.
-/

namespace GameSheet

structure StringPool where
  entries : List (String × Nat)
  /-- The place of each text among the entries. -/
  index : OrderedMap String Nat
  deriving DecidableEq, Repr

namespace StringPool

def cells (sheet : Sheet) (columns : List Column) (start : Nat) : List String :=
  let counted := columns.filter Column.isString
  (sheet.contentRows start).flatMap (fun (_, row) =>
    counted.filterMap (fun column => row[column.index]?))

def bump (counts : OrderedMap String Nat) (text : String) : OrderedMap String Nat :=
  counts.insert text ((counts.get? text).getD 0 + 1)

def tally (texts : List String) : OrderedMap String Nat := texts.foldl bump .empty

/-- Byte order, which is the order of code points too. -/
def before (a b : String × Nat) : Bool := b.2 < a.2 || (a.2 == b.2 && decide (a.1 ≤ b.1))

def places (entries : List (String × Nat)) : OrderedMap String Nat :=
  entries.zipIdx.foldl (fun index (entry, place) => index.insert entry.1 place) .empty

/-- The pool of some counts, which may come in any order. -/
def ofCounts (counts : List (String × Nat)) : StringPool :=
  let entries := counts.mergeSort before
  ⟨entries, places entries⟩

def build (sheet : Sheet) (columns : List Column) (start : Nat) : StringPool :=
  ofCounts (tally (cells sheet columns start)).entries

def size (pool : StringPool) : Nat := pool.entries.length

def get? (pool : StringPool) (index : Nat) : Option String := pool.entries[index]?.map Prod.fst

def indexOf? (pool : StringPool) (text : String) : Option Nat := pool.index.get? text

/-- Zero for a text that is not in the pool. -/
def countOf (pool : StringPool) (text : String) : Nat :=
  (((pool.indexOf? text).bind (fun place => pool.entries[place]?)).map Prod.snd).getD 0

end StringPool

end GameSheet
