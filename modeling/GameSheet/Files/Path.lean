import GameSheet.Text.Pieces

/-!
File paths as they are written. A path is text whose names are parted by slashes; nothing is
normalised, so joining adds at most one slash and the rest stays as it was.
-/

namespace GameSheet

structure Path where
  text : String
  deriving DecidableEq, Repr, Inhabited

namespace Path

def chars (path : Path) : List Char := path.text.toList

def isEmpty (path : Path) : Bool := path.chars.isEmpty

def isAbsolute (path : Path) : Bool := path.chars.head? == some '/'

/-- An absolute path replaces what it is joined to, and so does any path joined to the empty one. -/
def join (base child : Path) : Path :=
  if child.isAbsolute || base.isEmpty then child
  else if base.chars.getLast? == some '/' then ⟨base.text ++ child.text⟩
  else ⟨base.text ++ "/" ++ child.text⟩

/-- The parts between slashes. An absolute path has an empty first part. -/
def parts (path : Path) : List (List Char) := Text.pieces '/' path.chars

/-- A part that names nothing: it is empty or a single dot. -/
def isVoid (part : List Char) : Bool := part.isEmpty || part == ['.']

/-- What no parent loses: the root's slash, or the dot of a path such as `./a`. -/
def anchor (path : Path) : List Char :=
  match path.chars with
  | '/' :: _ => ['/']
  | ['.'] => ['.']
  | '.' :: '/' :: _ => ['.']
  | _ => []

def dropVoid (backwards : List (List Char)) : List (List Char) := backwards.dropWhile isVoid

/-- The path without its last name. The root and the empty path have no parent. -/
def parent? (path : Path) : Option Path :=
  let start := path.anchor
  let behind := Text.pieces '/' (path.chars.drop start.length)
  match dropVoid behind.reverse with
  | [] => if start = ['.'] then some ⟨""⟩ else none
  | _ :: before =>
    some ⟨String.ofList (start ++ Text.joinPieces '/' (dropVoid before).reverse)⟩

def directory (path : Path) : Path :=
  match path.parent? with
  | some parent => if parent.isEmpty then ⟨"."⟩ else parent
  | none => ⟨"."⟩

/-- The path and as many parents, nearest first. -/
def ascend (path : Path) : Nat → List Path
  | 0 => [path]
  | steps + 1 =>
    match path.parent? with
    | none => [path]
    | some parent => path :: parent.ascend steps

def lineage (path : Path) : List Path := path.ascend path.parts.length

end Path

end GameSheet
