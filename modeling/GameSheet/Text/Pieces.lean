/-!
Cutting text at a character. `pieces` keeps every part between two separators, the empty ones too,
so a text with n separators has n+1 pieces. `lines` ends a line at each line feed, drops one
carriage return before it, and gives no line after a final line feed.
-/

namespace GameSheet.Text

def pushPiece (c : Char) : List (List Char) → List (List Char)
  | [] => [[c]]
  | piece :: more => (c :: piece) :: more

def pieces (separator : Char) (chars : List Char) : List (List Char) :=
  chars.foldr (fun c later => if c = separator then [] :: later else pushPiece c later) [[]]

def joinPieces (separator : Char) (parts : List (List Char)) : List Char :=
  (parts.intersperse [separator]).flatten

/-- A line feed was read after these characters, so one carriage return belongs to the line end. -/
def dropReturn (line : List Char) : List Char :=
  match line.getLast? with
  | some '\r' => line.dropLast
  | _ => line

/-- The text after the last line feed is a line only when it is not empty, and it keeps its
carriage return. -/
def lines (chars : List Char) : List (List Char) :=
  let parts := pieces '\n' chars
  let closed := parts.dropLast.map dropReturn
  match parts.getLast? with
  | none | some [] => closed
  | some last => closed ++ [last]

end GameSheet.Text
