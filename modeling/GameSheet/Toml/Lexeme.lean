import GameSheet.Text.Decimal

/-!
The smallest parts of TOML text: gaps, line ends, strings, keys and integers. Each reader takes its
part from the front of the text and gives the rest.
-/

namespace GameSheet.Toml

/-- Reads a part of the text; nothing is taken from a text that does not begin with one. -/
abbrev Reader (α : Type) := List Char → Option (α × List Char)

def isBlank (c : Char) : Bool := c == ' ' || c == '\t'

/-- A character that comments and strings may hold as it is: no control but the tab. -/
def isPlain (c : Char) : Bool := c == '\t' || (32 ≤ c.toNat && c.toNat != 127)

def skipBlanks (text : List Char) : List Char := text.dropWhile isBlank

/-- A line feed, with or without a carriage return before it. -/
def newline? : List Char → Option (List Char)
  | '\n' :: rest => some rest
  | '\r' :: '\n' :: rest => some rest
  | _ => none

def skipComment : List Char → List Char
  | '#' :: rest => rest.dropWhile isPlain
  | text => text

/-- Nothing but blanks and a comment may stand before the end of the line or of the text. -/
def endLine? (text : List Char) : Option (List Char) :=
  match skipComment (skipBlanks text) with
  | [] => some []
  | rest => newline? rest

def skipBlankLines : List Char → List Char
  | [] => []
  | '\r' :: '\n' :: rest => skipBlankLines rest
  | c :: rest => if isBlank c || c == '\n' then skipBlankLines rest else c :: rest

/-- Skips blanks, line ends and comments; `commented` while the characters belong to a comment. -/
def skipGapsFrom (commented : Bool) : List Char → List Char
  | [] => []
  | c :: rest =>
    if commented && isPlain c then skipGapsFrom true rest
    else if isBlank c || c == '\n' then skipGapsFrom false rest
    else if c == '#' then skipGapsFrom true rest
    else if c == '\r' && rest.head? == some '\n' then skipGapsFrom false rest
    else c :: rest

def skipGaps (text : List Char) : List Char := skipGapsFrom false text

/-! Digits -/

def hexDigit? (c : Char) : Option Nat :=
  let code := c.toNat
  if 48 ≤ code && code ≤ 57 then some (code - 48)
  else if 65 ≤ code && code ≤ 70 then some (code - 55)
  else if 97 ≤ code && code ≤ 102 then some (code - 87)
  else none

def isDigitOf (base : Nat) (c : Char) : Bool :=
  match hexDigit? c with
  | some digit => digit < base
  | none => false

def valueOf (base : Nat) (digits : List Char) : Nat :=
  digits.foldl (fun total c => total * base + (hexDigit? c).getD 0) 0

/-- The digits in front, without the underscores between two of them. -/
def takeDigits (base : Nat) : List Char → List Char × List Char
  | [] => ([], [])
  | '_' :: c :: rest =>
    if isDigitOf base c then
      let (more, left) := takeDigits base rest
      (c :: more, left)
    else ([], '_' :: c :: rest)
  | c :: rest =>
    if isDigitOf base c then
      let (more, left) := takeDigits base rest
      (c :: more, left)
    else ([], c :: rest)

/-- A numeral in some base begins with a digit. -/
def numeral? (base : Nat) : Reader Nat
  | [] => none
  | c :: rest =>
    if isDigitOf base c then
      let (digits, left) := takeDigits base (c :: rest)
      some (valueOf base digits, left)
    else none

/-- A decimal numeral; only the number zero begins with the digit zero. -/
def decimal? : Reader Nat
  | '0' :: rest => some (0, rest)
  | text => numeral? 10 text

def integer? : Reader Int
  | '0' :: 'x' :: rest => (numeral? 16 rest).map (fun (n, left) => (Int.ofNat n, left))
  | '0' :: 'o' :: rest => (numeral? 8 rest).map (fun (n, left) => (Int.ofNat n, left))
  | '0' :: 'b' :: rest => (numeral? 2 rest).map (fun (n, left) => (Int.ofNat n, left))
  | '+' :: rest => (decimal? rest).map (fun (n, left) => (Int.ofNat n, left))
  | '-' :: rest => (decimal? rest).map (fun (n, left) => (-Int.ofNat n, left))
  | text => (decimal? text).map (fun (n, left) => (Int.ofNat n, left))

/-! Strings -/

/-- The scalar value that a fixed number of hexadecimal digits denote. -/
def unicode? (count : Nat) (text : List Char) : Option (Char × List Char) :=
  let digits := text.take count
  let code := valueOf 16 digits
  if digits.length = count && digits.all (isDigitOf 16) && decide code.isValidChar then
    some (Char.ofNat code, text.drop count)
  else none

/-- The character that an escape stands for, read behind its backslash. -/
def escape? : Reader Char
  | 'b' :: rest => some ('\x08', rest)
  | 't' :: rest => some ('\t', rest)
  | 'n' :: rest => some ('\n', rest)
  | 'f' :: rest => some ('\x0c', rest)
  | 'r' :: rest => some ('\r', rest)
  | '"' :: rest => some ('"', rest)
  | '\\' :: rest => some ('\\', rest)
  | 'u' :: rest => unicode? 4 rest
  | 'U' :: rest => unicode? 8 rest
  | _ => none

theorem unicode_shorter {count : Nat} {text rest : List Char} {c : Char}
    (read : unicode? count text = some (c, rest)) : rest.length ≤ text.length := by
  simp only [unicode?] at read
  split at read
  · simp only [Option.some.injEq, Prod.mk.injEq] at read
    simp [← read.2]
  · simp at read

theorem escape_shorter {text rest : List Char} {c : Char}
    (read : escape? text = some (c, rest)) : rest.length < text.length := by
  unfold escape? at read
  split at read
  all_goals try
    simp only [Option.some.injEq, Prod.mk.injEq] at read
    simp [← read.2]
  all_goals try
    have bound := unicode_shorter read
    simp only [List.length_cons]
    omega
  simp at read

/-- The rest of a string between single quotation marks `"`; `seen` holds its characters, last one
first. -/
def basicFrom (seen : List Char) (text : List Char) : Option (List Char × List Char) :=
  match text with
  | [] => none
  | '"' :: rest => some (seen.reverse, rest)
  | '\\' :: rest =>
    match _read : escape? rest with
    | none => none
    | some (c, later) => basicFrom (c :: seen) later
  | c :: rest => if isPlain c then basicFrom (c :: seen) rest else none
termination_by text.length
decreasing_by
  · have := escape_shorter _read
    simp only [List.length_cons]
    omega
  · simp

/-- A string without escapes, up to its closing apostrophe. -/
def literal? : Reader (List Char) := fun text =>
  let content := text.takeWhile (fun c => isPlain c && c != '\'')
  match text.drop content.length with
  | '\'' :: rest => some (content, rest)
  | _ => none

/-- How a run of quotation marks inside a multi-line string ends it: three close it, and up to two
more before them belong to the string. The number of marks that are kept, if it ends here. -/
def closing? (run : Nat) : Option Nat := if run < 3 then none else some (min (run - 3) 2)

def runLength (mark : Char) (text : List Char) : Nat := (text.takeWhile (· == mark)).length

theorem skipBlankLines_shorter (text : List Char) : (skipBlankLines text).length ≤ text.length := by
  fun_induction skipBlankLines text with
  | case1 => simp
  | case2 rest ih => simp only [List.length_cons]; omega
  | case3 c rest _ _ ih => simp only [List.length_cons]; omega
  | case4 => simp

theorem newline_shorter {text rest : List Char} (read : newline? text = some rest) :
    rest.length < text.length := by
  unfold newline? at read
  split at read
  · simp only [Option.some.injEq] at read
    simp [← read]
  · simp only [Option.some.injEq] at read
    subst read
    simp only [List.length_cons]
    omega
  · simp at read

theorem dropWhile_shorter (drop : Char → Bool) (text : List Char) :
    (text.dropWhile drop).length ≤ text.length := (List.dropWhile_suffix drop).length_le

/-- The rest of a string between triple quotation marks. With `escapes`, a backslash begins an
escape, and one at the end of a line takes the line end and all blanks and line ends after it away.
Every line end counts as a line feed. -/
def multiLineFrom (mark : Char) (escapes : Bool) (seen : List Char) (text : List Char) :
    Option (List Char × List Char) :=
  match text with
  | [] => none
  | c :: rest =>
    if c == mark then
      let run := runLength mark rest + 1
      match closing? run with
      | some kept => some (seen.reverse ++ List.replicate kept mark, (c :: rest).drop (kept + 3))
      | none => multiLineFrom mark escapes (c :: seen) rest
    else if escapes && c == '\\' then
      match _ended : newline? (skipBlanks rest) with
      | some later => multiLineFrom mark escapes seen (skipBlankLines later)
      | none =>
        match _read : escape? rest with
        | none => none
        | some (escaped, later) => multiLineFrom mark escapes (escaped :: seen) later
    else if isPlain c || c == '\n' then multiLineFrom mark escapes (c :: seen) rest
    else if c == '\r' && rest.head? == some '\n' then multiLineFrom mark escapes seen rest
    else none
termination_by text.length
decreasing_by
  · simp
  · have ended := newline_shorter _ended
    have blanks := dropWhile_shorter isBlank rest
    have lines := skipBlankLines_shorter later
    simp only [skipBlanks] at ended
    simp only [List.length_cons]
    omega
  · have := escape_shorter _read
    simp only [List.length_cons]
    omega
  · simp
  · simp

/-- A line end right behind the opening marks does not belong to the string. -/
def dropNewline (text : List Char) : List Char := (newline? text).getD text

/-- A string of any of the four forms. -/
def string? : Reader (List Char)
  | '"' :: '"' :: '"' :: rest => multiLineFrom '"' true [] (dropNewline rest)
  | '\'' :: '\'' :: '\'' :: rest => multiLineFrom '\'' false [] (dropNewline rest)
  | '"' :: rest => basicFrom [] rest
  | '\'' :: rest => literal? rest
  | _ => none

/-! Keys -/

def isBare (c : Char) : Bool := c.isAlphanum || c == '_' || c == '-'

def name? : Reader String
  | '"' :: rest => (basicFrom [] rest).map (fun (name, left) => (String.ofList name, left))
  | '\'' :: rest => (literal? rest).map (fun (name, left) => (String.ofList name, left))
  | text =>
    let bare := text.takeWhile isBare
    if bare.isEmpty then none else some (String.ofList bare, text.drop bare.length)

/-- The names of a key, parted by points; the budget bounds their number. -/
def keyWithin : Nat → Reader (List String)
  | 0, _ => none
  | budget + 1, text => do
    let (name, rest) ← name? (skipBlanks text)
    match skipBlanks rest with
    | '.' :: rest =>
      let (more, rest) ← keyWithin budget rest
      return (name :: more, rest)
    | rest => return ([name], rest)

/-- Brackets are open less than so many deep, and keys have fewer names. -/
def nestingLimit : Nat := 80

/-- A key with the blanks around it. Each name takes a character, so the budget suffices. -/
def key? : Reader (List String) := fun text =>
  (keyWithin (text.length + 1) text).filter (fun (names, _) => names.length < nestingLimit)

end GameSheet.Toml
