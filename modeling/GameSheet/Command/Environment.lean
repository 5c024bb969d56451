import GameSheet.Text.Alphanumeric
import GameSheet.Text.Blank
import GameSheet.Text.Decimal
import GameSheet.Text.Front
import GameSheet.Text.Utf8

/-!
The environment of a run and the file that adds to it. The file sets one variable a line, as in
`NAME=value`, and never changes a variable that is set. Values may be quoted, with escapes, and may
refer to variables that are set by then. The first line that cannot be read ends the reading; what the
lines before it set stays.
-/

namespace GameSheet

structure Environment where
  entries : List (String × String)
  deriving DecidableEq, Repr

namespace Environment

def get? (environment : Environment) (name : String) : Option String :=
  environment.entries.lookup name

/-- What is behind a text and an equals sign in the entry `NAME=value` that begins with them. Most
often the text is the name; one with an equals sign in it takes up the head of the value as well. -/
def refer? (environment : Environment) (text : List Char) : Option (List Char) :=
  let value := environment.get? (String.ofList (text.takeWhile (· ≠ '=')))
  match text.dropWhile (· ≠ '=') with
  | [] => value.map String.toList
  | _ :: head => value.bind (fun value => Text.behind? (head ++ ['=']) value.toList)

/-- Sets a variable that is not set yet. -/
def provide (environment : Environment) (name value : String) : Environment :=
  if (environment.get? name).isSome then environment
  else ⟨environment.entries ++ [(name, value)]⟩

end Environment

namespace EnvFile

/-! Lines: quotation marks hold a value together over line ends. -/

/-- What the text before the next character leaves open. -/
inductive Openness where
  | closed
  | blank
  | escape
  | weak (escaped : Bool)
  | strong (escaped : Bool)
  deriving DecidableEq, Repr

/-- The openness behind a character; none where it begins a comment. -/
def Openness.after (openness : Openness) (c : Char) : Option Openness :=
  match openness with
  | escape => some closed
  | weak true => some (weak false)
  | strong true => some (strong false)
  | weak false =>
    some (if c = '\\' then weak true else if c = '"' then closed else weak false)
  | strong false =>
    some (if c = '\\' then strong true else if c = '\'' then closed else strong false)
  | blank =>
    if c = '#' then none
    else some (if c = '\\' then escape else if c = '"' then weak false
      else if c = '\'' then strong false else closed)
  | closed =>
    some (if Text.isBlank c && c != '\n' && c != '\r' then blank
      else if c = '\\' then escape else if c = '"' then weak false
      else if c = '\'' then strong false else closed)

/-- The characters up to a comment, and the openness behind them if no comment came. -/
def scan (openness : Openness) : List Char → List Char × Option Openness
  | [] => ([], some openness)
  | c :: rest =>
    match openness.after c with
    | none => ([], none)
    | some next =>
      let (kept, last) := scan next rest
      (c :: kept, last)

/-- The parts of some bytes, each with the byte that ends it. -/
def partsEndedBy (last : UInt8) (bytes : List UInt8) : List (List UInt8) :=
  bytes.foldr (fun byte parts =>
    if byte = last then [byte] :: parts
    else match parts with
      | [] => [[byte]]
      | part :: rest => (byte :: part) :: rest) []

/-- Lines with their line feeds. -/
def physicalLines (bytes : List UInt8) : List (List UInt8) := partsEndedBy 10 bytes

def dropLineEnd (line : List Char) : List Char :=
  match line.reverse with
  | '\n' :: '\r' :: rest => rest.reverse
  | '\n' :: rest => rest.reverse
  | _ => line

/-- The lines that values make, where `held` is what the lines before left open. A line that is not
text, or that nothing closes, has none. -/
def logicalLines (held : List Char) (openness : Openness) :
    List (List UInt8) → List (Option (List Char))
  | [] => if openness = .closed then [] else [none]
  | bytes :: rest =>
    match Text.Utf8.decode? bytes with
    | none => [none]
    | some chars =>
      let line := held ++ chars
      if (Text.skipBlank line).head? = some '#' then some [] :: logicalLines [] .closed rest
      else
        match scan openness chars with
        | (kept, none) => some (held ++ kept) :: logicalLines [] .closed rest
        | (_, some .closed) => some (dropLineEnd line) :: logicalLines [] .closed rest
        | (_, some next) => logicalLines line next rest

/-! Values -/

/-- Where in a value the next character stands. Names in braces end at the brace, others at the first
character that is no letter or number. -/
inductive Mode where
  | value (quoted : Bool)
  | escape (quoted : Bool)
  | strong
  | name (quoted braced : Bool) (seen : List Char)
  | ended
  deriving DecidableEq, Repr

/-- What a reference stands for; nothing if the variable is not set. -/
def referred (environment : Environment) (seen : List Char) : List Char :=
  (environment.refer? seen.reverse).getD []

/-- Reads the rest of a value; `done` holds its characters, last one first. -/
def valueFrom (environment : Environment) (mode : Mode) (done : List Char) :
    List Char → Option (List Char)
  | [] =>
    match mode with
    | .value false | .escape false | .ended => some done.reverse
    | .name false false seen => some (done.reverse ++ referred environment seen)
    | _ => none
  | c :: rest =>
    match mode with
    | .ended =>
      if c = ' ' || c = '\t' then valueFrom environment .ended done rest
      else if c = '#' then some done.reverse
      else none
    | .escape quoted =>
      if c = '\\' || c = '\'' || c = '"' || c = '$' || c = ' ' then
        valueFrom environment (.value quoted) (c :: done) rest
      else if c = 'n' then valueFrom environment (.value quoted) ('\n' :: done) rest
      else none
    | .strong =>
      if c = '\'' then valueFrom environment (.value false) done rest
      else valueFrom environment .strong (c :: done) rest
    | .name quoted true seen =>
      if c = '\x7d' then
        valueFrom environment (.value quoted) ((referred environment seen).reverse ++ done) rest
      else valueFrom environment (.name quoted true (c :: seen)) done rest
    | .name quoted false seen =>
      if Text.isAlphanumeric c then valueFrom environment (.name quoted false (c :: seen)) done rest
      else if c = '\x7b' && seen.isEmpty then
        valueFrom environment (.name quoted true []) done rest
      else
        let filled := (referred environment seen).reverse ++ done
        if c = '$' then valueFrom environment (.name quoted false []) filled rest
        else valueFrom environment (.value quoted) (c :: filled) rest
    | .value quoted =>
      if c = '$' then valueFrom environment (.name quoted false []) done rest
      else if c = '\\' then valueFrom environment (.escape quoted) done rest
      else if c = '"' then valueFrom environment (.value (!quoted)) done rest
      else if quoted then valueFrom environment (.value true) (c :: done) rest
      else if c = '\'' then valueFrom environment .strong done rest
      else if c = ' ' || c = '\t' then valueFrom environment .ended done rest
      else valueFrom environment (.value false) (c :: done) rest

/-! Assignments -/

def isNameStart (c : Char) : Bool := c.isAlpha || c == '_'

def isNamePart (c : Char) : Bool := c.isAlphanum || c == '_' || c == '.'

def name? (text : List Char) : Option (List Char × List Char) :=
  match text with
  | [] => none
  | c :: _ =>
    if isNameStart c then
      some (text.takeWhile isNamePart, Text.skipBlank (text.dropWhile isNamePart))
    else none

def dropSign : List Char → Option (List Char)
  | '=' :: rest => some rest
  | _ => none

/-- The name before the sign and the text behind it. The word `export` may stand in front. -/
def target? (text : List Char) : Option (List Char × List Char) := do
  let (name, rest) ← name? text
  match dropSign rest with
  | some value => return (name, value)
  | none =>
    if name = "export".toList then
      let (name, rest) ← name? rest
      return (name, ← dropSign rest)
    else none

def isSilent (text : List Char) : Bool :=
  match text with
  | [] => true
  | c :: _ => c == '#'

def apply (environment : Environment) (line : List Char) : Option Environment := do
  let line := Text.trim line
  if isSilent line then return environment
  let (name, rest) ← target? line
  let value := Text.skipBlank rest
  let value ← if isSilent value then pure [] else valueFrom environment (.value false) [] value
  return environment.provide (String.ofList name) (String.ofList value)

def applyLines (environment : Environment) : List (Option (List Char)) → Environment
  | [] => environment
  | none :: _ => environment
  | some line :: rest =>
    match apply environment line with
    | none => environment
    | some next => applyLines next rest

def dropMark : List UInt8 → List UInt8
  | 0xEF :: 0xBB :: 0xBF :: rest => rest
  | bytes => bytes

def load (environment : Environment) (bytes : List UInt8) : Environment :=
  applyLines environment (logicalLines [] .closed (physicalLines (dropMark bytes)))

end EnvFile

namespace Environment

/-- A variable of a block, without the byte that ends it. -/
def assignment? (entry : List UInt8) : Option (String × String) := do
  let text ← Text.Utf8.decode? entry.dropLast
  match text.dropWhile (· ≠ '=') with
  | [] => none
  | _ :: value => return (String.ofList (text.takeWhile (· ≠ '=')), String.ofList value)

/-- The environment that the system gives as a block of entries, each ended by a zero byte. -/
def ofBlock (block : List UInt8) : Environment :=
  ⟨(EnvFile.partsEndedBy 0 block).filterMap assignment?⟩

end Environment

end GameSheet
