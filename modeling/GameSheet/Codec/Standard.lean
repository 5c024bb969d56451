import GameSheet.Codec.Basic
import GameSheet.Text.Blank
import GameSheet.Text.Pieces
import GameSheet.Time.DateText

/-!
The standard column types. Integers of up to 16 bits and floating-point numbers take a fixed number
of bytes, wider integers travel as varints of their bit pattern, strings carry their length, and
composites are their components one after another.
-/

namespace GameSheet

open Number (IntegerKind Bounded FloatFormat NumeralFault)
open Wire

/-- A column type of every registry. -/
inductive ColumnType where
  | id
  | bool
  | integer (kind : IntegerKind)
  | float
  | double
  | char
  | string
  | datetime
  | tuple (shape : FloatShape)
  | color32
  | comment
  deriving DecidableEq, Repr

namespace ColumnType

def all : List ColumnType :=
  [id, bool] ++ IntegerKind.all.map integer ++ [float, double, char, string, datetime] ++
    FloatShape.all.map tuple ++ [color32, comment]

def keyword : ColumnType → String
  | id => "id"
  | bool => "bool"
  | integer kind => kind.name
  | float => "float"
  | double => "double"
  | char => "char"
  | string => "string"
  | datetime => "datetime"
  | tuple shape => shape.name
  | color32 => "color32"
  | comment => "comment"

def aliases : ColumnType → List String
  | bool => ["boolean"]
  | integer .byte => ["uint8", "u8"]
  | integer .sbyte => ["int8", "i8"]
  | integer .short => ["int16", "i16"]
  | integer .ushort => ["uint16", "u16"]
  | integer .int => ["int32", "i32"]
  | integer .uint => ["uint32", "u32"]
  | integer .long => ["int64", "i64"]
  | integer .ulong => ["uint64", "u64"]
  | float => ["single", "f32"]
  | double => ["f64"]
  | datetime => ["timestamp"]
  | comment => ["#", ""]
  | id | char | string | tuple _ | color32 => []

end ColumnType

namespace Codec

def numeralError (expected text : String) : NumeralFault → ParseError
  | .malformed => .invalid expected text
  | .overflow => .outOfRange expected text

/-- Blanks around a numeral are ignored; errors name the whole text. -/
def parseInteger (kind : IntegerKind) (expected text : String) : Except ParseError (Bounded kind) :=
  (Bounded.read kind (Text.trim text.toList)).mapError (numeralError expected text)

def parseFloat (format : FloatFormat) (expected text : String) : Except ParseError Nat :=
  match format.read (Text.trim text.toList) with
  | some bits => .ok bits
  | none => .error (.invalid expected text)

def parseBool (text : String) : Except ParseError Bool :=
  let chars := Text.trim text.toList
  if Number.matchesWord "true" chars ∨ chars = ['1'] then .ok true
  else if Number.matchesWord "false" chars ∨ chars = ['0'] then .ok false
  else .error (.invalid "bool" text)

def parseChar (text : String) : Except ParseError Char :=
  match text.toList with
  | [c] => .ok c
  | _ => .error (.invalid "char" text)

/-- A tick count, or else a calendar text. -/
def parseTicks (text : String) : Except ParseError Time.Ticks :=
  let chars := Text.trim text.toList
  match Bounded.read .long chars with
  | .ok ticks => if ticks.toInt < 0 then .error (.outOfRange "datetime" text) else .ok ticks
  | .error _ =>
    match Time.readMoment chars with
    | none => .error (.invalid "datetime" text)
    | some (seconds, nanoseconds) =>
      match Time.ticksAt seconds nanoseconds with
      | some ticks => .ok ticks
      | none => .error (.outOfRange "datetime" text)

/-- The comma-separated parts of a text, `arity` of them. -/
def splitComponents (expected : String) (arity : Nat) (text : String) :
    Except ParseError (Vector String arity) :=
  let parts := ((Text.pieces ',' text.toList).map String.ofList).toArray
  if exact : parts.size = arity then .ok ⟨parts, exact⟩
  else .error (.arity expected arity parts.size text)

/-- A component that does not parse makes the whole text invalid. -/
def parseComponents {α : Type} (expected : String) (arity : Nat)
    (parse : String → Except ParseError α) (text : String) : Except ParseError (Vector α arity) := do
  (← splitComponents expected arity text).mapM
    (fun part => (parse part).mapError (fun _ => .invalid expected text))

def parseTuple (shape : FloatShape) (text : String) :
    Except ParseError (Vector UInt32 shape.arity) :=
  parseComponents shape.name shape.arity
    (fun part => (parseFloat .single shape.name part).map UInt32.ofNat) text

def parseColor32 (text : String) : Except ParseError Value := do
  let parts ← parseComponents "color32" 4 (parseInteger .byte "byte") text
  return .color32 parts[0] parts[1] parts[2] parts[3]

/-- Narrow integers have a fixed width, wide ones are varints. -/
def integerBytes {kind : IntegerKind} (n : Bounded kind) : List UInt8 :=
  if kind.bits ≤ 16 then LittleEndian.encode (kind.bits / 8) n.pattern else Varint.encode n.pattern

def readInteger (kind : IntegerKind) : Reader (Bounded kind) :=
  Bounded.ofPattern kind <$>
    (if kind.bits ≤ 16 then Reader.fixed (kind.bits / 8)
    else Reader.varint (if kind.bits = 32 then .narrow else .wide))

def singleBytes (bits : UInt32) : List UInt8 := LittleEndian.encode 4 bits.toNat

def readSingle : Reader UInt32 := UInt32.ofNat <$> Reader.fixed 4

def readSingles : (count : Nat) → Reader (Vector UInt32 count)
  | 0 => return #v[]
  | count + 1 => do
    let earlier ← readSingles count
    return earlier.push (← readSingle)

/-- A string's length has 32 bits; a longer string has no wire form. -/
def stringBytes (s : String) : Option (List UInt8) :=
  let bytes := Text.Utf8.encode s.toList
  if bytes.length < IntegerKind.uint.count then some (Varint.encode bytes.length ++ bytes) else none

def integer (kind : IntegerKind) : Codec where
  keyword := kind.name
  parse text := (parseInteger kind kind.name text).map (.integer kind)
  write
    | .integer found n =>
      if found = kind then .ok (integerBytes n) else mismatch kind.name (.integer found n)
    | other => mismatch kind.name other
  read := .integer kind <$> readInteger kind

/-- The wire form of `int`, whose name its write errors bear. -/
def id : Codec where
  keyword := "id"
  parse text := (parseInteger .int "id" text).map (.integer .int)
  write := (integer .int).write
  read := (integer .int).read
  isIdentifier := true

def bool : Codec where
  keyword := "bool"
  parse text := (parseBool text).map .bool
  write
    | .bool flag => .ok [if flag then 1 else 0]
    | other => mismatch "bool" other
  read := .bool <$> Reader.bool

def float : Codec where
  keyword := "float"
  parse text := (parseFloat .single "float" text).map (fun bits => .float (UInt32.ofNat bits))
  write
    | .float bits => .ok (singleBytes bits)
    | other => mismatch "float" other
  read := .float <$> readSingle

def double : Codec where
  keyword := "double"
  parse text := (parseFloat .double "double" text).map (fun bits => .double (UInt64.ofNat bits))
  write
    | .double bits => .ok (LittleEndian.encode 8 bits.toNat)
    | other => mismatch "double" other
  read := (fun bits => .double (UInt64.ofNat bits)) <$> Reader.fixed 8

def char : Codec where
  keyword := "char"
  parse text := (parseChar text).map .char
  write
    | .char c => .ok (Text.Utf8.encodeChar c)
    | other => mismatch "char" other
  read := .char <$> Reader.char

/-- The text of a string cell is the string. -/
def string : Codec where
  keyword := "string"
  parse text := .ok (.string text)
  write
    | .string s =>
      match stringBytes s with
      | some bytes => .ok bytes
      | none => mismatch "string" (.string s)
    | other => mismatch "string" other
  read := .string <$> Reader.string
  isString := true

def datetime : Codec where
  keyword := "datetime"
  parse text := (parseTicks text).map .datetime
  write
    | .datetime ticks => .ok (LittleEndian.encode 8 ticks.pattern)
    | other => mismatch "datetime" other
  read := (fun pattern => .datetime (Bounded.ofPattern .long pattern)) <$> Reader.fixed 8

def tuple (shape : FloatShape) : Codec where
  keyword := shape.name
  parse text := (parseTuple shape text).map (.tuple shape)
  write
    | .tuple found components =>
      if found = shape then .ok (components.toList.flatMap singleBytes)
      else mismatch shape.name (.tuple found components)
    | other => mismatch shape.name other
  read := .tuple shape <$> readSingles shape.arity

/-- The four bytes are taken together. -/
def color32 : Codec where
  keyword := "color32"
  parse := parseColor32
  write
    | .color32 r g b a => .ok ([r, g, b, a].flatMap integerBytes)
    | other => mismatch "color32" other
  read := do
    let pattern ← Reader.fixed 4
    return .color32 (.ofPattern .byte pattern) (.ofPattern .byte (pattern / 0x100))
      (.ofPattern .byte (pattern / 0x10000)) (.ofPattern .byte (pattern / 0x1000000))

/-- A comment column has no values. -/
def comment : Codec where
  keyword := "comment"
  parse _ := .error (.notEncodable "comment")
  write _ := .error ⟨[], .notEncodable "comment"⟩
  read := throw (.notDecodable "comment")
  isComment := true

end Codec

def ColumnType.codec : ColumnType → Codec
  | id => .id
  | bool => .bool
  | integer kind => .integer kind
  | float => .float
  | double => .double
  | char => .char
  | string => .string
  | datetime => .datetime
  | tuple shape => .tuple shape
  | color32 => .color32
  | comment => .comment

end GameSheet
