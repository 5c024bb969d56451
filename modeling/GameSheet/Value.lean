import GameSheet.Number.FloatText
import GameSheet.Number.Integer
import GameSheet.Time.Ticks

/-!
The values of cells. Floating-point numbers are kept as bit patterns, so every NaN stays the one it
was. `text` writes a value in the form that its column type parses.
-/

namespace GameSheet

open Number (IntegerKind Bounded FloatFormat FloatStyle)

/-- Values made of several single-precision numbers. -/
inductive FloatShape where
  | vector2 | vector3 | vector4 | quaternion | rect | color
  deriving DecidableEq, Repr

namespace FloatShape

def all : List FloatShape := [vector2, vector3, vector4, quaternion, rect, color]

def name : FloatShape → String
  | vector2 => "vector2"
  | vector3 => "vector3"
  | vector4 => "vector4"
  | quaternion => "quaternion"
  | rect => "rect"
  | color => "color"

def components : FloatShape → List String
  | vector2 => ["x", "y"]
  | vector3 => ["x", "y", "z"]
  | vector4 | quaternion => ["x", "y", "z", "w"]
  | rect => ["x", "y", "width", "height"]
  | color => ["r", "g", "b", "a"]

def arity (shape : FloatShape) : Nat := shape.components.length

end FloatShape

inductive Kind where
  | bool
  | integer (kind : IntegerKind)
  | float
  | double
  | char
  | string
  | datetime
  | tuple (shape : FloatShape)
  | color32
  deriving DecidableEq, Repr

namespace Kind

def all : List Kind :=
  [bool] ++ IntegerKind.all.map integer ++ [float, double, char, string, datetime] ++
    FloatShape.all.map tuple ++ [color32]

def name : Kind → String
  | bool => "bool"
  | integer kind => kind.name
  | float => "float"
  | double => "double"
  | char => "char"
  | string => "string"
  | datetime => "datetime"
  | tuple shape => shape.name
  | color32 => "color32"

end Kind

inductive Value where
  | bool (flag : Bool)
  | integer (kind : IntegerKind) (n : Bounded kind)
  | float (bits : UInt32)
  | double (bits : UInt64)
  | char (c : Char)
  | string (s : String)
  | datetime (ticks : Time.Ticks)
  | tuple (shape : FloatShape) (components : Vector UInt32 shape.arity)
  | color32 (r g b a : Bounded .byte)
  deriving DecidableEq

namespace Value

def kind : Value → Kind
  | bool _ => .bool
  | integer kind _ => .integer kind
  | float _ => .float
  | double _ => .double
  | char _ => .char
  | string _ => .string
  | datetime _ => .datetime
  | tuple shape _ => .tuple shape
  | color32 .. => .color32

def singleText (bits : UInt32) : List Char := FloatFormat.single.text .cell bits.toNat

def doubleText (bits : UInt64) : List Char := FloatFormat.double.text .cell bits.toNat

def commaText (parts : List (List Char)) : List Char := (parts.intersperse [',']).flatten

def chars : Value → List Char
  | bool flag => if flag then "true".toList else "false".toList
  | integer _ n => n.text
  | float bits => singleText bits
  | double bits => doubleText bits
  | char c => [c]
  | string s => s.toList
  | datetime ticks => ticks.text
  | tuple _ components => commaText (components.toList.map singleText)
  | color32 r g b a => commaText [r.text, g.text, b.text, a.text]

def text (value : Value) : String := String.ofList value.chars

def asString : Value → Option String
  | string s => some s
  | _ => none

/-- An integer of any kind, if it fits 64 signed bits. -/
def asLong : Value → Option (Bounded .long)
  | integer _ n => Bounded.ofInt? .long n.toInt
  | _ => none

end Value

/-- A type that code asks for when it takes a value out of a record. -/
structure Target (α : Type) where
  expected : String
  take : Value → Option α

namespace Target

def value : Target Value := ⟨"any", some⟩

def ofKind (kind : Kind) : Target Value :=
  ⟨kind.name, fun found => if found.kind = kind then some found else none⟩

def int : Target (Bounded .int) :=
  ⟨"int", fun
    | .integer .int n => some n
    | _ => none⟩

def bool : Target Bool :=
  ⟨"bool", fun
    | .bool flag => some flag
    | _ => none⟩

def float : Target UInt32 :=
  ⟨"float", fun
    | .float bits => some bits
    | _ => none⟩

def string : Target String := ⟨"string", Value.asString⟩

end Target

end GameSheet
