import GameSheet.Value
import GameSheet.Wire.Reader

/-!
A codec joins the three forms of a column type: the text of a cell, the value, and the bytes in a
row. Writing gives the bytes to append; a write that fails says which bytes it had already put down.
-/

namespace GameSheet

/-- Why a cell's text is no value of its column type. -/
inductive ParseError where
  | invalid (expected text : String)
  | outOfRange (expected text : String)
  | arity (expected : String) (wanted found : Nat) (text : String)
  | notEncodable (keyword : String)
  deriving DecidableEq, Repr

namespace ParseError

def code : ParseError → String
  | invalid .. => "PARSE_INVALID"
  | outOfRange .. => "PARSE_OUT_OF_RANGE"
  | arity .. => "PARSE_ARITY"
  | notEncodable .. => "PARSE_NOT_ENCODABLE"

def message : ParseError → String
  | invalid expected text => s!"'{text}' is not a valid {expected}"
  | outOfRange expected text => s!"'{text}' is out of range for {expected}"
  | arity expected wanted found text =>
    s!"'{text}' has {found} components, {expected} expects {wanted}"
  | notEncodable keyword => s!"{keyword} columns carry no value"

instance : Diagnostic ParseError where
  severity _ := .recoverable
  code := code
  message := message

end ParseError

inductive WriteError where
  | typeMismatch (codec : String) (found : Kind)
  | notEncodable (keyword : String)
  deriving DecidableEq, Repr

namespace WriteError

def code : WriteError → String
  | typeMismatch .. => "WRITE_TYPE_MISMATCH"
  | notEncodable .. => "WRITE_NOT_ENCODABLE"

def message : WriteError → String
  | typeMismatch codec found => s!"{codec} codec cannot write a {found.name} value"
  | notEncodable keyword => s!"{keyword} columns are never encoded"

instance : Diagnostic WriteError where
  severity _ := .recoverable
  code := code
  message := message

end WriteError

/-- A failed write and the bytes that it left in the sink. -/
structure PartialWrite where
  left : List UInt8
  reason : WriteError
  deriving DecidableEq, Repr

structure Codec where
  keyword : String
  parse : String → Except ParseError Value
  write : Value → Except PartialWrite (List UInt8)
  read : Wire.Reader Value
  isIdentifier : Bool := false
  /-- Columns of this type only document the sheet. -/
  isComment : Bool := false
  /-- Cells of this type are counted in the string pool. -/
  isString : Bool := false

namespace Codec

/-- A write of the wrong kind puts nothing down. -/
def mismatch (keyword : String) (found : Value) : Except PartialWrite (List UInt8) :=
  .error ⟨[], .typeMismatch keyword found.kind⟩

end Codec

end GameSheet
