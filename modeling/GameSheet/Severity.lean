/-!
How far an error reaches. A recoverable one may be covered by a default, a validation error
concerns the input alone, and a fatal one gives up the whole table.
-/

namespace GameSheet

inductive Severity where
  | recoverable
  | validation
  | fatal
  deriving DecidableEq, Repr

def Severity.name : Severity → String
  | recoverable => "recoverable"
  | validation => "validation"
  | fatal => "fatal"

/-- What every error of the library can say about itself. `causes` are the texts of the errors it
carries, outermost first, without its own. -/
class Diagnostic (ε : Type) where
  severity : ε → Severity
  code : ε → String
  message : ε → String
  causes : ε → List String := fun _ => []

end GameSheet
