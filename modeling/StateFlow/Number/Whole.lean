import StateFlow.Json.Kind
import StateFlow.Number

/-!
Whole numbers taken from values: a number without its fraction, a truth value as zero or one, and a
text that is a whole numeral.
-/
namespace StateFlow

inductive WholeError where
  | numeral (text : String) (cause : Text.IntegerError)
  | infinite
  | notANumber
  | kind (cause : KindError)

def WholeError.message : WholeError → String
  | .numeral text cause => cause.message text
  | .infinite => "cannot convert float infinity to integer"
  | .notANumber => "cannot convert float NaN to integer"
  | .kind cause => cause.message

namespace Number

def thousandfold : Number → Number
  | .int n => .int (1000 * n)
  | .real x => .real (x.mul (.ofNat 1000))

def whole : Number → Except WholeError Int
  | .int n => .ok n
  | .real x => match x.truncate? with
    | some n => .ok n
    | none => .error (if x = .nan then .notANumber else .infinite)

end Number

namespace Json

def whole : Json → Except WholeError Int
  | .int n => .ok n
  | .real x => (Number.real x).whole
  | .bool b => .ok b.toNat
  | .str s => match Text.readInteger s with
    | .ok n => .ok n
    | .error cause => .error (.numeral s cause)
  | value => .error (.kind (.notWhole value))

end Json

end StateFlow
