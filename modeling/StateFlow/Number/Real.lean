import StateFlow.Number

/-!
Doubles taken from values: the nearest one to a number, a truth value as zero or one, and a text
that is a numeral.
-/
namespace StateFlow

inductive RealError where
  | tooLarge
  | numeral (text : String)
  | notNumber (value : Json)

def RealError.message : RealError → String
  | .tooLarge => "int too large to convert to float"
  | .numeral text => Text.realMessage text
  | .notNumber value =>
    "float() argument must be a string or a real number, not '" ++ value.kindName ++ "'"

namespace Number

def toReal (x : Number) : Except RealError Binary64 :=
  match x.toReal? with
  | some y => .ok y
  | none => .error .tooLarge

end Number

namespace Json

def toReal : Json → Except RealError Binary64
  | .int n => (Number.int n).toReal
  | .real x => .ok x
  | .bool b => .ok (.ofNat b.toNat)
  | .str s => match Text.readReal? s with
    | some x => .ok x
    | none => .error (.numeral s)
  | value => .error (.notNumber value)

end Json

end StateFlow
