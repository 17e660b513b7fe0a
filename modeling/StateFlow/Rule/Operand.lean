import StateFlow.Json.Display
import StateFlow.Number
import StateFlow.Timestamp

/-!
The operands that a comparison of one family takes: texts, numbers, truth values and instants.
Numbers may be given as text, and instants are compared as whole milliseconds.
-/
namespace StateFlow.Operand

inductive CoercionError where
  | notString (value : Json)
  | notNumeric (value : Json)
  | notBoolean (value : Json)
  | badNumeral (text : String)
  | badTimestamp (cause : TimestampError)

def CoercionError.message : CoercionError → String
  | .notString value => value.quoted ++ " is not a string"
  | .notNumeric value => value.quoted ++ " is not numeric"
  | .notBoolean value => value.quoted ++ " is not a boolean"
  | .badNumeral text => Text.realMessage text
  | .badTimestamp cause => cause.message

def isNumber (value : Json) : Bool := (Number.ofJson? value).isSome

def text : Json → Except CoercionError String
  | .str s => .ok s
  | value => .error (.notString value)

/-- A text is read as a whole number if it is one, and as a double otherwise. -/
def number (value : Json) : Except CoercionError Number :=
  match Number.ofJson? value with
  | some x => .ok x
  | none =>
    match value with
    | .str s =>
      match Text.readInteger s with
      | .ok n => .ok (.int n)
      | .error _ =>
        match Text.readReal? s with
        | some x => .ok (.real x)
        | none => .error (.badNumeral s)
    | value => .error (.notNumeric value)

def boolean : Json → Except CoercionError Bool
  | .bool b => .ok b
  | value => .error (.notBoolean value)

def instant (value : Json) : Except CoercionError Int :=
  match Timestamp.millis value with
  | .ok millis => .ok millis
  | .error cause => .error (.badTimestamp cause)

end StateFlow.Operand
