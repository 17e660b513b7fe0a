import StateFlow.Json.Display

/-!
Values of the wrong kind for what is done with them.
-/
namespace StateFlow

inductive KindError where
  | noAttribute (value : Json) (name : String)
  | notIndexed (value : Json)
  | noKey (key : String)
  | notJoined (value : Json) (kind : String)
  | badOperands (sign : String) (left right : Json)
  | notPath (value : Json)
  | notWhole (value : Json)

namespace KindError

def message : KindError → String
  | .noAttribute value name =>
    "'" ++ value.kindName ++ "' object has no attribute '" ++ name ++ "'"
  | .notIndexed (.str _) => "string indices must be integers, not 'str'"
  | .notIndexed (.arr _) => "list indices must be integers or slices, not str"
  | .notIndexed value => "'" ++ value.kindName ++ "' object is not subscriptable"
  | .noKey key => (Json.str key).quoted
  | .notJoined value kind =>
    "can only concatenate " ++ kind ++ " (not \"" ++ value.kindName ++ "\") to " ++ kind
  | .badOperands sign left right =>
    "unsupported operand type(s) for " ++ sign ++ ": '" ++ left.kindName ++ "' and '" ++
      right.kindName ++ "'"
  | .notPath value => "expected str, bytes or os.PathLike object, not " ++ value.kindName
  | .notWhole value =>
    "int() argument must be a string, a bytes-like object or a real number, not '" ++
      value.kindName ++ "'"

def typeName : KindError → String
  | .noAttribute _ _ => "AttributeError"
  | .noKey _ => "KeyError"
  | _ => "TypeError"

end KindError

namespace Json

def member? (value : Json) (key : String) : Except KindError (Option Json) :=
  match value with
  | .obj fields => .ok (lookup key fields)
  | value => .error (.noAttribute value "get")

def memberOr (value default : Json) (key : String) : Except KindError Json :=
  (value.member? key).map (·.getD default)

def member (value : Json) (key : String) : Except KindError Json :=
  match value with
  | .obj fields => match lookup key fields with
    | some v => .ok v
    | none => .error (.noKey key)
  | value => .error (.notIndexed value)

end Json

end StateFlow
