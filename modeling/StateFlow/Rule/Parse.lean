import StateFlow.Rule

/-!
Reading choice rules. A rule is an object with exactly one comparator beside its variable, or with
exactly one of `And`, `Or` and `Not` and nested rules; a single nested rule need not be in a list.
The first fault found is the error, and names the place of the rule.
-/
namespace StateFlow

inductive RuleError where
  | notObject (location : String)
  | noNext (location : String)
  | mixed (location operator : String)
  | empty (location operator : String)
  | notSingle (location : String)
  | comparatorCount (location : String) (found : List String)
  | unknownComparator (location name : String)
  | variableNotPath (location : String)
  | operandNotPath (location name : String)
  | operandNotBoolean (location name : String)

def RuleError.message : RuleError → String
  | .notObject location => "Choice Rule at " ++ location ++ " must be an object"
  | .noNext location => "Choice Rule at " ++ location ++ " has no \"Next\" field"
  | .mixed location operator =>
    "Choice Rule at " ++ location ++ " combines " ++ operator ++
      " with other operators, a combinator may only contain nested Choice Rules"
  | .empty location operator =>
    "Choice Rule at " ++ location ++ "." ++ operator ++ " must not be empty"
  | .notSingle location => "Choice Rule at " ++ location ++ ".Not must hold a single Choice Rule"
  | .comparatorCount location found =>
    "Choice Rule at " ++ location ++ " must have exactly one comparison operator, found " ++
      (Json.arr (found.map .str)).quoted
  | .unknownComparator location name =>
    "Choice Rule at " ++ location ++ " has an unknown comparison operator \"" ++ name ++ "\""
  | .variableNotPath location =>
    "Field \"Variable\" of Choice Rule at " ++ location ++ " is not a JSONPath"
  | .operandNotPath location name =>
    "Field \"" ++ name ++ "\" of Choice Rule at " ++ location ++ " is not a JSONPath"
  | .operandNotBoolean location name =>
    "Field \"" ++ name ++ "\" of Choice Rule at " ++ location ++ " must be a boolean"

namespace Rule

def isPathText : Json → Bool
  | .str s => s.toList.head? == some '$'
  | _ => false

def isText : Json → Bool
  | .str _ => true
  | _ => false

def isTruthValue : Json → Bool
  | .bool _ => true
  | _ => false

inductive Operator where
  | all
  | any
  | not
  deriving DecidableEq

def Operator.word : Operator → String
  | .all => "And"
  | .any => "Or"
  | .not => "Not"

def operators : List Operator := [.all, .any, .not]

def operatorsIn (fields : List (String × Json)) : List Operator :=
  operators.filter fun op => (Json.lookup op.word fields).isSome

/-- The keys that should name comparators. -/
def comparatorsIn (fields : List (String × Json)) : List String :=
  (fields.map Prod.fst).filter fun key =>
    key ∉ ["Variable", "Next", "Comment"] && key ∉ operators.map Operator.word

def ofComparison (location : String) (fields : List (String × Json)) : Except RuleError Rule :=
  match comparatorsIn fields with
  | [name] =>
    match Comparator.ofName? name, Json.lookup "Variable" fields with
    | none, _ => .error (.unknownComparator location name)
    | some comparator, some (.str subject) =>
      let operand := (Json.lookup name fields).getD .null
      if subject.toList.head? ≠ some '$' then .error (.variableNotPath location)
      else if comparator.takesPath ∧ !isPathText operand then
        .error (.operandNotPath location name)
      else if comparator.isTypeTest ∧ !isTruthValue operand then
        .error (.operandNotBoolean location name)
      else .ok (.comparison subject comparator operand ((Json.lookup "Next" fields).getD .null))
    | some _, _ => .error (.variableNotPath location)
  | found => .error (.comparatorCount location found)

theorem sizeOf_of_lookup {key : String} {fields : List (String × Json)} {value : Json}
    (h : Json.lookup key fields = some value) : sizeOf value < 1 + sizeOf fields := by
  induction fields with
  | nil => simp [Json.lookup] at h
  | cons field rest ih =>
    obtain ⟨k, v⟩ := field
    simp only [Json.lookup] at h
    split at h
    · cases h
      simp only [List.cons.sizeOf_spec, Prod.mk.sizeOf_spec]
      omega
    · have := ih h
      simp only [List.cons.sizeOf_spec]
      omega

mutual
/-- The rule that a value holds. Only rules at the top need a next state. -/
def parse (location : String) (top : Bool) (raw : Json) : Except RuleError Rule :=
  match raw with
  | .obj fields =>
    let next := (Json.lookup "Next" fields).getD .null
    if top && !isText next then .error (.noNext location)
    else match operatorsIn fields with
    | [] => ofComparison location fields
    | op :: more =>
      if more ≠ [] ∨ comparatorsIn fields ≠ [] ∨ (Json.lookup "Variable" fields).isSome then
        .error (.mixed location op.word)
      else match h : Json.lookup op.word fields with
        | none => .error (.comparatorCount location [])
        | some value =>
          have := sizeOf_of_lookup h
          joinNested location op next value
  | _ => .error (.notObject location)
termination_by (sizeOf raw, 0)
def joinNested (location : String) (op : Operator) (next value : Json) : Except RuleError Rule :=
  match value with
  | .arr [] => .error (.empty location op.word)
  | .arr (item :: items) =>
    if op = .not ∧ items ≠ [] then .error (.notSingle location)
    else do
      let first ← parse (location ++ "." ++ op.word ++ "[0]") false item
      let others ← parseItems (location ++ "." ++ op.word) 1 items
      pure (match op with
        | .all => .all (first :: others) next
        | .any => .any (first :: others) next
        | .not => .not first next)
  | value => do
    let rule ← parse (location ++ "." ++ op.word ++ "[0]") false value
    pure (match op with
      | .all => .all [rule] next
      | .any => .any [rule] next
      | .not => .not rule next)
termination_by (sizeOf value, 1)
def parseItems (location : String) (index : Nat) (items : List Json) :
    Except RuleError (List Rule) :=
  match items with
  | [] => .ok []
  | item :: items => do
    let rule ← parse (location ++ "[" ++ String.ofList (Decimal.digits index) ++ "]") false item
    let rules ← parseItems location (index + 1) items
    pure (rule :: rules)
termination_by (sizeOf items, 0)
end

theorem parse_of_comparison {location : String} {top : Bool} {fields : List (String × Json)}
    (named : (top && !isText ((Json.lookup "Next" fields).getD .null)) = false)
    (plain : operatorsIn fields = []) :
    parse location top (.obj fields) = ofComparison location fields := by
  rw [parse]
  simp [named, plain]

theorem parse_of_operator {location : String} {top : Bool} {fields : List (String × Json)}
    {op : Operator} {value : Json}
    (named : (top && !isText ((Json.lookup "Next" fields).getD .null)) = false)
    (single : operatorsIn fields = [op]) (alone : comparatorsIn fields = [])
    (noVariable : Json.lookup "Variable" fields = none)
    (found : Json.lookup op.word fields = some value) :
    parse location top (.obj fields) =
      joinNested location op ((Json.lookup "Next" fields).getD .null) value := by
  rw [parse]
  simp only [named, single, alone, noVariable, Bool.false_eq_true, if_false, ne_eq,
    not_true_eq_false, Option.isSome_none, or_self]
  split
  · next missing => simp [found] at missing
  · next other same =>
    rw [found] at same
    cases same
    rfl

end Rule

end StateFlow
