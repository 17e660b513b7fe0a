import StateFlow.Json.Display

/-!
Choice rules. A rule compares the value of a variable with an operand, or joins nested rules; rules
at the top of a choice also name the next state. Comparators have names, which `ofName?` reads back.
-/
namespace StateFlow

inductive Family where
  | text
  | numeric
  | timestamp
  | boolean
  deriving DecidableEq

inductive Relation where
  | equals
  | greaterThan
  | greaterThanEquals
  | lessThan
  | lessThanEquals
  deriving DecidableEq

inductive TypeTest where
  | isNull
  | isPresent
  | isNumeric
  | isString
  | isBoolean
  | isTimestamp
  deriving DecidableEq

/-- The operand of a `relation` is a path where `path` holds, and a literal otherwise. -/
inductive Comparator where
  | relation (family : Family) (relation : Relation) (path : Bool)
  | stringMatches
  | sameLetters
  | typeTest (test : TypeTest)
  deriving DecidableEq

inductive Rule where
  | comparison (subject : String) (comparator : Comparator) (operand next : Json)
  | all (rules : List Rule) (next : Json)
  | any (rules : List Rule) (next : Json)
  | not (rule : Rule) (next : Json)

def Family.name : Family → String
  | .text => "String"
  | .numeric => "Numeric"
  | .timestamp => "Timestamp"
  | .boolean => "Boolean"

def Relation.name : Relation → String
  | .equals => "Equals"
  | .greaterThan => "GreaterThan"
  | .greaterThanEquals => "GreaterThanEquals"
  | .lessThan => "LessThan"
  | .lessThanEquals => "LessThanEquals"

def TypeTest.name : TypeTest → String
  | .isNull => "IsNull"
  | .isPresent => "IsPresent"
  | .isNumeric => "IsNumeric"
  | .isString => "IsString"
  | .isBoolean => "IsBoolean"
  | .isTimestamp => "IsTimestamp"

namespace Comparator

def name : Comparator → String
  | .relation family rel path => family.name ++ rel.name ++ if path then "Path" else ""
  | .stringMatches => "StringMatches"
  | .sameLetters => "CaseInsensitiveStringEquals"
  | .typeTest test => test.name

def relations : List Relation :=
  [.equals, .greaterThan, .greaterThanEquals, .lessThan, .lessThanEquals]

def relationsOf : Family → List Relation
  | .boolean => [.equals]
  | _ => relations

def known : List Comparator :=
  ([Family.text, .numeric, .timestamp, .boolean].flatMap fun family =>
    (relationsOf family).flatMap fun rel =>
      [.relation family rel false, .relation family rel true]) ++
    [.stringMatches, .sameLetters] ++
    [TypeTest.isNull, .isPresent, .isNumeric, .isString, .isBoolean, .isTimestamp].map .typeTest

def ofName? (name : String) : Option Comparator := known.find? fun c => c.name == name

theorem name_of_ofName? {name : String} {c : Comparator} (h : ofName? name = some c) :
    c.name = name := by
  have := List.find?_some h
  simpa using this

def takesPath : Comparator → Bool
  | .relation _ _ path => path
  | _ => false

def isTypeTest : Comparator → Bool
  | .typeTest _ => true
  | _ => false

def family? : Comparator → Option Family
  | .relation family _ _ => some family
  | .stringMatches => some .text
  | _ => none

def operation : Comparator → String
  | .relation _ rel _ => rel.name
  | .stringMatches => "Matches"
  | .sameLetters => "CaseInsensitiveStringEquals"
  | .typeTest test => test.name

end Comparator

namespace Rule

def next : Rule → Json
  | .comparison _ _ _ next => next
  | .all _ next => next
  | .any _ next => next
  | .not _ next => next

def operator? : Rule → Option String
  | .comparison _ _ _ _ => none
  | .all _ _ => some "And"
  | .any _ _ => some "Or"
  | .not _ _ => some "Not"

def nested : Rule → List Rule
  | .comparison _ _ _ _ => []
  | .all rules _ => rules
  | .any rules _ => rules
  | .not rule _ => [rule]

mutual
def summary : Rule → String
  | .comparison subject comparator operand next =>
    "ComparisonRule(" ++ subject ++ " " ++ comparator.name ++ " " ++ operand.quoted ++ " -> " ++
      next.display ++ ")"
  | .all rules next => joined "And" (summaries rules) next
  | .any rules next => joined "Or" (summaries rules) next
  | .not rule next => joined "Not" [summary rule] next
def summaries : List Rule → List String
  | [] => []
  | rule :: rules => summary rule :: summaries rules
def joined (operator : String) (parts : List String) (next : Json) : String :=
  "CombinatorRule(" ++ operator ++ " [" ++ ", ".intercalate parts ++ "] -> " ++ next.display ++ ")"
end

end Rule

end StateFlow
