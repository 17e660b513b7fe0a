import StateFlow.Path
import StateFlow.Rule
import StateFlow.Rule.Operand
import StateFlow.Text.Lowercase
import StateFlow.Wildcard

/-!
Evaluating choice rules and choosing the next state. A rule is true or false or fails on a path that
selects nothing; nested rules are evaluated in order, and only as far as the outcome needs. Values
that do not fit the family of a comparison never match. Where the text of a failed path cannot be
written, neither a test for presence nor a default catches what comes out instead.
-/
namespace StateFlow

def Relation.holds : Relation → Ordering → Bool
  | .equals, o => o == .eq
  | .greaterThan, o => o == .gt
  | .greaterThanEquals, o => o != .lt
  | .lessThan, o => o == .lt
  | .lessThanEquals, o => o != .gt

def TypeTest.holds : TypeTest → Json → Bool
  | .isNull, v => v == .null
  | .isPresent, _ => true
  | .isNumeric, v => Operand.isNumber v
  | .isString, .str _ => true
  | .isString, _ => false
  | .isBoolean, .bool _ => true
  | .isBoolean, _ => false
  | .isTimestamp, v => Timestamp.isTimestamp v

namespace Operand

def compareTexts (s t : String) : Ordering :=
  if s = t then .eq else if s < t then .lt else .gt

def compare? (family : Family) (x y : Json) : Option Ordering :=
  match family with
  | .text => do pure (compareTexts (← (text x).toOption) (← (text y).toOption))
  | .numeric => do (← (number x).toOption).compare? (← (number y).toOption)
  | .timestamp => do pure (compare (← (instant x).toOption) (← (instant y).toOption))
  | .boolean => do pure (compare (← (boolean x).toOption) (← (boolean y).toOption))

def sameLetters : Json → Json → Bool
  | .str s, .str t => Text.lower s.toList == Text.lower t.toList
  | _, _ => false

def accepts (pattern value : Json) : Bool :=
  match value, pattern with
  | .str s, .str p => Wildcard.accepts p.toList s.toList
  | _, _ => false

end Operand

namespace Comparator

def holds (comparator : Comparator) (value operand : Json) : Bool :=
  match comparator with
  | .relation family rel _ => ((Operand.compare? family value operand).map rel.holds).getD false
  | .stringMatches => Operand.accepts operand value
  | .sameLetters => Operand.sameLetters value operand
  | .typeTest test => Json.bool (test.holds value) == operand

end Comparator

namespace Rule

def compareWith (subject : String) (comparator : Comparator) (operand data context : Json) :
    Except (Reported PathError) Bool :=
  let value := Path.first data context (.str subject)
  if comparator = .typeTest .isPresent then
    match value with
    | .ok _ => .ok (Json.bool true == operand)
    | .error (.told _) => .ok (Json.bool false == operand)
    | .error .unwritable => .error .unwritable
  else do
    let value ← value
    let operand ← if comparator.takesPath then Path.first data context operand else pure operand
    pure (comparator.holds value operand)

mutual
def evaluate (data context : Json) : Rule → Except (Reported PathError) Bool
  | .comparison subject comparator operand _ =>
    compareWith subject comparator operand data context
  | .all rules _ => evaluateAll data context rules
  | .any rules _ => evaluateAny data context rules
  | .not rule _ => (evaluate data context rule).map (!·)
def evaluateAll (data context : Json) : List Rule → Except (Reported PathError) Bool
  | [] => .ok true
  | rule :: rules => do
    if ← evaluate data context rule then evaluateAll data context rules else pure false
def evaluateAny (data context : Json) : List Rule → Except (Reported PathError) Bool
  | [] => .ok false
  | rule :: rules => do
    if ← evaluate data context rule then pure true else evaluateAny data context rules
end

end Rule

inductive ChoiceError where
  | path (cause : PathError)
  | noMatch (state : String)

def ChoiceError.message : ChoiceError → String
  | .path cause => cause.message
  | .noMatch state =>
    "The Choice state \"" ++ state ++
      "\" failed to find a match for the condition field extracted from its input"

/-- The next state that rules in order choose. With a default a rule that fails on a path does not
match, and the default is chosen after all others. -/
def chooseNext (state : String) (default data context : Json) :
    List Rule → Except (Reported ChoiceError) Json
  | [] => if default.isFalsy then .error (.told (.noMatch state)) else .ok default
  | rule :: rules =>
    match rule.evaluate data context with
    | .ok true => .ok rule.next
    | .ok false => chooseNext state default data context rules
    | .error (.told e) =>
      if default = .null then .error (.told (.path e))
      else chooseNext state default data context rules
    | .error .unwritable => .error .unwritable

end StateFlow
