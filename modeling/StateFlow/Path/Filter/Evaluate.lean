import StateFlow.Path.Filter.Notation
import StateFlow.Path.Filter.Term
import StateFlow.Path.Filter.Value

/-!
Values of expressions in paths. An operation without a value leaves the whole expression without
one; an operand that decides a condition alone keeps the other one from being looked at.
-/
namespace StateFlow.Path.Filter

def compare? (op : Comparison) (x y : Value) : Option Bool :=
  match op with
  | .equal => some (x.agree y)
  | .unequal => some (!x.agree y)
  | .less => (x.order? y).map (· == some .lt)
  | .lessEqual => (x.order? y).map fun o => o == some .lt || o == some .eq
  | .greater => (x.order? y).map (· == some .gt)
  | .greaterEqual => (x.order? y).map fun o => o == some .gt || o == some .eq
  | .member => x.member? y
  | .notMember => (x.member? y).map (!·)

def operate? (op : Operation) (x y : Value) : Option Value :=
  match op with
  | .plus => x.plus? y
  | .minus => x.minus? y
  | .times => x.times? y

private def truth (b : Bool) : Value := .single (.bool b)

mutual
def Term.value? (here : Json) : Term → Option Value
  | .literal value => some (.ofJson value)
  | .subject => some (.ofJson here)
  | .unknown => none
  | .list items => (valueItems? here items).map (.sequence .list)
  | .tuple items => (valueItems? here items).map (.sequence .tuple)
  | .index term key => do (← term.value? here).at? (← key.value? here)
  | .slice term start stop step => do
    (← term.value? here).slice? (← start.value? here) (← stop.value? here) (← step.value? here)
  | .length term => do (← term.value? here).length?.map fun n => .single (.int n)
  | .negative term => do (← term.value? here).asNumber?.map fun n => .ofNumber n.neg
  | .positive term => do (← term.value? here).asNumber?.map .ofNumber
  | .operation op left right => do operate? op (← left.value? here) (← right.value? here)
  | .comparison op left right => do
    (compare? op (← left.value? here) (← right.value? here)).map truth
  | .negation term => do some (truth (← term.value? here).isFalsy)
  | .conjunction left right => do
    let value ← left.value? here
    if value.isFalsy then some value else right.value? here
  | .disjunction left right => do
    let value ← left.value? here
    if value.isFalsy then right.value? here else some value
def valueItems? (here : Json) : List Term → Option (List Value)
  | [] => some []
  | term :: rest => do
    let value ← term.value? here
    let values ← valueItems? here rest
    some (value :: values)
end

/-- The value of an expression, false where it has none. -/
def evaluate (text : List Char) (subject : Json) : Value :=
  ((Term.read? (writtenOut text)).bind (Term.value? subject)).getD (truth false)

end StateFlow.Path.Filter
