import StateFlow.Json.Arithmetic
import StateFlow.Json.Writable
import StateFlow.Json.Display
import StateFlow.Path.Index
import StateFlow.Path.Progression
import StateFlow.Text.Infix

/-!
The values that expressions in paths have: sequences, which are lists or tuples, and the values that
are no lists. Truth values count as the numbers zero and one, numbers of both kinds mix, and a list
and a tuple are never equal. An operation that its operands do not allow has no value.
-/
namespace StateFlow.Path.Filter

inductive SequenceKind where
  | list
  | tuple
  deriving DecidableEq

inductive Value where
  | single (value : Json)
  | sequence (kind : SequenceKind) (items : List Value)

namespace Value

mutual
def ofJson : Json → Value
  | .arr items => .sequence .list (ofItems items)
  | value => .single value
def ofItems : List Json → List Value
  | [] => []
  | x :: xs => ofJson x :: ofItems xs
end

theorem length_ofItems (items : List Json) : (ofItems items).length = items.length := by
  induction items with
  | nil => rfl
  | cons x xs ih => simp [ofItems, ih]

def isFalsy : Value → Bool
  | .single value => value.isFalsy
  | .sequence _ items => items.isEmpty

def isNotNumber : Value → Bool
  | .single value => value.isNotNumber
  | .sequence _ _ => false

mutual
def agree : Value → Value → Bool
  | .single a, y => match y with
    | .single b => Json.agree a b
    | .sequence _ _ => false
  | .sequence kind xs, y => match y with
    | .single _ => false
    | .sequence other ys => kind == other && agreeItems xs ys
/-- Inside a sequence a value that is no number equals itself. -/
def agreeItems : List Value → List Value → Bool
  | [], [] => true
  | x :: xs, y :: ys =>
    (agree x y || (x.isNotNumber && y.isNotNumber)) && agreeItems xs ys
  | _, _ => false
end

def same (x y : Value) : Bool := x.agree y || (x.isNotNumber && y.isNotNumber)

mutual
def order? : Value → Value → Option (Option Ordering)
  | .single a, y => match y with
    | .single b => Json.order? a b
    | .sequence _ _ => none
  | .sequence kind xs, y => match y with
    | .single _ => none
    | .sequence other ys => if kind = other then orderItems? xs ys else none
/-- Sequences compare where they first differ, and one comes after its beginnings. -/
def orderItems? : List Value → List Value → Option (Option Ordering)
  | [], [] => some (some .eq)
  | [], _ :: _ => some (some .lt)
  | _ :: _, [] => some (some .gt)
  | x :: xs, y :: ys => if x.same y then orderItems? xs ys else order? x y
end

mutual
def isKey : Value → Bool
  | .single (.obj _) => false
  | .single _ => true
  | .sequence .list _ => false
  | .sequence .tuple items => areKeys items
def areKeys : List Value → Bool
  | [] => true
  | x :: xs => isKey x && areKeys xs
end

def asNumber? : Value → Option Number
  | .single value => value.asNumber?
  | .sequence _ _ => none

def whole? : Value → Option Int
  | .single value => value.whole?
  | .sequence _ _ => none

def ofNumber (x : Number) : Value := .single x.toJson

def plus? (x y : Value) : Option Value :=
  match x, y with
  | .single a, .single b => (a.plus? b).map .single
  | .sequence kind xs, .sequence other ys =>
    if kind = other then some (.sequence kind (xs ++ ys)) else none
  | _, _ => none

def minus? (x y : Value) : Option Value := do
  ((← x.asNumber?).sub? (← y.asNumber?)).map ofNumber

def copiesLimit : Nat := 1000000000

/-- How many copies of something so long are made: nothing is copied once at most. -/
def copies? (size : Nat) (count : Int) : Option Nat :=
  if !isIndex count ∨ copiesLimit < size * count.toNat then none
  else some (if size = 0 then 0 else count.toNat)

def repeated? (value : Value) (count : Int) : Option Value :=
  match value with
  | .single (.str s) => (copies? s.length count).map fun n => .single (.str (Text.copies s n))
  | .single _ => none
  | .sequence kind items =>
    (copies? items.length count).map fun n => .sequence kind (List.replicate n items).flatten

def times? (x y : Value) : Option Value :=
  match x.asNumber?, y.asNumber? with
  | some a, some b => (a.mul? b).map ofNumber
  | _, _ => match y.whole?, x.whole? with
    | some n, _ => repeated? x n
    | none, some n => repeated? y n
    | none, none => none

def length? : Value → Option Nat
  | .single (.str s) => some s.length
  | .single (.obj fields) => some fields.length
  | .single _ => none
  | .sequence _ items => some items.length

def at? (value key : Value) : Option Value :=
  match value with
  | .single (.obj fields) => match key with
    | .single (.str k) => (Json.lookup k fields).map ofJson
    | _ => none
  | .single (.str s) => key.whole?.bind fun n =>
    (itemAt? s.toList n).map fun c => .single (.str (String.singleton c))
  | .single _ => none
  | .sequence _ items => key.whole?.bind (itemAt? items)

/-- The items from one bound on by steps before another one. A bound that is left out is an end, and
one beyond the end stands for it. -/
def sliced (items : List α) (start stop : Option Int) (step : Int) : List α :=
  let length : Int := items.length
  let low := if step < 0 then -1 else 0
  let high := if step < 0 then length - 1 else length
  let place (bound : Int) := max low (min high (if bound < 0 then bound + length else bound))
  let first := (start.map place).getD (if step < 0 then high else low)
  let last := (stop.map place).getD (if step < 0 then low else high)
  let table := items.toArray
  (progression first last step).filterMap fun i => table[i.toNat]?

def bound? (value : Value) : Option (Option Int) :=
  match value with
  | .single .null => some none
  | value => value.whole?.map some

def slice? (value start stop step : Value) : Option Value := do
  let start ← start.bound?
  let stop ← stop.bound?
  let step := (← step.bound?).getD 1
  if step = 0 then none
  else match value with
    | .single (.str s) =>
      some (.single (.str (String.ofList (sliced s.toList start stop step))))
    | .single _ => none
    | .sequence kind items => some (.sequence kind (sliced items start stop step))

def member? (value container : Value) : Option Bool :=
  match container with
  | .sequence _ items => some (items.any (value.same ·))
  | .single (.str s) => match value with
    | .single (.str part) => some (Text.occursIn part.toList s.toList)
    | _ => none
  | .single (.obj fields) => match value with
    | .single (.str key) => some (Json.lookup key fields).isSome
    | value => if value.isKey then some false else none
  | .single _ => none

mutual
def isWritable : Value → Bool
  | .single value => value.isWritable
  | .sequence _ items => areWritable items
def areWritable : List Value → Bool
  | [] => true
  | x :: xs => isWritable x && areWritable xs
end

mutual
def shown : Value → List Char
  | .single value => value.shown
  | .sequence .list items => '[' :: Json.separated [',', ' '] (shownItems items) ++ [']']
  | .sequence .tuple [item] => '(' :: shown item ++ [',', ')']
  | .sequence .tuple items => '(' :: Json.separated [',', ' '] (shownItems items) ++ [')']
def shownItems : List Value → List (List Char)
  | [] => []
  | x :: xs => shown x :: shownItems xs
end

def display : Value → List Char
  | .single value => value.display.toList
  | value => value.shown

end Value

end StateFlow.Path.Filter
