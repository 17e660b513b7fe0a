import StateFlow.Number
import StateFlow.Text.Copies

/-!
Equality, order and arithmetic of values. Truth values count as the numbers zero and one and numbers
of both kinds mix; texts and lists are joined by a sum and repeated by a product with a whole
number. An operation that its operands do not allow has no value.
-/
namespace StateFlow

namespace Number

def add? : Number → Number → Option Number
  | .int a, .int b => some (.int (a + b))
  | x, y => do pure (.real ((← x.toReal?).add (← y.toReal?)))

def sub? : Number → Number → Option Number
  | .int a, .int b => some (.int (a - b))
  | x, y => do pure (.real ((← x.toReal?).sub (← y.toReal?)))

def mul? : Number → Number → Option Number
  | .int a, .int b => some (.int (a * b))
  | x, y => do pure (.real ((← x.toReal?).mul (← y.toReal?)))

def neg : Number → Number
  | .int a => .int (-a)
  | .real x => .real x.neg

end Number

namespace Json

def asNumber? : Json → Option Number
  | .bool b => some (.int b.toNat)
  | value => Number.ofJson? value

def isNotNumber : Json → Bool
  | .real .nan => true
  | _ => false

mutual
/-- Equality of values: numbers by amount, truth values among them, and objects in any order. Inside
lists and objects a value that is no number equals itself. -/
def agree : Json → Json → Bool
  | .null, y => match y with
    | .null => true
    | _ => false
  | .str s, y => match y with
    | .str t => s == t
    | _ => false
  | .arr xs, y => match y with
    | .arr ys => agreeItems xs ys
    | _ => false
  | .obj fs, y => match y with
    | .obj gs => fs.length == gs.length && agreeFields fs gs
    | _ => false
  | x, y => match x.asNumber?, y.asNumber? with
    | some a, some b => a.compare? b == some .eq
    | _, _ => false
def agreeItems : List Json → List Json → Bool
  | [], [] => true
  | x :: xs, y :: ys =>
    (agree x y || (x.isNotNumber && y.isNotNumber)) && agreeItems xs ys
  | _, _ => false
def agreeFields : List (String × Json) → List (String × Json) → Bool
  | [], _ => true
  | (k, x) :: fs, gs => match lookup k gs with
    | some y => (agree x y || (x.isNotNumber && y.isNotNumber)) && agreeFields fs gs
    | none => false
end

/-- How two texts or two numbers compare; a NaN is in no order. -/
def order? (x y : Json) : Option (Option Ordering) :=
  match x, y with
  | .str s, .str t => some (some (if s = t then .eq else if s < t then .lt else .gt))
  | x, y => match x.asNumber?, y.asNumber? with
    | some a, some b => some (a.compare? b)
    | _, _ => none

def whole? : Json → Option Int
  | .int n => some n
  | .bool b => some b.toNat
  | _ => none

def repeated? (value : Json) (count : Int) : Option Json :=
  match value with
  | .str s => some (.str (Text.copies s count.toNat))
  | .arr items => some (.arr (List.replicate count.toNat items).flatten)
  | _ => none

def plus? (x y : Json) : Option Json :=
  match x.asNumber?, y.asNumber? with
  | some a, some b => (a.add? b).map Number.toJson
  | _, _ => match x, y with
    | .str s, .str t => some (.str (s ++ t))
    | .arr xs, .arr ys => some (.arr (xs ++ ys))
    | _, _ => none

def times? (x y : Json) : Option Json :=
  match x.asNumber?, y.asNumber? with
  | some a, some b => (a.mul? b).map Number.toJson
  | _, _ => match y.whole?, x.whole? with
    | some n, _ => repeated? x n
    | none, some n => repeated? y n
    | none, none => none

end Json

end StateFlow
