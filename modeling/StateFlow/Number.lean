import StateFlow.Json
import StateFlow.Text.Numeral

/-!
Numbers of both kinds and their common order. Two numbers compare by the exact rationals they
denote, whichever kind they are; infinities stand at the ends and a NaN is unordered.
-/
namespace StateFlow

inductive Number where
  | int (value : Int)
  | real (value : Binary64)
  deriving DecidableEq

namespace Number

/-- A number's place on the line: `ratio num shift` is `num / 2 ^ shift`. -/
inductive Place where
  | below
  | ratio (num : Int) (shift : Nat)
  | above

def place? : Number → Option Place
  | .int n => some (.ratio n 0)
  | .real .nan => none
  | .real (.infinite negative) => some (if negative then .below else .above)
  | .real (.finite negative m e) =>
    let n : Int := if negative then -(m : Int) else m
    some (if e < 0 then .ratio n (-e).toNat else .ratio (n <<< e.toNat) 0)

def Place.compare : Place → Place → Ordering
  | .below, .below => .eq
  | .below, _ => .lt
  | _, .below => .gt
  | .above, .above => .eq
  | .above, _ => .gt
  | _, .above => .lt
  | .ratio a p, .ratio b q => Ord.compare (a <<< q) (b <<< p)

def compare? (x y : Number) : Option Ordering := do
  let a ← x.place?
  let b ← y.place?
  pure (a.compare b)

def ofJson? : Json → Option Number
  | .int n => some (.int n)
  | .real x => some (.real x)
  | _ => none

def toJson : Number → Json
  | .int n => .int n
  | .real x => .real x

def toReal? : Number → Option Binary64
  | .int n => Binary64.ofInt? n
  | .real x => some x

def isNegative (x : Number) : Bool := x.compare? (.int 0) == some .lt

end Number

end StateFlow
