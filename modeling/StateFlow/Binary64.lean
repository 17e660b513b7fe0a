/-!
Double precision numbers as data: a sign, a whole significand and a power of two, beside the two
infinities and the value that is no number. Every operation computes the exact result over whole
numbers and rounds once, to the nearest representable value and to the even one of two nearest.
-/
namespace StateFlow

/-- `finite s m e` is `m * 2 ^ e`, negated when `s` holds. The operations build only reduced forms:
the significand has 53 bits, or the exponent is the least one. -/
inductive Binary64 where
  | finite (negative : Bool) (significand : Nat) (exponent : Int)
  | infinite (negative : Bool)
  | nan
  deriving DecidableEq, Inhabited

namespace Binary64

def precision : Nat := 53
def leastExponent : Int := -1074
def greatestExponent : Int := 971

def zero (negative : Bool) : Binary64 := .finite negative 0 leastExponent

/-- The whole number nearest to `num / den`, the even one of two. -/
def divNearest (num den : Nat) : Nat :=
  let q := num / den
  let twice := 2 * (num % den)
  if den < twice ∨ (den = twice ∧ q % 2 = 1) then q + 1 else q

/-- The exponent at which `num / den` has a significand of 53 bits, or the least exponent. -/
def exponentOf (num den : Nat) : Int :=
  let e : Int := (Nat.log2 num : Int) - Nat.log2 den - precision
  let fits := if e < 0 then num <<< (-e).toNat < den <<< precision
    else num < den <<< (precision + e.toNat)
  max (if fits then e else e + 1) leastExponent

/-- The double nearest to `num / den`; beyond the largest one, an infinity. -/
def ofRatio (negative : Bool) (num den : Nat) : Binary64 :=
  if num = 0 then zero negative
  else
    let e := exponentOf num den
    let m := if e < 0 then divNearest (num <<< (-e).toNat) den
      else divNearest num (den <<< e.toNat)
    let (m, e) := if m = 1 <<< precision then (m / 2, e + 1) else (m, e)
    if greatestExponent < e then .infinite negative else .finite negative m e

def ofNat (n : Nat) : Binary64 := ofRatio false n 1

def ofInt? (n : Int) : Option Binary64 :=
  match ofRatio (n < 0) n.natAbs 1 with
  | .infinite _ => none
  | x => some x

theorem ofInt?_natCast (n : Nat) :
    ofInt? n = match ofRatio false n 1 with
      | .infinite _ => none
      | x => some x := by
  have nonneg : decide ((n : Int) < 0) = false := by simp
  rw [ofInt?, nonneg, Int.natAbs_natCast]

def isNegative : Binary64 → Bool
  | .finite s _ _ => s
  | .infinite s => s
  | .nan => false

def isZero : Binary64 → Bool
  | .finite _ m _ => m == 0
  | _ => false

def isFinite : Binary64 → Bool
  | .finite _ _ _ => true
  | _ => false

def neg : Binary64 → Binary64
  | .finite s m e => .finite (!s) m e
  | .infinite s => .infinite (!s)
  | .nan => .nan

def ratio (m : Nat) (e : Int) : Nat × Nat :=
  if e < 0 then (m, 1 <<< (-e).toNat) else (m <<< e.toNat, 1)

private def signed (negative : Bool) (n : Nat) : Int := if negative then -(n : Int) else n

def add : Binary64 → Binary64 → Binary64
  | .nan, _ => .nan
  | _, .nan => .nan
  | .infinite s, .infinite t => if s = t then .infinite s else .nan
  | .infinite s, _ => .infinite s
  | _, .infinite t => .infinite t
  | .finite s m e, .finite t n f =>
    let (a, b) := ratio m e
    let (c, d) := ratio n f
    let sum := signed s (a * d) + signed t (c * b)
    if sum = 0 then zero (s && t) else ofRatio (sum < 0) sum.natAbs (b * d)

def sub (x y : Binary64) : Binary64 := x.add y.neg

def mul : Binary64 → Binary64 → Binary64
  | .nan, _ => .nan
  | _, .nan => .nan
  | .infinite s, y => if y.isZero then .nan else .infinite (s != y.isNegative)
  | x, .infinite t => if x.isZero then .nan else .infinite (x.isNegative != t)
  | .finite s m e, .finite t n f =>
    let (a, b) := ratio (m * n) (e + f)
    ofRatio (s != t) a b

/-- A finite dividend over zero is an infinity, and zero over zero is no number. -/
def div : Binary64 → Binary64 → Binary64
  | .nan, _ => .nan
  | _, .nan => .nan
  | .infinite _, .infinite _ => .nan
  | .infinite s, y => .infinite (s != y.isNegative)
  | .finite s _ _, .infinite t => zero (s != t)
  | .finite s m e, .finite t n f =>
    if n = 0 then (if m = 0 then .nan else .infinite (s != t))
    else
      let (a, b) := ratio m e
      let (c, d) := ratio n f
      ofRatio (s != t) (a * d) (b * c)

def truncate? : Binary64 → Option Int
  | .finite s m e =>
    let (a, b) := ratio m e
    some (signed s (a / b))
  | _ => none

def round? : Binary64 → Option Int
  | .finite s m e =>
    let (a, b) := ratio m e
    some (signed s (divNearest a b))
  | _ => none

end Binary64

end StateFlow
