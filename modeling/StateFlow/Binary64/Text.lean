import StateFlow.Binary64
import StateFlow.Decimal

/-!
Doubles and decimal notation: the double nearest to a decimal, and the fewest digits that read back
as a given double. A `Layout` record holds what one format decides about the written form.
-/
namespace StateFlow.Binary64

/-- The double nearest to `digits * 10 ^ exponent`. Exponents far outside the range are settled
without computing the power. -/
def ofDecimal (negative : Bool) (digits : Nat) (exponent : Int) : Binary64 :=
  if digits = 0 then zero negative
  else if 310 < exponent then .infinite negative
  else if exponent < -330 - (Nat.log2 digits : Int) then zero negative
  else if 0 ≤ exponent then ofRatio negative (digits * Nat.pow 10 exponent.toNat) 1
  else ofRatio negative digits (Nat.pow 10 (-exponent).toNat)

/-- The ends of the interval of reals that round to `m * 2 ^ e`, as multiples of `2 ^ (e - 2)`. -/
def roundingEnds (m : Nat) (e : Int) : Nat × Nat :=
  (if m = 1 <<< (precision - 1) ∧ leastExponent < e then 4 * m - 1 else 4 * m - 2, 4 * m + 2)

private def scaled (num den : Nat) (k : Int) : Nat × Nat :=
  if k < 0 then (num * Nat.pow 10 (-k).toNat, den) else (num, den * Nat.pow 10 k.toNat)

def leadingExponent (num den : Nat) : Int :=
  let guess : Int := (((Nat.log2 num : Int) - Nat.log2 den) * 30103) / 100000
  let below (k : Int) : Bool := let (a, b) := scaled num den k; a < b
  if below guess then guess - 1
  else if below (guess + 1) then guess
  else guess + 1

structure Digits where
  digits : Nat
  exponent : Int
  deriving DecidableEq

private def stripZeros : Nat → Nat → Int → Digits
  | 0, d, k => ⟨d, k⟩
  | fuel + 1, d, k =>
    if d ≠ 0 ∧ d % 10 = 0 then stripZeros fuel (d / 10) (k + 1) else ⟨d, k⟩

/-- The nearest of the two grid points beside `m * 2 ^ e` that read back as it, if any does: the
grid has step `10 ^ k`, and of two equally near points the even one is taken. -/
def onGrid? (m : Nat) (e : Int) (k : Int) : Option Nat :=
  let (unit, den) := if e < 2 then (1, 1 <<< (2 - e).toNat) else (1 <<< (e - 2).toNat, 1)
  let (num, den) := scaled (4 * m * unit) den k
  let (unit, _) := scaled unit 1 k
  let (lo, hi) := roundingEnds m e
  let readsBack (d : Nat) : Bool :=
    if m % 2 = 0 then lo * unit ≤ d * den ∧ d * den ≤ hi * unit
    else lo * unit < d * den ∧ d * den < hi * unit
  let down := num / den
  let up := down + 1
  match readsBack down, readsBack up with
  | false, false => none
  | true, false => some down
  | false, true => some up
  | true, true =>
    let rest := 2 * (num - down * den)
    if rest < den then some down
    else if den < rest then some up
    else some (if down % 2 = 0 then down else up)

private def shortestFrom (m : Nat) (e lead : Int) : Nat → Nat → Digits
  | 0, n => ⟨(onGrid? m e (lead + 1 - n)).getD 0, lead + 1 - n⟩
  | fuel + 1, n =>
    match onGrid? m e (lead + 1 - n) with
    | some d => ⟨d, lead + 1 - n⟩
    | none => shortestFrom m e lead fuel (n + 1)

def shortest (m : Nat) (e : Int) : Digits :=
  let (num, den) := ratio m e
  let found := shortestFrom m e (leadingExponent num den) 16 1
  stripZeros 400 found.digits found.exponent

/-- What a format decides: the leading exponents written without a power of ten, the least number of
digits in a written exponent, and the words for the values that are not finite. -/
structure Layout where
  least : Int := -4
  above : Int := 16
  exponentWidth : Nat
  infinity : String
  nan : String

def positional (ds : List Char) (lead : Int) : List Char :=
  if lead < 0 then '0' :: '.' :: List.replicate (-lead - 1).toNat '0' ++ ds
  else
    let whole := lead.toNat + 1
    if ds.length ≤ whole then ds ++ List.replicate (whole - ds.length) '0' ++ ['.', '0']
    else ds.take whole ++ '.' :: ds.drop whole

def scientific (width : Nat) (ds : List Char) (lead : Int) : List Char :=
  let fraction := match ds.drop 1 with
    | [] => []
    | rest => '.' :: rest
  ds.take 1 ++ fraction ++ 'e' :: (if lead < 0 then '-' else '+') ::
    Decimal.padded width lead.natAbs

def Layout.unsigned (layout : Layout) (m : Nat) (e : Int) : List Char :=
  if m = 0 then ['0', '.', '0']
  else
    let short := shortest m e
    let ds := Decimal.digits short.digits
    let lead := short.exponent + ds.length - 1
    if layout.least ≤ lead ∧ lead < layout.above then positional ds lead
    else scientific layout.exponentWidth ds lead

def Layout.write (layout : Layout) : Binary64 → List Char
  | .nan => layout.nan.toList
  | .infinite s => if s then '-' :: layout.infinity.toList else layout.infinity.toList
  | .finite s m e => if s then '-' :: layout.unsigned m e else layout.unsigned m e

end StateFlow.Binary64
