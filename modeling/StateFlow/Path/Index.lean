/-!
Indices of lists: whole numbers of 64 bits, of which the negative ones count from the end.
-/
namespace StateFlow.Path

def isIndex (n : Int) : Bool := -9223372036854775808 ≤ n && n ≤ 9223372036854775807

def place? (length : Nat) (index : Int) : Option Nat :=
  let place := if index < 0 then index + length else index
  if place < 0 ∨ (length : Int) ≤ place then none else some place.toNat

theorem place?_eq_some {length place : Nat} {index : Int} :
    place? length index = some place ↔
      place < length ∧ ((place : Int) = index ∨ (place : Int) = index + length) := by
  simp only [place?, Option.ite_none_left_eq_some, Option.some.injEq]
  omega

theorem place?_eq_none {length : Nat} {index : Int} :
    place? length index = none ↔ index < -length ∨ length ≤ index := by
  simp only [place?, ite_eq_left_iff, reduceCtorEq, imp_false, Decidable.not_not]
  omega

theorem place?_lt {length place : Nat} {index : Int} (h : place? length index = some place) :
    place < length := (place?_eq_some.1 h).1

def itemAt? (items : List α) (index : Int) : Option α :=
  (place? items.length index).bind (items[·]?)

end StateFlow.Path
