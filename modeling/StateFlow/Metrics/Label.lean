import StateFlow.Json

/-!
Labels of metrics. Labels with the same canonical form are the same label: the members of objects
stand in the order of their keys, and a double that is not finite counts as null. A label has whole
numbers of 64 bits only, with a sign or without one, and is not nested too deep.
-/
namespace StateFlow.Metrics

inductive LabelError where
  | integerRange
  | tooDeep
  deriving DecidableEq

def LabelError.message : LabelError → String
  | .integerRange => "Integer exceeds 64-bit range"
  | .tooDeep => "Recursion limit reached"

namespace Label

def depthLimit : Nat := 253

def inRange (n : Int) : Bool := -9223372036854775808 ≤ n && n ≤ 18446744073709551615

mutual
/-- The canonical form of a part of a label with so many levels left. -/
def form (levels : Nat) : Json → Except LabelError Json
  | .int n => if inRange n then .ok (.int n) else .error .integerRange
  | .real x => .ok (if x.isFinite then .real x else .null)
  | .arr xs =>
    match levels with
    | 0 => .error .tooDeep
    | levels + 1 => (formItems levels xs).map .arr
  | .obj fs =>
    match levels with
    | 0 => .error .tooDeep
    | levels + 1 =>
      (formFields levels fs).map fun fs => .obj (fs.mergeSort fun x y => x.1 ≤ y.1)
  | value => .ok value
def formItems (levels : Nat) : List Json → Except LabelError (List Json)
  | [] => .ok []
  | x :: xs => do pure ((← form levels x) :: (← formItems levels xs))
def formFields (levels : Nat) :
    List (String × Json) → Except LabelError (List (String × Json))
  | [] => .ok []
  | (k, v) :: fs => do pure ((k, ← form levels v) :: (← formFields levels fs))
end

def canonical (label : Json) : Except LabelError Json := form depthLimit label

end Label

end StateFlow.Metrics
