import StateFlow.Json
import StateFlow.Text.Numeral

/-!
Values that have a text. A whole number with too many digits has none, and neither has a value that
holds one; an error with such a value in its text comes out as an error of another kind.
-/
namespace StateFlow

namespace Json

mutual
def isWritable : Json → Bool
  | .int n => Text.isWritable n
  | .arr xs => areWritable xs
  | .obj fs => haveWritable fs
  | _ => true
def areWritable : List Json → Bool
  | [] => true
  | x :: xs => isWritable x && areWritable xs
def haveWritable : List (String × Json) → Bool
  | [] => true
  | (_, v) :: fs => isWritable v && haveWritable fs
end

theorem areWritable_iff {xs : List Json} :
    areWritable xs = true ↔ ∀ x ∈ xs, x.isWritable = true := by
  induction xs with
  | nil => simp [areWritable]
  | cons x xs ih => simp [areWritable, ih]

theorem haveWritable_iff {fs : List (String × Json)} :
    haveWritable fs = true ↔ ∀ f ∈ fs, f.2.isWritable = true := by
  induction fs with
  | nil => simp [haveWritable]
  | cons f fs ih => simp [haveWritable, ih]

end Json

/-- An error as it comes out: told in its own text, or the error of a text that cannot be written. -/
inductive Reported (ε : Type) where
  | told (cause : ε)
  | unwritable

namespace Reported

variable {ε : Type}

def message (text : ε → String) : Reported ε → String
  | told cause => text cause
  | unwritable => Text.unwritableMessage

def report (isWritable : Bool) (cause : ε) : Reported ε :=
  if isWritable then told cause else unwritable

theorem report_eq_unwritable {isWritable : Bool} {cause : ε} :
    report isWritable cause = unwritable ↔ isWritable = false := by
  cases isWritable <;> simp [report]

end Reported

end StateFlow
