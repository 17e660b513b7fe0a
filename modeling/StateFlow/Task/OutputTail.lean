/-!
The tail of an output: of the chunks appended so far the last ones that fit a limit, and at least
the last one. The chunks stand in a queue of two lists; `chunks` is the view in order. No chunks fit
a limit below zero, which cuts characters off at the beginning instead.
-/
namespace StateFlow

structure OutputTail where
  limit : Int
  oldest : List String
  newest : List String
  size : Nat

namespace OutputTail

def empty (limit : Int) : OutputTail := ⟨limit, [], [], 0⟩

def chunks (tail : OutputTail) : List String := tail.oldest ++ tail.newest.reverse

/-- Drops the oldest chunk as long as the chunks are over the limit and more than one is left. -/
def dropOldest (limit : Int) : List String → List String → Nat → OutputTail
  | chunk :: oldest, newest, size =>
    if limit < size ∧ ¬(oldest = [] ∧ newest = []) then
      dropOldest limit oldest newest (size - chunk.length)
    else ⟨limit, chunk :: oldest, newest, size⟩
  | [], newest, size => ⟨limit, [], newest, size⟩

def push (tail : OutputTail) (chunk : String) : OutputTail :=
  let size := tail.size + chunk.length
  if size ≤ tail.limit then { tail with newest := chunk :: tail.newest, size }
  else
    let first := dropOldest tail.limit tail.oldest (chunk :: tail.newest) size
    if first.oldest = [] then dropOldest tail.limit first.newest.reverse [] first.size else first

/-- The last characters of the chunks, as many as the limit says; for a limit of zero all, and for
one below zero all but the first ones, as many as it is below. -/
def text (tail : OutputTail) : String :=
  let cs := tail.chunks.flatMap String.toList
  String.ofList (if tail.limit ≤ 0 then cs.drop tail.limit.natAbs
    else cs.drop (cs.length - tail.limit.toNat))

theorem chunks_empty (limit : Int) : (empty limit).chunks = [] := rfl

theorem chunks_dropOldest (limit : Int) (oldest newest : List String) (size : Nat) :
    (dropOldest limit oldest newest size).chunks <:+ oldest ++ newest.reverse := by
  induction oldest generalizing size with
  | nil => exact List.suffix_refl _
  | cons chunk oldest ih =>
    rw [dropOldest]
    split
    · exact (ih _).trans (List.suffix_cons _ _)
    · exact List.suffix_refl _

theorem chunks_push (tail : OutputTail) (chunk : String) :
    (tail.push chunk).chunks <:+ tail.chunks ++ [chunk] := by
  have first := chunks_dropOldest tail.limit tail.oldest (chunk :: tail.newest)
    (tail.size + chunk.length)
  simp only [List.reverse_cons, ← List.append_assoc] at first
  simp only [push]
  split
  · simp [chunks]
  · split
    · next none =>
      refine (chunks_dropOldest _ _ _ _).trans ?_
      simpa [chunks, none] using first
    · exact first

end OutputTail

end StateFlow
