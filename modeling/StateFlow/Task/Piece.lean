/-!
Pieces of an output. A text is read in pieces that end with a line or are as long as a limit allows;
a piece is complete if its line ends with it.
-/
namespace StateFlow

/-- A run of characters with a line feed at most as the last one. -/
abbrev Piece := List Char

namespace Piece

def isComplete (piece : Piece) : Bool := piece.getLast? == some '\n'

def line (piece : Piece) : List Char :=
  if piece.isComplete then piece.dropLast else piece

/-- The pieces of a text after those done, the characters of the piece begun and the room left in
it; both lists are kept with the newest first. -/
def cut (limit : Nat) : List Piece → List Char → Nat → List Char → List Piece
  | done, begun, _, [] =>
    (if begun = [] then done else begun.reverse :: done).reverse
  | done, begun, room, c :: rest =>
    if c = '\n' ∨ room ≤ 1 then cut limit ((c :: begun).reverse :: done) [] limit rest
    else cut limit done (c :: begun) (room - 1) rest

def ofText (limit : Nat) (text : List Char) : List Piece := cut limit [] [] limit text

theorem flatten_cut (limit : Nat) (done : List Piece) (begun : List Char) (room : Nat)
    (text : List Char) :
    (cut limit done begun room text).flatten = done.reverse.flatten ++ begun.reverse ++ text := by
  induction text generalizing done begun room with
  | nil => by_cases h : begun = [] <;> simp [cut, h]
  | cons c rest ih =>
    rw [cut]
    split <;> simp [ih]

theorem flatten_ofText (limit : Nat) (text : List Char) : (ofText limit text).flatten = text := by
  simp [ofText, flatten_cut]

end Piece

end StateFlow
