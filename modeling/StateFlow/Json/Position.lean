import StateFlow.Json

/-!
Positions in a value: the members and items that lead from it to one of its parts.
-/
namespace StateFlow.Json

inductive Step where
  | member (key : String)
  | item (place : Nat)
  deriving DecidableEq

abbrev Position := List Step

def at? : Position → Json → Option Json
  | [], value => some value
  | .member key :: rest, .obj fields => (lookup key fields).bind (at? rest)
  | .item place :: rest, .arr items => items[place]?.bind (at? rest)
  | _ :: _, _ => none

@[simp] theorem at?_nil (value : Json) : at? [] value = some value := rfl

@[simp] theorem at?_member (key : String) (rest : Position) (fields : List (String × Json)) :
    at? (.member key :: rest) (.obj fields) = (lookup key fields).bind (at? rest) := rfl

@[simp] theorem at?_item (place : Nat) (rest : Position) (items : List Json) :
    at? (.item place :: rest) (.arr items) = items[place]?.bind (at? rest) := rfl

/-- The value with another one at a position, if there is a part. -/
def put (new : Json) : Position → Json → Json
  | [], _ => new
  | .member key :: rest, .obj fields =>
    match lookup key fields with
    | some member => .obj (insert key (put new rest member) fields)
    | none => .obj fields
  | .item place :: rest, .arr items =>
    match items[place]? with
    | some item => .arr (items.set place (put new rest item))
    | none => .arr items
  | _ :: _, value => value

def spread (new : Json) (positions : List Position) (value : Json) : Json :=
  positions.foldl (fun value position => put new position value) value

mutual
def containers : Json → List Position
  | .arr items => [] :: itemContainers 0 items
  | .obj fields => [] :: fieldContainers fields
  | _ => []
def itemContainers (place : Nat) : List Json → List Position
  | [] => []
  | x :: xs => (containers x).map (.item place :: ·) ++ itemContainers (place + 1) xs
def fieldContainers : List (String × Json) → List Position
  | [] => []
  | (key, v) :: fs => (containers v).map (.member key :: ·) ++ fieldContainers fs
end

end StateFlow.Json
