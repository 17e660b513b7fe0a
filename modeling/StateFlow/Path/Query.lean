import StateFlow.Data
import StateFlow.Json.Display
import StateFlow.Path.Filter.Evaluate
import StateFlow.Path.Normal
import StateFlow.Path.Progression

/-!
Queries: the values that the steps of a path lead to from a root, in order. A step names a member or
an index, stands for all of them, descends, computes a key, keeps what passes a condition, cuts a
slice or names several steps at once; a step that leads nowhere contributes nothing.
-/
namespace StateFlow.Path

/-- A value that a query comes to, and where it stands in the root. The name of a member, which a
query may come to as well, stands nowhere. -/
structure Find where
  value : Json
  position : Option Json.Position

namespace Find

def root (value : Json) : Find := ⟨value, some []⟩

def part (find : Find) (step : Json.Step) (value : Json) : Find :=
  ⟨value, find.position.map (· ++ [step])⟩

def within? (find : Find) (position : Json.Position) : Option Json.Position :=
  find.position.bind (·.isPrefixOf? position)

end Find

abbrev Found := Except QueryError (List Find)

def gather (f : α → Found) : List α → Found
  | [] => .ok []
  | x :: xs => do
    let here ← f x
    let rest ← gather f xs
    pure (here ++ rest)

def children (find : Find) : List (List Char × Find) :=
  match find.value with
  | .arr items => items.mapIdx fun i x => (Decimal.digits i, find.part (.item i) x)
  | .obj fields => fields.map fun (k, v) => (k.toList, find.part (.member k) v)
  | _ => []

/-- A step in front of others. The text of a step may itself hold separators. -/
def follow (step : List Char) (rest : List (List Char)) : List (List Char) :=
  steps step ++ (if rest.isEmpty then [[]] else rest)

structure Slice where
  start : List Char
  stop : List Char
  step : List Char

def signedDigits (cs : List Char) : List Char × List Char :=
  match cs with
  | '-' :: rest => let (ds, more) := rest.span Text.isAsciiDigit; ('-' :: ds, more)
  | cs => cs.span Text.isAsciiDigit

def slice? (cs : List Char) : Option Slice :=
  match signedDigits cs with
  | (start, ':' :: rest) =>
    let (stop, rest) := signedDigits rest
    let (step, rest) := signedDigits (if rest.head? = some ':' then rest.drop 1 else rest)
    if isEnd rest then some ⟨start, stop, step⟩ else none
  | _ => none

def wholeNumber (digits : List Char) : Except QueryError Int :=
  let text := String.ofList digits
  (Text.readInteger text).mapError (.badNumber text)

private def numberOr (default : Int) (digits : List Char) : Except QueryError Int :=
  if digits = [] then .ok default else wholeNumber digits

def bound (length n : Int) : Int := if n < 0 then max 0 (n + length) else min length n

def Slice.indices (slice : Slice) (length : Nat) : Except QueryError (List Int) := do
  let start ← numberOr 0 slice.start
  let stop ← numberOr length slice.stop
  let step ← numberOr 1 slice.step
  if step = 0 then .error .zeroStep
  else .ok (progression (bound length start) (bound length stop) step)

def alternatives : List Char → List (List Char)
  | [] => [[]]
  | '\'' :: ',' :: '\'' :: rest => [] :: alternatives rest
  | '\'' :: ',' :: rest => [] :: alternatives rest
  | ',' :: '\'' :: rest => [] :: alternatives rest
  | ',' :: rest => [] :: alternatives rest
  | c :: rest => match alternatives rest with
    | part :: more => (c :: part) :: more
    | [] => [[c]]

def enclosed (opening step : List Char) : Bool :=
  opening.isPrefixOf step && step.getLast? == some ')'

def indexed? (step : List Char) : Json → Option (List Json)
  | .arr items => if step ≠ [] ∧ step.all Text.isDigit then some items else none
  | _ => none

/-- What steps lead to; the first argument bounds their number. -/
def trace : Nat → List (List Char) → Find → Found
  | 0, _, _ => .error .tooDeep
  | _ + 1, [], find => .ok [find]
  | fuel + 1, step :: rest, find =>
    if step = [] ∧ rest = [] then .ok [find]
    else if step = ['*'] then
      gather (fun (key, _) => trace fuel (follow key rest) find) (children find)
    else if step = ['.', '.'] then do
      let here ← trace fuel rest find
      let below ← gather (fun (_, child) => trace fuel (['.', '.'] :: rest) child) (children find)
      pure (here ++ below)
    else if step = ['!'] then
      match find.value with
      | .obj fields => gather (fun (key, _) => trace fuel rest ⟨.str key, none⟩) fields
      | _ => .ok []
    else match find.value.get? (String.ofList step) with
    | some child => trace fuel rest (find.part (.member (String.ofList step)) child)
    | none =>
      match indexed? step find.value with
      | some items => do
        let place := (← wholeNumber step).toNat
        match items[place]? with
        | some item => trace fuel rest (find.part (.item place) item)
        | none => .ok []
      | none =>
        if enclosed ['('] step then
          let key := Filter.evaluate step find.value
          if key.isWritable then trace fuel (follow key.display rest) find
          else .error .unwritable
        else if enclosed ['?', '('] step then
          let condition := (step.drop 2).dropLast
          gather (fun (key, child) =>
            if (Filter.evaluate condition child.value).isFalsy then .ok []
            else trace fuel (follow key rest) find) (children find)
        else match slice? step with
        | some slice =>
          match find.value with
          | .arr _ | .obj _ => do
            let indices ← slice.indices (children find).length
            gather (fun i => trace fuel (follow (Decimal.ofInt i) rest) find) indices
          | _ => .ok []
        | none =>
          if step.contains ',' then
            gather (fun part => trace fuel (follow part rest) find) (alternatives step)
          else .ok []

def depthLimit : Nat := 990

/-- All that a path selects, if it selects anything; nothing is selected from an empty root. -/
def query (root : Json) (path : String) : Except QueryError (Option (List Find)) :=
  if root.isFalsy ∨ path = "" then .ok none
  else do
    let steps ← normalSteps path
    match ← trace (depthLimit + steps.length) steps (.root root) with
    | [] => pure none
    | found => pure (some found)

end StateFlow.Path
