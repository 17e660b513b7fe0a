import StateFlow.Json.Display
import StateFlow.Json.Kind

/-!
References to handlers: a module and a function in it, parted by the last point. The module may be
written as a path; slashes part its packages as points do, and those at its ends do not count.
-/
namespace StateFlow

structure HandlerReference where
  packages : List (List Char)
  function : String

inductive ReferenceError where
  | notText (value : Json)
  | malformed (reference : String)
  | emptyModule

namespace ReferenceError

def message : ReferenceError → String
  | .notText value => (KindError.noAttribute value "rpartition").message
  | .malformed reference =>
    "Handler \"" ++ reference ++ "\" is not of the form module.function"
  | .emptyModule => "Empty module name"

def typeName : ReferenceError → String
  | .notText value => (KindError.noAttribute value "rpartition").typeName
  | .malformed _ | .emptyModule => "ValueError"

end ReferenceError

namespace HandlerReference

/-- What stands before and after the last point; nothing before it if there is none. -/
def splitLast (cs : List Char) : List Char × List Char :=
  let backwards := cs.reverse
  ((backwards.dropWhile (· ≠ '.')).tail.reverse, (backwards.takeWhile (· ≠ '.')).reverse)

theorem splitLast_eq {cs : List Char} (h : '.' ∈ cs) :
    (splitLast cs).1 ++ '.' :: (splitLast cs).2 = cs := by
  have whole := List.takeWhile_append_dropWhile (p := (· ≠ '.')) (l := cs.reverse)
  have point := List.head?_dropWhile_not (· ≠ '.') cs.reverse
  simp only [splitLast]
  cases rest : cs.reverse.dropWhile (· ≠ '.') with
  | nil =>
    rw [rest, List.append_nil] at whole
    have : '.' ∈ cs.reverse.takeWhile (· ≠ '.') := by rw [whole]; simpa using h
    simpa using List.all_eq_true.1 (List.all_takeWhile (p := (· ≠ '.')) (l := cs.reverse)) _ this
  | cons c before =>
    rw [rest] at whole point
    have point : c = '.' := by simpa using point
    have back := congrArg List.reverse whole
    rw [point, List.reverse_reverse] at back
    simpa using back

def isSeparator (c : Char) : Bool := c == '.' || c == '/'

def trimmed (path : List Char) : List Char :=
  ((path.dropWhile isSeparator).reverse.dropWhile isSeparator).reverse

def split (begun : List Char) : List Char → List (List Char)
  | [] => [begun.reverse]
  | c :: rest => if isSeparator c then begun.reverse :: split [] rest else split (c :: begun) rest

def parse (reference : Json) : Except ReferenceError HandlerReference :=
  match reference with
  | .str s =>
    let (path, function) := splitLast s.toList
    if path = [] ∨ function = [] then .error (.malformed s)
    else if trimmed path = [] then .error .emptyModule
    else .ok ⟨split [] (trimmed path), String.ofList function⟩
  | value => .error (.notText value)

end HandlerReference

end StateFlow
