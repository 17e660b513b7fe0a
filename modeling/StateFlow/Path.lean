import StateFlow.Path.Query

/-!
Input and output paths. A path that begins with two dollar signs selects from the context object,
any other one from the data; the path `$` is the data itself, and no path an empty object. A single
find is given by itself unless the path has a slice. A path that selects nothing fails with a text
that shows the whole root, unless that cannot be written.
-/
namespace StateFlow

inductive PathError where
  | notPath (path : Json)
  | invalid (path : String) (root : Json) (cause : Option Path.QueryError)

def PathError.message : PathError → String
  | .notPath path => path.display ++ " must be a JSONPath"
  | .invalid path root cause =>
    "Invalid path '" ++ path ++ "' applied to input '" ++ root.display ++ "'" ++
      match cause with
      | some e => ": " ++ e.message
      | none => ""

def PathError.isWritable : PathError → Bool
  | .notPath path => path.isWritable
  | .invalid _ root _ => root.isWritable

def PathError.reported (error : PathError) : Reported PathError := .report error.isWritable error

namespace Data

def narrowed (data : Data) (find : Path.Find) : Data :=
  .ofObjects find.value (data.moved fun position => (find.within? position).toList)

def listed (data : Data) (finds : List Path.Find) : Data :=
  .ofObjects (.arr (finds.map (·.value))) (data.moved fun position =>
    finds.zipIdx.filterMap fun (find, i) => (find.within? position).map (.item i :: ·))

end Data

namespace Path

def text? : Json → Option String
  | .str s => if s.toList.head? = some '$' then some s else none
  | _ => none

def select (root path : Json) : Except (Reported PathError) (List Find) :=
  match text? path with
  | none => .error (PathError.notPath path).reported
  | some text =>
    match query root text with
    | .ok (some found) => .ok found
    | .ok none => .error (PathError.invalid text root none).reported
    | .error e => .error (PathError.invalid text root (some e)).reported

def values (root path : Json) : Except (Reported PathError) (List Json) :=
  (select root path).map (·.map (·.value))

private def after? (c : Char) (cs : List Char) : Option (List Char) :=
  match cs.dropWhile (· ≠ c) with
  | [] => none
  | _ :: rest => some rest

private def lineHasSlice (line : List Char) : Bool :=
  (((after? '[' line).bind (after? ':')).bind (after? ']')).isSome

/-- On some line a colon stands between brackets. -/
def hasSlice : List Char → List Char → Bool
  | line, [] => lineHasSlice line.reverse
  | line, c :: rest =>
    if c = '\n' then lineHasSlice line.reverse || hasSlice [] rest else hasSlice (c :: line) rest

private theorem cons_sublist_iff_after? {c : Char} {cs ds : List Char} :
    (c :: ds).Sublist cs ↔ ∃ rest, after? c cs = some rest ∧ ds.Sublist rest := by
  induction cs with
  | nil => simp [after?]
  | cons d cs ih =>
    by_cases same : d = c
    · subst same
      simp [after?]
    · have later : after? c (d :: cs) = after? c cs := by simp [after?, same]
      rw [later, ← ih]
      exact ⟨fun within => by cases within <;> first | assumption | exact absurd rfl same,
        .cons d⟩

private theorem lineHasSlice_iff {line : List Char} :
    lineHasSlice line = true ↔ ['[', ':', ']'].Sublist line := by
  simp only [lineHasSlice, cons_sublist_iff_after?, Option.isSome_iff_exists,
    Option.bind_eq_some_iff, List.nil_sublist, and_true]
  constructor
  · rintro ⟨closed, colon, ⟨opened, first, second⟩, third⟩
    exact ⟨opened, first, colon, second, closed, third⟩
  · rintro ⟨opened, first, colon, second, closed, third⟩
    exact ⟨closed, colon, ⟨opened, first, second⟩, third⟩

theorem hasSlice_iff {line cs : List Char} (single : '\n' ∉ cs) :
    hasSlice line cs = true ↔ ['[', ':', ']'].Sublist (line.reverse ++ cs) := by
  induction cs generalizing line with
  | nil => simp [hasSlice, lineHasSlice_iff]
  | cons c cs ih =>
    simp only [List.mem_cons, not_or] at single
    simp [hasSlice, Ne.symm single.1, ih single.2]

def isSliced : Json → Bool
  | .str s => hasSlice [] s.toList
  | _ => false

def project (data : Data) (path : Json) : Except (Reported PathError) Data :=
  if path = .null then .ok (.ofJson (.obj []))
  else if path = .str "$" then .ok data
  else do
    match ← select data.value path with
    | [find] => pure (if isSliced path then data.listed [find] else data.narrowed find)
    | finds => pure (data.listed finds)

/-- A single value by itself, unless the path has a slice. -/
def unwrapped (path : Json) : List Json → Json
  | [value] => if isSliced path then .arr [value] else value
  | found => .arr found

theorem map_value_project (data : Data) (path : Json) :
    (project data path).map (·.value) =
      if path = .null then .ok (.obj [])
      else if path = .str "$" then .ok data.value
      else (values data.value path).map (unwrapped path) := by
  unfold project values
  split
  · rfl
  split
  · rfl
  cases select data.value path with
  | error e => rfl
  | ok finds =>
    match finds with
    | [] => rfl
    | [find] =>
      simp only [bind, Except.bind, pure, Except.pure, Except.map, List.map_cons, List.map_nil,
        unwrapped]
      split <;> rfl
    | _ :: _ :: _ => rfl

/-- The context object, an empty one if it is empty in any way. -/
def contextRoot (context : Json) : Json := if context.isFalsy then .obj [] else context

def rooted {α : Type} (data context : α) (path : Json) : α × Json :=
  match path with
  | .str s =>
    if ['$', '$'].isPrefixOf s.toList then (context, .str (String.ofList (s.toList.drop 1)))
    else (data, path)
  | _ => (data, path)

def applyTo (data : Data) (context path : Json) : Except (Reported PathError) Data :=
  if path = .null then .ok (.ofJson (.obj []))
  else if (text? path).isNone then .error (PathError.notPath path).reported
  else
    let (root, path) := rooted data (.ofJson (contextRoot context)) path
    project root path

def apply (data context path : Json) : Except (Reported PathError) Json :=
  (applyTo (.ofJson data) context path).map (·.value)

theorem map_value_applyTo (data : Data) (context path : Json) :
    (applyTo data context path).map (·.value) = apply data.value context path := by
  unfold apply applyTo
  split
  · rfl
  split
  · rfl
  cases path with
  | str s => cases same : ['$', '$'].isPrefixOf s.toList <;> simp [rooted, same, map_value_project]
  | _ => simp [rooted, map_value_project]

def first (data context path : Json) : Except (Reported PathError) Json :=
  let (root, path) := rooted data (contextRoot context) path
  if path = .str "$" then .ok root
  else do
    match ← values root path with
    | value :: _ => pure value
    | [] => .error (PathError.invalid path.display root none).reported

end Path

end StateFlow
