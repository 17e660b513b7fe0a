import StateFlow.Json.Position

/-!
The data of an execution: a value, and which of its lists and objects are one and the same. A path
that selects several values makes a list of the very objects that it comes to, so that one of them
may stand there twice, or beside an object that it is a part of. Handing data on and copying it keep
this, and what is placed in an object is placed wherever the object stands.
-/
namespace StateFlow

open Json (Position)

/-- A value, and the positions of each list or object in it that stands at more than one. -/
structure Data where
  value : Json
  shared : List (List Position)
  deriving DecidableEq

namespace Data

def ofJson (value : Json) : Data := ⟨value, []⟩

@[simp] theorem value_ofJson (value : Json) : (ofJson value).value = value := rfl

@[simp] theorem shared_ofJson (value : Json) : (ofJson value).shared = [] := rfl

theorem eq_ofJson_iff {data : Data} {value : Json} :
    data = .ofJson value ↔ data.value = value ∧ data.shared = [] := by
  cases data
  simp [ofJson]

def orEmpty (data : Data) : Data := if data.value = .null then .ofJson (.obj []) else data

def objects (data : Data) : List (List Position) :=
  data.shared ++
    (data.value.containers.filter fun position => !data.shared.any (·.contains position)).map ([·])

/-- All positions of the list or object at a position; it has the same value at each of them. -/
def positionsOf (data : Data) (position : Position) : List Position :=
  ((data.shared.find? (·.contains position)).getD [position]).filter fun other =>
    data.value.at? other = data.value.at? position

theorem mem_positionsOf (data : Data) (position : Position) :
    position ∈ data.positionsOf position := by
  rw [positionsOf, List.mem_filter]
  refine ⟨?_, by simp⟩
  cases found : data.shared.find? (·.contains position) with
  | none => simp
  | some positions => simpa using List.find?_some found

theorem at?_of_mem_positionsOf {data : Data} {position other : Position}
    (mem : other ∈ data.positionsOf position) :
    data.value.at? other = data.value.at? position := by
  simpa using (List.mem_filter.1 mem).2

@[simp] theorem positionsOf_of_shared_eq_nil {data : Data} (unshared : data.shared = [])
    (position : Position) : data.positionsOf position = [position] := by
  simp [positionsOf, unshared]

/-- A value and the objects in it, of which those are kept that stand at more than one position. -/
def ofObjects (value : Json) (objects : List (List Position)) : Data :=
  ⟨value, objects.filter (1 < ·.length)⟩

theorem ofObjects_eq_ofJson {value : Json} {objects : List (List Position)}
    (single : ∀ positions ∈ objects, positions.length ≤ 1) :
    ofObjects value objects = .ofJson value := by
  simpa [ofObjects, ofJson] using single

/-- Where the objects of the data stand after a move of each position to others. -/
def moved (data : Data) (move : Position → List Position) : List (List Position) :=
  data.objects.map (·.flatMap move)

end Data

end StateFlow
