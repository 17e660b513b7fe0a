import StateFlow.Path
import StateFlow.Path.Result

/-!
Data in which nothing is shared. A result that is placed in such data, nothing being shared in the
result either, leads to such data again (`ResultPath.place_ofJson`), and so does a path with a single
find (`Data.narrowed_ofJson`).
-/
namespace StateFlow

open Json (Position)

namespace Data

theorem orEmpty_ofJson (value : Json) :
    (ofJson value).orEmpty = .ofJson (if value = .null then .obj [] else value) := by
  unfold orEmpty
  rw [value_ofJson]
  split <;> rfl

theorem exists_of_mem_objects {value : Json} {positions : List Position}
    (mem : positions ∈ (ofJson value).objects) : ∃ position, positions = [position] := by
  simp only [objects, shared_ofJson, List.nil_append, List.mem_map] at mem
  obtain ⟨position, -, rfl⟩ := mem
  exact ⟨position, rfl⟩

theorem length_le_of_mem_moved {value : Json} {move : Position → List Position} {bound : Nat}
    (few : ∀ position, (move position).length ≤ bound) {positions : List Position}
    (mem : positions ∈ (ofJson value).moved move) : positions.length ≤ bound := by
  rw [moved, List.mem_map] at mem
  obtain ⟨before, mem, rfl⟩ := mem
  obtain ⟨position, rfl⟩ := exists_of_mem_objects mem
  simpa using few position

theorem narrowed_ofJson (value : Json) (find : Path.Find) :
    (ofJson value).narrowed find = .ofJson find.value := by
  refine ofObjects_eq_ofJson fun positions mem => length_le_of_mem_moved (fun position => ?_) mem
  cases find.within? position <;> simp

end Data

namespace ResultPath

variable {data result : Json} {below : Position} {path : String}

theorem length_le_of_mem_objectsAfter {container : Position} {positions : List Position}
    (mem : positions ∈ objectsAfter (.ofJson data) (.ofJson result) [container] below) :
    positions.length ≤ 1 := by
  simp only [objectsAfter, List.mem_append, List.mem_map] at mem
  rcases mem with (moved | ⟨n, -, rfl⟩) | ⟨given, mem, rfl⟩
  · refine Data.length_le_of_mem_moved (fun position => ?_) moved
    split <;> simp
  · simp
  · obtain ⟨position, rfl⟩ := Data.exists_of_mem_objects mem
    simp

theorem written_ofJson (data result : Json) (position : Position) :
    written (.ofJson data) (.ofJson result) position = .ofJson := by
  funext value
  unfold written
  obtain ⟨container, below⟩ := parted position (Data.ofJson data).value
  dsimp only
  rw [Data.positionsOf_of_shared_eq_nil rfl,
    Data.ofObjects_eq_ofJson fun _ mem => length_le_of_mem_objectsAfter mem]
  simp [Json.spread]

theorem place_ofJson (data path result : Json) :
    place (.ofJson data) path (.ofJson result) = (apply data path result).map .ofJson := by
  -- both are read off one case analysis of the path
  have back {placed : Except (Reported ResultPathError) Data} {value}
      (same : placed = Except.map .ofJson value) :
      placed = (placed.map (·.value)).map .ofJson := by
    cases value <;> subst same <;> rfl
  unfold apply place
  rw [Data.orEmpty_ofJson]
  cases path with
  | str s =>
    simp only [written_ofJson]
    split
    · rfl
    split
    · rfl
    split
    · rfl
    · exact back rfl
  | _ => rfl

theorem apply_eq_update (head : path.toList.head? = some '$')
    (single : ['$', '$'].isPrefixOf path.toList = false) (longer : path ≠ "$") (data result : Json) :
    apply data (.str path) result =
      (update path result (keys path) (if data = .null then .obj [] else data)).mapError .told := by
  rw [apply, place, Data.orEmpty_ofJson]
  simp only [longer, head, single, ne_eq, not_true_eq_false, Bool.false_eq_true, if_false,
    written_ofJson, Data.value_ofJson]
  cases update path result (keys path) (if data = .null then .obj [] else data) <;> rfl

end ResultPath

end StateFlow
