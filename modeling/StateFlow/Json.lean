import StateFlow.Binary64

/-!
JSON values. Whole numbers are unbounded and distinct from doubles, and the members of an object
keep the order in which their keys first came. `Json.Distinct` holds of the values whose objects
have each key once; every reader of this library builds such values.
-/
namespace StateFlow

inductive Json where
  | null
  | bool (value : Bool)
  | int (value : Int)
  | real (value : Binary64)
  | str (value : String)
  | arr (items : List Json)
  | obj (fields : List (String × Json))
  deriving Inhabited

namespace Json

mutual
def decEq : (x y : Json) → Decidable (x = y)
  | .null, y => match y with
    | .null => isTrue rfl
    | .bool _ | .int _ | .real _ | .str _ | .arr _ | .obj _ => isFalse (by simp)
  | .bool a, y => match y with
    | .bool b => decidable_of_iff (a = b) (by simp)
    | .null | .int _ | .real _ | .str _ | .arr _ | .obj _ => isFalse (by simp)
  | .int a, y => match y with
    | .int b => decidable_of_iff (a = b) (by simp)
    | .null | .bool _ | .real _ | .str _ | .arr _ | .obj _ => isFalse (by simp)
  | .real a, y => match y with
    | .real b => decidable_of_iff (a = b) (by simp)
    | .null | .bool _ | .int _ | .str _ | .arr _ | .obj _ => isFalse (by simp)
  | .str a, y => match y with
    | .str b => decidable_of_iff (a = b) (by simp)
    | .null | .bool _ | .int _ | .real _ | .arr _ | .obj _ => isFalse (by simp)
  | .arr xs, y => match y with
    | .arr ys => match decEqItems xs ys with
      | isTrue h => isTrue (by rw [h])
      | isFalse h => isFalse (by simpa using h)
    | .null | .bool _ | .int _ | .real _ | .str _ | .obj _ => isFalse (by simp)
  | .obj xs, y => match y with
    | .obj ys => match decEqFields xs ys with
      | isTrue h => isTrue (by rw [h])
      | isFalse h => isFalse (by simpa using h)
    | .null | .bool _ | .int _ | .real _ | .str _ | .arr _ => isFalse (by simp)
def decEqItems : (xs ys : List Json) → Decidable (xs = ys)
  | [], [] => isTrue rfl
  | [], _ :: _ => isFalse (by simp)
  | _ :: _, [] => isFalse (by simp)
  | x :: xs, y :: ys => match decEq x y, decEqItems xs ys with
    | isTrue h, isTrue k => isTrue (by rw [h, k])
    | isFalse h, _ => isFalse (by simp [h])
    | _, isFalse h => isFalse (by simp [h])
def decEqFields : (xs ys : List (String × Json)) → Decidable (xs = ys)
  | [], [] => isTrue rfl
  | [], _ :: _ => isFalse (by simp)
  | _ :: _, [] => isFalse (by simp)
  | (k, x) :: xs, (l, y) :: ys =>
    if same : k = l then
      match decEq x y, decEqFields xs ys with
      | isTrue h, isTrue t => isTrue (by rw [same, h, t])
      | isFalse h, _ => isFalse (by simp [h])
      | _, isFalse h => isFalse (by simp [h])
    else isFalse (by simp [same])
end

instance : DecidableEq Json := decEq

def lookup (key : String) : List (String × Json) → Option Json
  | [] => none
  | (k, v) :: rest => if k = key then some v else lookup key rest

/-- A new value for a key, in its old place or at the end. -/
def insert (key : String) (value : Json) : List (String × Json) → List (String × Json)
  | [] => [(key, value)]
  | (k, v) :: rest => if k = key then (k, value) :: rest else (k, v) :: insert key value rest

theorem lookup_insert (key other : String) (value : Json) (fields : List (String × Json)) :
    lookup other (insert key value fields) =
      if key = other then some value else lookup other fields := by
  induction fields with
  | nil => rfl
  | cons field rest ih =>
    obtain ⟨k, v⟩ := field
    by_cases h : k = key <;> by_cases g : key = other <;> grind [insert, lookup]

theorem insert_of_lookup {key : String} {value : Json} {fields : List (String × Json)}
    (h : lookup key fields = some value) : insert key value fields = fields := by
  induction fields with
  | nil => simp [lookup] at h
  | cons field rest ih =>
    obtain ⟨k, v⟩ := field
    by_cases g : k = key <;> grind [insert, lookup]

theorem insert_insert (key : String) (value next : Json) (fields : List (String × Json)) :
    insert key next (insert key value fields) = insert key next fields := by
  induction fields with
  | nil => simp [insert]
  | cons field rest ih =>
    obtain ⟨k, v⟩ := field
    by_cases g : k = key <;> grind [insert]

def get? (value : Json) (key : String) : Option Json :=
  match value with
  | .obj fields => lookup key fields
  | _ => none

def field (value : Json) (key : String) : Json := (value.get? key).getD .null

/-- What counts as false where a truth value is wanted: nothing, zero and whatever is empty. -/
def isFalsy : Json → Bool
  | .null => true
  | .bool b => !b
  | .int n => n == 0
  | .real x => x.isZero
  | .str s => s == ""
  | .arr xs => xs.isEmpty
  | .obj fs => fs.isEmpty

def kindName : Json → String
  | .null => "NoneType"
  | .bool _ => "bool"
  | .int _ => "int"
  | .real _ => "float"
  | .str _ => "str"
  | .arr _ => "list"
  | .obj _ => "dict"

mutual
def Distinct : Json → Prop
  | .arr xs => DistinctItems xs
  | .obj fs => (fs.map Prod.fst).Nodup ∧ DistinctFields fs
  | _ => True
def DistinctItems : List Json → Prop
  | [] => True
  | x :: xs => Distinct x ∧ DistinctItems xs
def DistinctFields : List (String × Json) → Prop
  | [] => True
  | (_, v) :: fs => Distinct v ∧ DistinctFields fs
end

end Json

end StateFlow
