import StateFlow.Data
import StateFlow.Json.Display
import StateFlow.Json.Writable
import StateFlow.Path.Index

/-!
Result paths: where a result is placed in the data. The keys of the path are followed through
objects and lists; a member that is missing is created, an item of a list has to be there, and a
scalar has no place for a key. Only the last list or object on the way that was there before is
written in, and the result is then wherever that one stands.
-/
namespace StateFlow

inductive ResultPathError where
  | notReference (path : Json)
  | contextPath
  | badIndex (path key : String) (cause : Text.IntegerError)
  | noSuchItem (path : String)
  | indexTooLarge (path : String)
  | scalar (key path : String)

def ResultPathError.message : ResultPathError → String
  | .notReference path => path.display ++ " must be a Reference Path"
  | .contextPath => "The value of \"ResultPath\" MUST NOT begin with \"$$\""
  | .badIndex path key cause =>
    "Unable to apply ResultPath " ++ path ++ ": " ++ cause.message key
  | .noSuchItem path => "Unable to apply ResultPath " ++ path ++ ": list index out of range"
  | .indexTooLarge path =>
    "Unable to apply ResultPath " ++ path ++ ": cannot fit 'int' into an index-sized integer"
  | .scalar key path =>
    "Cannot use key " ++ key ++ " of ResultPath " ++ path ++ " to index a primitive type"

def ResultPathError.isWritable : ResultPathError → Bool
  | .notReference path => path.isWritable
  | _ => true

def ResultPathError.reported (error : ResultPathError) : Reported ResultPathError :=
  .report error.isWritable error

namespace ResultPath

open Json (Position)

def isMark (c : Char) : Bool := "$.[]'\"".toList.contains c

def splitKeys (key : List Char) : List Char → List (List Char)
  | [] => if key = [] then [] else [key.reverse]
  | c :: rest =>
    if isMark c then (if key = [] then splitKeys [] rest else key.reverse :: splitKeys [] rest)
    else splitKeys (c :: key) rest

def keys (path : String) : List String := (splitKeys [] path.toList).map String.ofList

def update (path : String) (value : Json) : List String → Json → Except ResultPathError Json
  | [], _ => .ok value
  | key :: rest, .arr items =>
    match Text.readInteger key with
    | .error cause => .error (.badIndex path key cause)
    | .ok index =>
      match Path.place? items.length index with
      | none => .error (if Path.isIndex index then .noSuchItem path else .indexTooLarge path)
      | some i => (update path value rest (items.getD i .null)).map fun item =>
          .arr (items.set i item)
  | key :: rest, .obj fields =>
    (update path value rest ((Json.lookup key fields).getD (.obj []))).map fun member =>
      .obj (Json.insert key member fields)
  | key :: _, _ => .error (.scalar key path)

/-- The position that keys lead to, through members that are missing as well. -/
def positionOf : List String → Json → Position
  | [], _ => []
  | key :: rest, .arr items =>
    match (Text.readInteger key).toOption.bind (Path.place? items.length) with
    | some i => .item i :: positionOf rest (items.getD i .null)
    | none => []
  | key :: rest, .obj fields =>
    .member key :: positionOf rest ((Json.lookup key fields).getD (.obj []))
  | _ :: _, _ => []

/-- A position as that of the last container above it that is there, and the steps from there. -/
def parted : Position → Json → Position × Position
  | step :: next :: rest, value =>
    match value.at? [step] with
    | some inner =>
      let (container, below) := parted (next :: rest) inner
      (step :: container, below)
    | none => ([], step :: next :: rest)
  | position, _ => ([], position)

/-- The objects after a result has been placed below a container that stands at some positions. What
stood there before is gone, and what is between the container and the result is new. -/
def objectsAfter (data result : Data) (containers : List Position) (below : Position) :
    List (List Position) :=
  data.moved (fun position =>
      if containers.any fun container => (container ++ below.take 1).isPrefixOf position then []
      else [position]) ++
    (List.range (below.length - 1)).map (fun n => containers.map (· ++ below.take (n + 1))) ++
    result.objects.map fun positions =>
      containers.flatMap fun container => positions.map ((container ++ below) ++ ·)

def written (data result : Data) (position : Position) (value : Json) : Data :=
  let (container, below) := parted position data.value
  let containers := data.positionsOf container
  let content := (value.at? container).getD .null
  .ofObjects (.spread content (containers.filter (· ≠ container)) value)
    (objectsAfter data result containers below)

/-- The data with the result placed where a path says: nowhere for no path, and instead of the data
for the path `$`. -/
def place (data : Data) (path : Json) (result : Data) : Except (Reported ResultPathError) Data :=
  let data := data.orEmpty
  match path with
  | .null => .ok data
  | .str s =>
    if s = "$" then .ok result
    else if s.toList.head? ≠ some '$' then .error (ResultPathError.notReference path).reported
    else if ['$', '$'].isPrefixOf s.toList then .error (.told .contextPath)
    else ((update s result.value (keys s) data.value).mapError .told).map
      (written data result (positionOf (keys s) data.value))
  | path => .error (ResultPathError.notReference path).reported

def apply (data path result : Json) : Except (Reported ResultPathError) Json :=
  (place (.ofJson data) path (.ofJson result)).map (·.value)

end ResultPath

end StateFlow
