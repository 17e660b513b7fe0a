import StateFlow.Json.Kind
import StateFlow.Text.Lines

/-!
The files that a program sees, by name: those of its own directory, and those with a name from the
root. A name is walked step by step, each step from a directory to something in it; what the names
of other files begin with is a directory. Every line end of a text counts as a line feed.
-/
namespace StateFlow

/-- Names with their texts; a name that ends with a slash is that of an empty directory. -/
abbrev Files := List (String × String)

/-- A number in place of a name is that of an open file, and no other file is open. -/
inductive FileError where
  | missing (name : String)
  | directory (name : String)
  | throughFile (name : String)
  | nameTooLong (name : String)
  | nullInName
  | notOpen
  | negativeNumber
  | notName (value : Json)

namespace FileError

def message : FileError → String
  | .missing name => "[Errno 2] No such file or directory: " ++ (Json.str name).quoted
  | .directory name => "[Errno 21] Is a directory: " ++ (Json.str name).quoted
  | .throughFile name => "[Errno 20] Not a directory: " ++ (Json.str name).quoted
  | .nameTooLong name => "[Errno 36] File name too long: " ++ (Json.str name).quoted
  | .nullInName => "embedded null byte"
  | .notOpen => "[Errno 9] Bad file descriptor"
  | .negativeNumber => "negative file descriptor"
  | .notName value => (KindError.notPath value).message

/-- What is wrong: the system has no such file, the name is no good, or it is not even a name. -/
inductive Fault where
  | system
  | name
  | kind

def fault : FileError → Fault
  | .missing _ | .directory _ | .throughFile _ | .nameTooLong _ | .notOpen => .system
  | .nullInName | .negativeNumber => .name
  | .notName _ => .kind

end FileError

namespace Files

def split : List Char → List (List Char)
  | [] => [[]]
  | c :: rest =>
    if c = '/' then [] :: split rest
    else match split rest with
      | part :: more => (c :: part) :: more
      | [] => [[c]]

def isStay (step : List Char) : Bool := step == [] || step == ['.']

def up : List Char := ['.', '.']

def stepsOf (name : String) : List (List Char) := (split name.toList).filter (!isStay ·)

def isRooted (name : String) : Bool := name.toList.head? = some '/'

/-- One step up from a place, whose steps are kept with the last one first. Above the root is the
root. -/
def above (rooted : Bool) : List (List Char) → List (List Char)
  | [] => if rooted then [] else [up]
  | step :: before => if step = up then up :: step :: before else before

def resolve (rooted : Bool) (steps : List (List Char)) : List (List Char) :=
  (steps.foldl (fun place step => if step = up then above rooted place else step :: place)
    []).reverse

def directoryName (name : String) : String :=
  match resolve false (stepsOf name) with
  | [] => "."
  | steps =>
    (if isRooted name then "/" else "") ++ String.intercalate "/" (steps.map String.ofList)

inductive Node where
  | file (text : String)
  | directory

/-- What is at a place. The directories above that of the program are there, but empty. -/
def node? (files : Files) (rooted : Bool) (steps : List (List Char)) : Option Node :=
  let known := files.filter fun file => isRooted file.1 = rooted
  match known.find? fun file =>
      stepsOf file.1 == steps && file.1.toList.getLast? != some '/' with
  | some (_, text) => some (.file text)
  | none =>
    if steps.all (· == up) || known.any fun file => steps.isPrefixOf (stepsOf file.1) then
      some .directory
    else none

def stepLimit : Nat := 255

def nameLimit : Nat := 4095

def walk (files : Files) (name : String) (rooted : Bool) (place : List (List Char)) :
    List (List Char) → Except FileError Node
  | [] => match files.node? rooted place.reverse with
    | some node => .ok node
    | none => .error (.missing name)
  | step :: rest => match files.node? rooted place.reverse with
    | none => .error (.missing name)
    | some (.file _) => .error (.throughFile name)
    | some .directory =>
      if isStay step then walk files name rooted place rest
      else if step = up then walk files name rooted (above rooted place) rest
      else if stepLimit < (String.ofList step).utf8ByteSize then .error (.nameTooLong name)
      else walk files name rooted (step :: place) rest

def look (files : Files) (name : String) : Except FileError Node :=
  if name.toList.contains '\x00' then .error .nullInName
  else if nameLimit < name.utf8ByteSize then .error (.nameTooLong name)
  else if name = "" then .error (.missing name)
  else walk files name (isRooted name) [] (split name.toList)

def isFile (files : Files) (name : String) : Bool :=
  match files.look name with
  | .ok (.file _) => true
  | _ => false

def isNumber (n : Int) : Bool := -2147483648 ≤ n && n ≤ 2147483647

def read (files : Files) (name : Json) : Except FileError String :=
  match name with
  | .str s => do
    match ← files.look s with
    | .file text => pure (String.ofList (Text.plainLines text.toList))
    | .directory => .error (.directory s)
  | .int n =>
    if isNumber n then .error (if n < 0 then .negativeNumber else .notOpen)
    else .error (.notName name)
  | value => .error (.notName value)

end Files

end StateFlow
