import StateFlow.Json.Arithmetic
import StateFlow.Worker

/-!
A module of sample handlers, and how a worker finds a handler when that module is the only one.
-/
namespace StateFlow.Worker.Samples

private def ended (ending : HandlerEnd) : HandlerRun := ⟨"", "", .int 0, ending⟩

private def answered : Except Raised Json → HandlerRun
  | .ok result => ended (.returned result)
  | .error error => ended (.raised error)

private def quiet (answer : Except KindError Json) : HandlerRun :=
  answered (answer.mapError .ofKind)

def hello : Handler := fun event _ => quiet do
  match ← event.memberOr (.str "world") "name" with
  | .str name => pure (.obj [("message", .str ("hello " ++ name))])
  | name => .error (.notJoined name "str")

def echo : Handler := fun event _ => ended (.returned event)

private def sumError (a b : Json) : Raised :=
  match a.asNumber?, b.asNumber? with
  | some _, some _ => .plain "OverflowError" "int too large to convert to float"
  | _, _ => .ofKind (match a with
    | .str _ => .notJoined b "str"
    | .arr _ => .notJoined b "list"
    | _ => .badOperands "+" a b)

def add : Handler := fun event _ => answered do
  let a ← (event.member "a").mapError .ofKind
  let b ← (event.member "b").mapError .ofKind
  match a.plus? b with
  | some sum => pure sum
  | none => .error (sumError a b)

def double : Handler := fun event _ => quiet <|
  match event.times? (.int 2) with
  | some twice => .ok twice
  | none => .error (.badOperands "*" event (.int 2))

def stateName : Handler := fun _ context => quiet do
  let state ← (← context.member "State").member "Name"
  let execution ← (← context.member "Execution").member "Id"
  pure (.obj [("state", state), ("execution", execution)])

def noisy : Handler := fun _ _ =>
  { stdout := "some chatter on stdout\n" ++
      "\x7b\"tag\": \"not-the-real-tag\", \"result\": \"fake\"\x7d\n"
    stderr := "some chatter on stderr\n"
    seconds := .int 0
    ending := .returned (.obj [("noisy", .bool true)]) }

def fail : Handler := fun _ _ => ended (.raised (.plain "ValueError" "handler went wrong"))

def asyncHello : Handler := fun _ _ => ended (.returned (.obj [("message", .str "async hello")]))

def unserialisable : Handler := fun _ _ =>
  ended (.raised (.plain "TypeError" "<object object at 0xADDR> is not JSON serializable"))

def lingeringThread : Handler := fun _ _ => ended (.returned (.obj [("done", .bool true)]))

/-- The lines that it floods its outputs with are left out: none of them is a message. -/
def flood : Handler := fun _ _ => ended (.returned (.obj [("flooded", .bool true)]))

def crash : Handler := fun _ _ => ⟨"", "about to crash\n", .int 0, .exited 3⟩

def sleep : Handler := fun event _ =>
  match event.memberOr (.int 30) "seconds" with
  | .error error => ended (.raised (.ofKind error))
  | .ok value => match value.asNumber? with
    | none => ended (.raised (.plain "TypeError"
        ("'" ++ value.kindName ++ "' object cannot be interpreted as an integer")))
    | some seconds =>
      if seconds.isNegative then
        ended (.raised (.plain "ValueError" "sleep length must be non-negative"))
      else ⟨"", "", seconds, .returned (.obj [("slept", .bool true)])⟩

def moduleName : String := "handlers"

def functions : List (String × Handler) :=
  [("hello", hello), ("echo", echo), ("add", add), ("double", double), ("state_name", stateName),
    ("noisy", noisy), ("fail", fail), ("async_hello", asyncHello),
    ("unserialisable", unserialisable), ("lingering_thread", lingeringThread), ("flood", flood),
    ("crash", crash), ("sleep", sleep)]

/-- Names of the module that are no functions: a number, the modules that it uses itself, and what
every module knows about itself. -/
def constants : List String :=
  ["not_callable", "sys", "asyncio", "os", "subprocess", "threading", "time", "__name__", "__doc__",
    "__package__", "__loader__", "__spec__", "__file__", "__cached__", "__builtins__", "__dict__",
    "__annotations__"]

private def typeError (reason : String) : HandlerRun := ended (.raised (.plain "TypeError" reason))

private def argumentCount (reason : String) : Handler := fun _ _ => typeError reason

private def notSerializable (what : String) : HandlerRun :=
  typeError (what ++ " is not JSON serializable")

private def withModuleName (ending : String → HandlerRun) : Handler := fun event _ =>
  match event with
  | .str name => ending name
  | .null => typeError "module() argument 'name' must be str, not None"
  | value => typeError ("module() argument 'name' must be str, not " ++ value.kindName)

private def setAttribute : Handler := fun event _ =>
  match event with
  | .str _ => ended (.returned .null)
  | value => typeError ("attribute name must be string, not '" ++ value.kindName ++ "'")

/-- The methods of every module. Called with an event and a context, most of them have too many
arguments. -/
def methods : List (String × Handler) :=
  (["__repr__", "__str__", "__hash__"].map fun name =>
    (name, argumentCount "expected 0 arguments, got 2")) ++
  (["__eq__", "__ne__", "__lt__", "__le__", "__gt__", "__ge__", "__getattribute__",
      "__delattr__"].map fun name =>
    (name, argumentCount "expected 1 argument, got 2")) ++
  (["__dir__", "__sizeof__", "__reduce__", "__getstate__"].map fun name =>
    (name, argumentCount (name ++ "() takes no arguments (2 given)"))) ++
  (["__format__", "__reduce_ex__"].map fun name =>
    (name, argumentCount (name ++ "() takes exactly one argument (2 given)"))) ++
  [("__init_subclass__", argumentCount "module.__init_subclass__() takes no arguments (2 given)"),
    ("__subclasshook__", fun _ _ => notSerializable "NotImplemented"),
    ("__new__", fun event _ => typeError
      ("module.__new__(X): X is not a type object (" ++ event.kindName ++ ")")),
    ("__setattr__", setAttribute),
    ("__init__", withModuleName fun _ => ended (.returned .null)),
    ("__class__", withModuleName fun name =>
      notSerializable ("<module " ++ (Json.str name).quoted ++ ">"))]

private def noModule (reason : String) : Raised := .plain "ModuleNotFoundError" reason

private def inModule (reference : Json) (function : String) : Except Raised Handler :=
  match (functions ++ methods).lookup function with
  | some handler => .ok handler
  | none =>
    .error (if constants.contains function then
      .plain "TypeError" ("Handler \"" ++ reference.display ++ "\" is not callable")
    else
      .plain "AttributeError"
        ("module '" ++ moduleName ++ "' has no attribute '" ++ function ++ "'"))

/-- The module of the samples is no package, and there is no other module. -/
def resolve (reference : Json) : Except Raised Handler :=
  match HandlerReference.parse reference with
  | .error error => .error (.ofReference error)
  | .ok ⟨[], _⟩ => .error (.ofReference .emptyModule)
  | .ok ⟨first :: rest, function⟩ =>
    if String.ofList first ≠ moduleName then
      .error (noModule ("No module named " ++ (Json.str (String.ofList first)).quoted))
    else match rest with
      | [] => inModule reference function
      | next :: _ =>
        .error (noModule ("No module named " ++
          (Json.str (moduleName ++ "." ++ String.ofList next)).quoted ++ "; '" ++ moduleName ++
          "' is not a package"))

end StateFlow.Worker.Samples
