import StateFlow.Json.Decode
import StateFlow.Json.Writable
import StateFlow.Machine
import StateFlow.Rule.Parse

/-!
Loading definitions. Machines are given by name, each as it is or under a `definition` key, and all
of them as they are or under a `stateMachines` key, as JSON or as JSON text. Every fault is reported
with its place, the first one found; what stands where a name is looked up must be a possible key,
and one that can be written if it is not found.
-/
namespace StateFlow

inductive DefinitionError where
  | badText (cause : Json.DecodeError)
  | notObject
  | machineNotObject (machine : String)
  | noStates (machine : String)
  | stateNotObject (state : String)
  | illegalType (state : String) (type : Json)
  | nextAndEnd (state : String)
  | noNext (state : String)
  | badHandler (state : String)
  | badTimeout (state : String)
  | manyDelays (state : String) (found : List String)
  | noChoices (state : String)
  | badRule (cause : RuleError)
  | noStart (start : Json) (machine : String)
  | dangling (target : Json) (machine state field : String)

def DefinitionError.message : DefinitionError → String
  | .badText cause => "State Machine definition is not valid JSON: " ++ cause.message
  | .notObject => "State Machine definition must be an object"
  | .machineNotObject machine => "State Machine \"" ++ machine ++ "\" must be an object"
  | .noStates machine =>
    "State Machine \"" ++ machine ++ "\" must have a non-empty \"States\" object"
  | .stateNotObject state => "State \"" ++ state ++ "\" must be an object"
  | .illegalType state type =>
    "State \"" ++ state ++ "\" has an illegal Type \"" ++ type.display ++
      "\": Illegal State Machine."
  | .nextAndEnd state => "State \"" ++ state ++ "\" has both \"Next\" and \"End\" fields"
  | .noNext state => "State \"" ++ state ++ "\" is not terminal and has no \"Next\" field"
  | .badHandler state =>
    "Task state \"" ++ state ++ "\" must have a \"handler\" field of the form module.function"
  | .badTimeout state =>
    "Field \"TimeoutSeconds\" of Task state \"" ++ state ++ "\" must be a positive number"
  | .manyDelays state found =>
    "Wait state \"" ++ state ++
      "\" must contain only one of Seconds, SecondsPath, Timestamp or TimestampPath, found " ++
      (Json.arr (found.map .str)).quoted
  | .noChoices state =>
    "Choice state \"" ++ state ++ "\" must have a non-empty \"Choices\" array"
  | .badRule cause => cause.message
  | .noStart start machine =>
    "StartAt value \"" ++ start.display ++ "\" not found in States field of State Machine \"" ++
      machine ++ "\""
  | .dangling target machine state field =>
    "No state found named \"" ++ target.display ++ "\", referenced at " ++ machine ++ ".States." ++
      state ++ "." ++ field

inductive LoadError where
  | definition (cause : DefinitionError)
  | unhashable (value : Json)
  | unwritable

def LoadError.message : LoadError → String
  | .definition cause => cause.message
  | .unhashable value => (LookupError.unhashable value).message
  | .unwritable => Text.unwritableMessage

/-- Why a value cannot be looked up, or cannot be reported as not found. -/
def LoadError.ofKey? (key : Json) : Option LoadError :=
  if !key.isHashable then some (.unhashable key)
  else if !key.isWritable then some .unwritable
  else none

abbrev Loading (α : Type) := Except LoadError α

private def refuse (cause : DefinitionError) : Loading α := .error (.definition cause)

def refuseKey (key : Json) (cause : DefinitionError) : Loading α :=
  match LoadError.ofKey? key with
  | some error => .error error
  | none => .error (.definition cause)

theorem refuseKey_eq_error {key : Json} {cause : DefinitionError} {error : LoadError} {α : Type} :
    (refuseKey key cause : Loading α) = .error error ↔
      LoadError.ofKey? key = some error ∨
        LoadError.ofKey? key = none ∧ error = .definition cause := by
  cases fault : LoadError.ofKey? key <;> simp [refuseKey, fault, eq_comm]

theorem refuseKey_ne_ok {key : Json} {cause : DefinitionError} {α : Type} {a : α} :
    refuseKey key cause ≠ .ok a := by
  cases fault : LoadError.ofKey? key <;> simp [refuseKey, fault]

namespace State

def base (name : String) (raw : Json) (kind : StateKind) : State where
  name
  comment := raw.field "Comment"
  next := raw.field "Next"
  ends := raw.get? "End" == some (.bool true)
  inputPath := (raw.get? "InputPath").getD (.str "$")
  outputPath := (raw.get? "OutputPath").getD (.str "$")
  resultPath := (raw.get? "ResultPath").getD (.str "$")
  kind

def checkNext (state : State) : Loading Unit :=
  if state.ends then
    if state.next.isFalsy then pure () else refuse (.nextAndEnd state.name)
  else match state.next with
    | .str _ => pure ()
    | _ => refuse (.noNext state.name)

def isPositive (x : Number) : Bool :=
  match x.compare? (.int 0) with
  | some .lt | some .eq => false
  | _ => true

def readTimeout (name : String) : Json → Loading (Option Number)
  | .null => pure none
  | value => match Number.ofJson? value with
    | some x => if isPositive x then pure (some x) else refuse (.badTimeout name)
    | none => refuse (.badTimeout name)

def delayFields : List (String × (Json → Delay)) :=
  [("Seconds", .seconds), ("SecondsPath", .secondsPath), ("Timestamp", .timestamp),
    ("TimestampPath", .timestampPath)]

def readDelay (name : String) (raw : Json) : Loading Delay :=
  match delayFields.filter fun (key, _) => (raw.get? key).isSome with
  | [] => pure .unset
  | [(key, make)] => pure (if raw.field key = .null then .unset else make (raw.field key))
  | found => refuse (.manyDelays name (found.map Prod.fst))

def readChoices (name : String) (index : Nat) : List Json → Loading (List Rule)
  | [] => pure []
  | raw :: rest => do
    let location := name ++ ".Choices[" ++ String.ofList (Decimal.digits index) ++ "]"
    match Rule.parse location true raw with
    | .ok rule => return rule :: (← readChoices name (index + 1) rest)
    | .error e => refuse (.badRule e)

def readTask (name : String) (raw : Json) : Loading StateKind :=
  match raw.field "handler" with
  | .str handler =>
    if handler.toList.contains '.' then do
      pure (.task handler (← readTimeout name (raw.field "TimeoutSeconds")))
    else refuse (.badHandler name)
  | _ => refuse (.badHandler name)

def readChoice (name : String) (raw : Json) : Loading StateKind :=
  match raw.field "Choices" with
  | .arr (first :: rest) => do
    pure (.choice (← readChoices name 0 (first :: rest)) (raw.field "Default"))
  | _ => refuse (.noChoices name)

/-- The common fields are checked before those of the kind. -/
def readChecked (name : String) (raw : Json) (kind : Loading StateKind) : Loading State := do
  checkNext (base name raw .succeed)
  pure (base name raw (← kind))

def load (name : String) (raw : Json) : Loading State :=
  match raw with
  | .obj _ =>
    match raw.field "Type" with
    | .str "Task" => readChecked name raw (readTask name raw)
    | .str "Pass" => readChecked name raw (pure (.pass (raw.get? "Result")))
    | .str "Wait" => readChecked name raw ((readDelay name raw).map .wait)
    | .str "Choice" => (readChoice name raw).map (base name raw)
    | .str "Succeed" => pure (base name raw .succeed)
    | .str "Fail" => pure (base name raw (.fail (raw.field "Error") (raw.field "Cause")))
    | .str "Parallel" => readChecked name raw (pure .parallel)
    | .str "Map" => readChecked name raw (pure .map)
    | type => refuseKey type (.illegalType name type)
  | _ => refuse (.stateNotObject name)

end State

namespace Machine

def loadStates : List (String × Json) → Loading (List State)
  | [] => pure []
  | (name, raw) :: rest => do
    let state ← State.load name raw
    let states ← loadStates rest
    pure (state :: states)

def names (states : List State) (value : Json) : Loading Bool :=
  match value with
  | .str s => pure (states.any fun state => state.name == s)
  | value => if value.isHashable then pure false else .error (.unhashable value)

def checkTransitions (machine : String) (states : List State) (state : State) :
    List (String × Json) → Loading Unit
  | [] => pure ()
  | (field, target) :: rest => do
    if ← names states target then checkTransitions machine states state rest
    else refuseKey target (.dangling target machine state.name field)

def checkStates (machine : String) (states : List State) : List State → Loading Unit
  | [] => pure ()
  | state :: rest => do
    checkTransitions machine states state state.transitions
    checkStates machine states rest

def load (name : String) (raw : Json) : Loading Machine :=
  match raw with
  | .obj _ =>
    match raw.field "States" with
    | .obj (first :: rest) => do
      let states ← loadStates (first :: rest)
      let start := raw.field "StartAt"
      if ← names states start then
        checkStates name states states
        pure { name, comment := raw.field "Comment", startAt := start.display, states }
      else refuseKey start (.noStart start name)
    | _ => refuse (.noStates name)
  | _ => refuse (.machineNotObject name)

end Machine

namespace Definition

def unwrapped (raw : Json) : Json := (raw.get? "definition").getD raw

def loadMachines : List (String × Json) → Loading (List Machine)
  | [] => pure []
  | (name, raw) :: rest => do
    let machine ← Machine.load name (unwrapped raw)
    let machines ← loadMachines rest
    pure (machine :: machines)

def machinesIn (fields : List (String × Json)) : List (String × Json) :=
  match Json.lookup "stateMachines" fields with
  | some (.obj inner) => inner
  | _ => fields

def ofValue (raw : Json) : Loading Definition :=
  match raw with
  | .obj fields => (loadMachines (machinesIn fields)).map Definition.mk
  | _ => refuse .notObject

def load (raw : Json) : Loading Definition :=
  match raw with
  | .str text =>
    match Json.decode text with
    | .ok value => ofValue value
    | .error e => refuse (.badText e)
  | raw => ofValue raw

end Definition

end StateFlow
