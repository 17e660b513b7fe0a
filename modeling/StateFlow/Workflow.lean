import StateFlow.Json.Decode
import StateFlow.Machine.Load
import StateFlow.Simulation
import StateFlow.Workflow.Files

/-!
Setting up an engine from a configuration file and the environment. What the environment says counts
before what the file says, and that before what is usual; the definition is read from the file that
the configuration names. Each step of it is logged, also of a set-up that fails.
-/
namespace StateFlow

inductive WorkflowError where
  | configurationFile (cause : FileError)
  | configurationText (cause : Json.DecodeError)
  | kind (cause : KindError)
  | timeout (cause : WholeError)
  | definitionFile (cause : FileError)
  | definition (cause : LoadError)
  | metrics (cause : MetricsError)
  | engine (cause : EngineError)

def WorkflowError.message : WorkflowError → String
  | .configurationFile cause | .definitionFile cause => cause.message
  | .configurationText cause => cause.message
  | .kind cause => cause.message
  | .timeout cause => cause.message
  | .definition cause => cause.message
  | .metrics cause => cause.message
  | .engine cause => cause.message

structure Surroundings where
  files : Files
  environment : List (String × String)
  interpreter : String

structure Workflow where
  configuration : Json
  engine : Engine

namespace Workflow

/-- A step that may fail and that logs; the records are kept with the newest first. -/
abbrev SetUp := ExceptT WorkflowError (StateM (List Log.Record))

def note (record : Log.Record) : SetUp Unit := modify (record :: ·)

def usualDefinitionFile : String := "step-functions.json"

def unreadable (what : String) (name : Json) : Log.Record :=
  .error ("Unable to read " ++ what ++ " file: " ++ name.display)

def invalidConfiguration : Log.Record := .error "Configuration file does not contain valid JSON"

def readDefinition (files : Files) (name : Json) : SetUp String := do
  match files.read name with
  | .ok text => pure text
  | .error cause =>
    if let .system := cause.fault then note (unreadable "definition" name)
    throw (.definitionFile cause)

/-- The value in the configuration file, and an empty one where the name is empty in some way. A bad
name counts as bad content. -/
def readConfiguration (files : Files) (file : Json) : SetUp Json := do
  if file.isFalsy then pure (.obj [])
  else match files.read file with
    | .error cause =>
      match cause.fault with
      | .system => note (unreadable "configuration" file)
      | .name => note invalidConfiguration
      | .kind => pure ()
      throw (.configurationFile cause)
    | .ok text => match Json.decode text with
      | .ok value =>
        note (.info "Creating WorkflowEngine")
        pure value
      | .error cause =>
        note invalidConfiguration
        throw (.configurationText cause)

def sectionOf (config : Json) (name : String) : Except WorkflowError Json :=
  (config.memberOr (.obj []) name).mapError .kind

def setting (environment : List (String × String)) (entry : String) (part : Json) (key : String)
    (usual : Json) : Except WorkflowError Json := do
  let value ← (part.memberOr usual key).mapError .kind
  pure (((environment.lookup entry).map .str).getD value)

private def set (part : Json) (key : String) (value : Json) : Json :=
  match part with
  | .obj fields => .obj (Json.insert key value fields)
  | part => part

def completeStateEngine (environment : List (String × String)) (part : Json) :
    Except WorkflowError Json := do
  let file ← setting environment "STATE_ENGINE_DEFINITION_FILE" part "definition_file"
    (.str usualDefinitionFile)
  pure (set part "definition_file" file)

def completeInvoker (surroundings : Surroundings) (part : Json) : Except WorkflowError Json := do
  let environment := surroundings.environment
  let timeout ← setting environment "TASK_INVOKER_TIMEOUT_MILLIS" part "timeout_millis"
    (.int Invoker.usualTimeoutMillis)
  let timeoutMillis ← timeout.whole.mapError .timeout
  let root ← setting environment "TASK_INVOKER_HANDLER_ROOT" part "handler_root"
    (.str Invoker.usualRoot)
  let own := part.field "python"
  let interpreter := if own.isFalsy then .str surroundings.interpreter else own
  let interpreter := ((environment.lookup "TASK_INVOKER_PYTHON").map Json.str).getD interpreter
  pure (set (set (set part "timeout_millis" (.int timeoutMillis)) "handler_root" root)
    "python" interpreter)

def completeMetrics (environment : List (String × String)) (part : Json) :
    Except WorkflowError Json := do
  let implementation ← setting environment "METRICS_IMPLEMENTATION" part "implementation"
    (.str "None")
  let ns ← setting environment "METRICS_NAMESPACE" part "namespace" (.str "")
  pure (set (set part "implementation" implementation) "namespace" ns)

def complete (surroundings : Surroundings) (config : Json) : Except WorkflowError Json := do
  let stateEngine ← sectionOf config "state_engine"
  let invoker ← sectionOf config "task_invoker"
  let metrics ← sectionOf config "metrics"
  let stateEngine ← completeStateEngine surroundings.environment stateEngine
  let invoker ← completeInvoker surroundings invoker
  let metrics ← completeMetrics surroundings.environment metrics
  pure (set (set (set config "state_engine" stateEngine) "task_invoker" invoker)
    "metrics" metrics)

def definitionFile (config : Json) : Json := (config.field "state_engine").field "definition_file"

private def lifted (make : ε → WorkflowError) (result : Except ε α) : SetUp α :=
  match result with
  | .ok value => pure value
  | .error cause => throw (make cause)

def setUp (surroundings : Surroundings) (file : Json) : SetUp Workflow := do
  let config ← lifted id (complete surroundings (← readConfiguration surroundings.files file))
  let text ← readDefinition surroundings.files (definitionFile config)
  let definition ← lifted .definition (Definition.load (.str text))
  note (.info ("Loaded state machines " ++
    (Json.arr (definition.machineNames.map .str)).display))
  let (records, metrics) := Metrics.configure (config.field "metrics")
  records.forM note
  let metrics ← lifted .metrics metrics
  let engine ← lifted .engine (Engine.create definition config ⟨metrics, ← get⟩)
  pure ⟨config, engine⟩

def definitionFile? (surroundings : Surroundings) (file : Json) : Option String :=
  let config : SetUp Json := do
    lifted id (complete surroundings (← readConfiguration surroundings.files file))
  match (config.run.run []).1.toOption.map definitionFile with
  | some (.str name) => some name
  | _ => none

def create (surroundings : Surroundings) (file : Json) :
    List Log.Record × Except WorkflowError Workflow :=
  let (result, records) := (setUp surroundings file).run.run []
  (records.reverse, result)

def steadily : RunRule := ⟨none, false⟩

def run (simulation : Simulation) (machine input : Json) :
    Except StartError (Simulation × Json) := do
  let (simulation, index) ← simulation.start steadily machine input .null
  pure (simulation, match simulation.engine.executions[index]? with
    | some execution => execution.description
    | none => .null)

end Workflow

end StateFlow
