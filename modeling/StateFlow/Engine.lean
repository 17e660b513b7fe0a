import StateFlow.Execution.Report
import StateFlow.Metrics.Configuration
import StateFlow.Task.Invoker

/-!
The engine: a definition, and the executions of its machines in the order of their starts. An
execution is live from its start until it is finished, and both are counted and logged. Executions
share nothing but the journal.
-/
namespace StateFlow

inductive EngineError where
  | kind (cause : KindError)
  | metrics (cause : MetricsError)
  | invoker (cause : InvokerError)

def EngineError.message : EngineError → String
  | .kind cause => cause.message
  | .metrics cause => cause.message
  | .invoker cause => cause.message

inductive StartError where
  | lookup (cause : LookupError)
  | clock (cause : ClockError)

def StartError.message : StartError → String
  | .lookup cause => cause.message
  | .clock cause => cause.message

structure Engine where
  definition : Definition
  invoker : Invoker
  journal : Journal
  executions : List Execution
  live : List Nat

namespace Engine

/-- A part of a configuration; an empty configuration of any kind is none. -/
def part (config : Json) (name : String) : Except KindError Json :=
  if config.isFalsy then .ok .null else config.memberOr .null name

def create (definition : Definition) (config : Json) (journal : Journal) :
    Except EngineError Engine := do
  let wanted ← (part config "task_invoker").mapError .kind
  let invoker ← (Invoker.configure wanted).mapError .invoker
  pure { definition, invoker, journal, executions := [], live := [] }

def configure (definition : Definition) (config : Json) :
    List Log.Record × Except EngineError Engine :=
  match part config "metrics" with
  | .error cause => ([], .error (.kind cause))
  | .ok wanted =>
    let (records, metrics) := Metrics.configure wanted
    (records, do
      let metrics ← metrics.mapError .metrics
      create definition config ⟨metrics, records.reverse⟩)

def startedRecord (execution : Execution) : Log.Record :=
  .info ("Execution " ++ execution.id ++ " started at state \"" ++ execution.startState ++ "\"")

def start (engine : Engine) (now : Int) (machine input startState : Json) :
    Except StartError Engine := do
  let found ← (engine.definition.getMachine machine).mapError .lookup
  let startState := if startState.isFalsy then .str found.startAt else startState
  let state ← (found.get startState).mapError .lookup
  let _ ← (Clock.text now).mapError .clock
  let execution := Execution.start found state.name input now
  let journal := engine.journal.count (.executionStarted (.str found.name))
  pure { engine with
    journal := journal.log (startedRecord execution)
    executions := engine.executions ++ [execution]
    live := engine.live ++ [engine.executions.length] }

def close (engine : Engine) (now : Int) (index : Nat) (execution : Execution) (ending : Ending) :
    Engine :=
  { engine with
    journal := engine.journal.count (.executionFinished (.str execution.machine.name)
      (.str ending.status.name) ending.error (.int (now - execution.startMillis)))
    live := engine.live.erase index }

def step (engine : Engine) (now : Int) (index : Nat) (happening : Happening) : Engine :=
  match engine.executions[index]? with
  | none => engine
  | some execution =>
    let (next, records) := execution.step now happening
    let engine := { engine with
      executions := engine.executions.set index next
      journal := engine.journal.logAll records }
    match execution.ending?, next.ending? with
    | none, some ending => engine.close now index next ending
    | _, _ => engine

theorem length_step (engine : Engine) (now : Int) (index : Nat) (happening : Happening) :
    (engine.step now index happening).executions.length = engine.executions.length := by
  unfold step
  split
  · rfl
  · simp only
    split <;> simp [close]

theorem step_of_isFinished {engine : Engine} {index : Nat} {execution : Execution}
    (found : engine.executions[index]? = some execution) (finished : execution.isFinished)
    (now : Int) (happening : Happening) : engine.step now index happening = engine := by
  obtain ⟨ending, ends⟩ := Option.isSome_iff_exists.1 finished
  obtain ⟨inside, here⟩ := List.getElem?_eq_some_iff.1 found
  have same : engine.executions.set index execution = engine.executions := by
    rw [← here, List.set_getElem_self]
  simp only [step, found, Execution.step_of_isFinished finished, ends, same]
  rfl

def liveExecutions (engine : Engine) : List Execution :=
  engine.live.filterMap fun index => engine.executions[index]?

end Engine

end StateFlow
