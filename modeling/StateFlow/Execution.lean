import StateFlow.Clock
import StateFlow.Execution.Failure
import StateFlow.Log

/-!
Executions of a machine. An execution goes from state to state by steps: it enters a state, the
state acts on its data, and a state that calls a task or waits goes on when the call or the wait is
over. The check for a cancel and the entry of a state are one step; a cancel only marks the
execution, and is noticed before the next entry, in a wait and by the call of a task.
`step_of_isFinished` says that nothing changes an execution that is finished.

The texts that are logged about an execution are taken to be written always: that the input of a
state, or the name and the cause of a failure, may hold a whole number of too many digits for that,
is left out here.
-/
namespace StateFlow

structure Visit where
  state : String
  entered : String
  input : Data

inductive Ending where
  | succeeded (output : Json)
  | failed (failure : Failure)

structure TaskCall where
  handler : String
  input : Json
  context : Json
  timeoutMillis : Option Int

inductive Phase where
  | ready (next : Json) (data : Data)
  | entered (state : State) (data : Data)
  | calling (state : State) (data : Data) (call : TaskCall)
  | sleeping (state : State) (input : Data) (seconds : Number)
  | finished (ending : Ending) (stopMillis : Int)

/-- Visits are kept with the newest first. -/
structure Execution where
  machine : Machine
  startState : String
  startMillis : Int
  input : Json
  cancelled : Bool
  newestFirst : List Visit
  phase : Phase

/-- What happens to an execution. A wait is over when its time has passed, or at once if the clock
does not count it. -/
inductive Happening where
  | proceed
  | reply (answer : Except TaskError Json)
  | wake (counted : Except SleepError Unit)
  | cancel

inductive Action where
  | go (next : Json) (data : Data)
  | finish (output : Json)
  | call (call : TaskCall)
  | sleep (input : Data) (seconds : Number)

namespace Execution

def start (machine : Machine) (startState : String) (input : Json) (now : Int) : Execution :=
  let input := if input = .null then .obj [] else input
  { machine, startState, startMillis := now, input, cancelled := false, newestFirst := []
    phase := .ready (.str startState) (.ofJson input) }

def id (execution : Execution) : String :=
  execution.machine.name ++ "-" ++ execution.startState ++ "-" ++
    Json.displayInt execution.startMillis

def startTime (execution : Execution) : String := Clock.now execution.startMillis

def trace (execution : Execution) : List Visit := execution.newestFirst.reverse

def ending? (execution : Execution) : Option Ending :=
  match execution.phase with
  | .finished ending _ => some ending
  | _ => none

def isFinished (execution : Execution) : Bool := execution.ending?.isSome

def current (execution : Execution) : Json :=
  match execution.newestFirst with
  | visit :: _ => .str visit.state
  | [] => .null

def context (execution : Execution) : Json :=
  let entered := match execution.newestFirst with
    | visit :: _ => .str visit.entered
    | [] => .null
  .obj [
    ("Execution", .obj [("Id", .str execution.id), ("Input", execution.input),
      ("Name", .str execution.id), ("StartTime", .str execution.startTime)]),
    ("State", .obj [("EnteredTime", entered), ("Name", execution.current),
      ("RetryCount", .int 0)]),
    ("StateMachine", .obj [("Id", .str execution.machine.name),
      ("Name", .str execution.machine.name)])]

end Execution

namespace State

def goOn (next : Json) (data : Data) : Action :=
  if next = .null then .finish data.value else .go next data

def transition (state : State) (data : Data) : Action :=
  match state.nextState with
  | some next => goOn next data
  | none => .finish data.value

def effectiveInput (state : State) (data : Data) (context : Json) : Except Failure Data :=
  (Path.applyTo data context state.inputPath).mapError (.ofReported .path)

def outputOf (state : State) (data : Data) (context : Json) : Except Failure Data :=
  (Path.applyTo data context state.outputPath).mapError (.ofReported .path)

def merge (state : State) (data result : Data) (context : Json) : Except Failure Action := do
  let placed ← (ResultPath.place data state.resultPath result).mapError (.ofReported .resultPath)
  pure (state.transition (← state.outputOf placed context))

def ownTimeout : Option Number → Except Failure (Option Int)
  | none => .ok none
  | some seconds => (seconds.thousandfold.whole.mapError .timeout).map some

/-- A wait is told in the log before it begins. -/
def told (seconds : Number) : Except Failure Number :=
  if seconds.toJson.isWritable then .ok seconds else .error .unwritable

def act (state : State) (data : Data) (context : Json) (now : Int) : Except Failure Action :=
  match state.kind with
  | .task handler timeoutSeconds => do
    let input ← state.effectiveInput data context
    pure (.call ⟨handler, input.value, context, ← ownTimeout timeoutSeconds⟩)
  | .pass result => do
    let input ← state.effectiveInput data context
    state.merge data ((result.map .ofJson).getD input) context
  | .wait delay => do
    let input ← state.effectiveInput data context
    let seconds ← (delay.duration state.name input.value context now).mapError (.ofReported .wait)
    pure (.sleep input (← told seconds))
  | .choice choices default => do
    let input ← state.effectiveInput data context
    let next ← (chooseNext state.name default input.value context choices).mapError
      (.ofReported .ofChoice)
    pure (goOn next input)
  | .succeed => do
    let input ← state.effectiveInput data context
    pure (.finish (← state.outputOf input context).value)
  | .fail error cause => .error (.failState error cause)
  | .parallel | .map => .error (.unsupported state.kind.typeName state.name)

def actionRecords (state : State) : Action → List Log.Record
  | .sleep _ seconds =>
    [.debug ("Wait state \"" ++ state.name ++ "\" waiting " ++ seconds.toJson.display ++ "s")]
  | .go next _ => match state.kind with
    | .choice _ _ =>
      [.debug ("Choice state \"" ++ state.name ++ "\" chose \"" ++ next.display ++ "\"")]
    | _ => []
  | .call _ | .finish _ => []

end State

namespace Execution

def endingRecord (execution : Execution) : Ending → Log.Record
  | .succeeded _ => .info ("Execution " ++ execution.id ++ " succeeded")
  | .failed failure =>
    let place := "Execution " ++ execution.id ++ " failed in state \"" ++
      execution.current.display ++ "\""
    .error (match failure.name? with
      | some name => place ++ ": " ++ name.display ++ ": " ++ failure.cause.display
      | none => place ++ " with an unexpected error")

def finish (execution : Execution) (now : Int) (ending : Ending) : Execution × List Log.Record :=
  ({ execution with phase := .finished ending now }, [execution.endingRecord ending])

def takeUp (execution : Execution) (now : Int) (state : State) (data : Data) :
    Except Failure Action → Execution × List Log.Record
  | .error failure => execution.finish now (.failed failure)
  | .ok (.finish output) => execution.finish now (.succeeded output)
  | .ok (.go next output) => ({ execution with phase := .ready next output }, [])
  | .ok (.call call) => ({ execution with phase := .calling state data call }, [])
  | .ok (.sleep input seconds) => ({ execution with phase := .sleeping state input seconds }, [])

def enteringRecord (state : State) (data : Data) : Log.Record :=
  .debug ("Entering " ++ state.kind.typeName ++ " state \"" ++ state.name ++ "\" with input " ++
    data.value.display)

def enter (execution : Execution) (now : Int) (next : Json) (data : Data) :
    Execution × List Log.Record :=
  if execution.cancelled then
    execution.finish now (.failed (.aborted execution.id .betweenStates))
  else match execution.machine.get next with
    | .error cause => execution.finish now (.failed (.lookup cause))
    | .ok state =>
      let visit : Visit := ⟨state.name, Clock.now now, data⟩
      ({ execution with
          newestFirst := visit :: execution.newestFirst
          phase := .entered state data }, [enteringRecord state data])

def proceedIn (execution : Execution) (now : Int) (state : State) (data : Data) :
    Execution × List Log.Record :=
  let action := state.act data execution.context now
  let (next, records) := execution.takeUp now state data action
  (next, (action.toOption.map state.actionRecords).getD [] ++ records)

def replyTo (execution : Execution) (state : State) (data : Data) :
    Except TaskError Json → Except Failure Action
  | .ok result => state.merge data (.ofJson result) execution.context
  | .error cause => .error (.task cause)

/-- Ends a wait: a cancelled one fails, and so does one that the clock does not count. -/
def wakeIn (execution : Execution) (state : State) (input : Data)
    (counted : Except SleepError Unit) : Except Failure Action := do
  if execution.cancelled then .error (.aborted execution.id (.waiting state.name))
  else
    counted.mapError .sleep
    pure (state.transition (← state.outputOf input execution.context))

/-- One step. What does not fit the phase of the execution changes nothing. -/
def step (execution : Execution) (now : Int) (happening : Happening) :
    Execution × List Log.Record :=
  match happening, execution.phase with
  | _, .finished _ _ => (execution, [])
  | .cancel, _ => ({ execution with cancelled := true }, [])
  | .proceed, .ready next data => execution.enter now next data
  | .proceed, .entered state data => execution.proceedIn now state data
  | .reply answer, .calling state data _ =>
    execution.takeUp now state data (execution.replyTo state data answer)
  | .wake counted, .sleeping state input _ =>
    execution.takeUp now state input (execution.wakeIn state input counted)
  | _, _ => (execution, [])

theorem step_of_isFinished {execution : Execution} (h : execution.isFinished) (now : Int)
    (happening : Happening) : execution.step now happening = (execution, []) := by
  obtain ⟨machine, startState, startMillis, input, cancelled, newestFirst, phase⟩ := execution
  cases phase <;> simp [isFinished, ending?] at h
  rfl

end Execution

end StateFlow
