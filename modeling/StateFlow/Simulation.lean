import StateFlow.Engine
import StateFlow.Text.Lines
import StateFlow.Text.Replace
import StateFlow.Worker

/-!
Runs of an engine in simulated time. The clock moves by the length of each wait and by the time that
scripted tasks take, and by nothing else. A task is answered by the next script for its handler, the
last one again and again, or else by a worker with a handler of its own.
-/
namespace StateFlow

/-- What a scripted worker does: what it writes, then the message lines of a result and of an error,
its status, whether it hangs, whether the execution is cancelled meanwhile, and the milliseconds
that pass. The tag stands in its output for a place holder. -/
structure Script where
  stdout : String
  stderr : String
  result : Option Json
  error : Option Json
  returnCode : Int
  hangs : Bool
  cancels : Bool
  elapsed : Int

namespace Script

def placeHolder : List Char := ['\x7b', 't', 'a', 'g', '\x7d']

private def messageLine (tag : String) (key : String) (value : Json) : String :=
  (Json.obj [("tag", .str tag), (key, value)]).encode ++ "\n"

def output (script : Script) (tag : String) : String :=
  String.ofList (Text.replace (Text.verbatim placeHolder tag.toList) script.stdout.toList) ++
    (script.result.map (messageLine tag "result")).getD "" ++
    (script.error.map (messageLine tag "error")).getD ""

end Script

def WorkerRun.behaviour (run : WorkerRun) : WorkerBehaviour where
  stdout := String.ofList (Text.plainLines run.stdout.toList)
  stderr := String.ofList (Text.plainLines run.stderr.toList)
  returnCode := run.status
  exits := true

structure Episode where
  worker : WorkerBehaviour
  cancels : Bool
  elapsed : Int

namespace Episode

def ofScript (script : Script) (tag : String) : Episode where
  worker :=
    { stdout := script.output tag
      stderr := script.stderr
      returnCode := script.returnCode
      exits := !script.hangs }
  cancels := script.cancels
  elapsed := script.elapsed

def ofWorker (run : WorkerRun) : Episode := ⟨run.behaviour, false, 0⟩

end Episode

/-- The clock and the waits that it counts, the scripts by handler, the handlers of the other workers,
the calls so far with the newest first, and the waits so far likewise. -/
structure World where
  clock : Int
  counts : Number → Except SleepError Unit
  scripts : List (String × List Script)
  resolve : Json → Except Raised Handler
  newestCalls : List Invocation
  newestWaits : List Number

namespace World

def calls (world : World) : List Invocation := world.newestCalls.reverse

def waits (world : World) : List Number := world.newestWaits.reverse

def takeScript (handler : String) :
    List (String × List Script) → Option (Script × List (String × List Script))
  | [] => none
  | (name, queue) :: rest =>
    if name = handler then
      match queue with
      | [] => none
      | [script] => some (script, (name, [script]) :: rest)
      | script :: queue => some (script, (name, queue) :: rest)
    else (takeScript handler rest).map fun (script, rest) => (script, (name, queue) :: rest)

def nextTag (world : World) : String :=
  "sf-" ++ String.ofList (Decimal.padded 32 (world.newestCalls.length + 1))

def answer (world : World) (invocation : Invocation) :
    Episode × List (String × List Script) :=
  let scripted := match invocation.handler with
    | .str handler => takeScript handler world.scripts
    | _ => none
  match scripted with
  | some (script, scripts) => (.ofScript script invocation.tag, scripts)
  | none => (.ofWorker (Worker.run world.resolve invocation.envelope.encode), world.scripts)

/-- A whole call: its result, whether the execution is cancelled by its end, the world and the
accounts after it. A call that is not begun leaves the world as it is, and one that is not waited
for takes no time. -/
def call (world : World) (invoker : Invoker) (handler input context : Json)
    (own : Option Number) (cancelled : Bool) (journal : Journal) :
    Except TaskError Json × Bool × World × Journal :=
  let invocation :=
    Invocation.start world.nextTag handler input context (invoker.timeoutOf own)
  match invocation.opened journal with
  | (journal, .error cause) => (.error cause, cancelled, world, journal)
  | (journal, .ok ()) =>
    let (episode, scripts) := world.answer invocation
    let (worker, cancels, elapsed) : Except TaskError WorkerBehaviour × Bool × Int :=
      match invocation.patience with
      | .ok _ => (.ok episode.worker, episode.cancels, episode.elapsed)
      | .error cause => (.error (.endless cause), false, 0)
    let cancelled := cancelled || cancels
    let clock := world.clock + elapsed
    let (invocation, result, journal) :=
      invocation.run worker cancelled world.clock clock journal
    (result, cancelled,
      { world with clock, scripts, newestCalls := invocation :: world.newestCalls }, journal)

end World

structure Simulation where
  engine : Engine
  world : World

/-- When a run is cancelled by itself, and whether it stops at waits that take time. -/
structure RunRule where
  cancelAfter : Option Nat
  pauses : Bool

namespace Simulation

def step (simulation : Simulation) (index : Nat) (happening : Happening) : Simulation :=
  { simulation with engine := simulation.engine.step simulation.world.clock index happening }

def answerCall (simulation : Simulation) (index : Nat) (cancelled : Bool) (call : TaskCall) :
    Simulation :=
  let engine := simulation.engine
  let (result, cancelled, world, journal) := simulation.world.call engine.invoker
    (.str call.handler) call.input call.context (call.timeoutMillis.map .int) cancelled
    engine.journal
  let simulation : Simulation := ⟨{ engine with journal }, world⟩
  let simulation := if cancelled then simulation.step index .cancel else simulation
  simulation.step index (.reply result)

def passWait (simulation : Simulation) (index : Nat) (seconds : Number) : Simulation :=
  let world := { simulation.world with clock := simulation.world.clock + seconds.millis }
  ({ simulation with world } : Simulation).step index (.wake (world.counts seconds))

private def noteWait (simulation : Simulation) (seconds : Number) : Simulation :=
  { simulation with world :=
    { simulation.world with newestWaits := seconds :: simulation.world.newestWaits } }

/-- A wait that takes no time: a cancelled one, and one that the clock does not count. -/
def isOver (simulation : Simulation) (execution : Execution) (seconds : Number) : Bool :=
  execution.cancelled || !(simulation.world.counts seconds).isOk

/-- Runs an execution until it is finished or, where the rule says so, stops at a wait; the number
of steps is limited. -/
def run (rule : RunRule) (index : Nat) : Nat → Simulation → Simulation
  | 0, simulation => simulation
  | steps + 1, simulation =>
    match simulation.engine.executions[index]? with
    | none => simulation
    | some execution =>
      match execution.phase with
      | .finished _ _ => simulation
      | .ready _ _ => run rule index steps (simulation.step index .proceed)
      | .entered _ _ =>
        let simulation :=
          if rule.cancelAfter = some execution.newestFirst.length then
            simulation.step index .cancel
          else simulation
        run rule index steps (simulation.step index .proceed)
      | .calling _ _ call =>
        run rule index steps (simulation.answerCall index execution.cancelled call)
      | .sleeping _ _ seconds =>
        let simulation := simulation.noteWait seconds
        if simulation.isOver execution seconds then
          run rule index steps (simulation.step index (.wake (simulation.world.counts seconds)))
        else if rule.pauses && seconds.compare? (.int 0) == some .gt then simulation
        else run rule index steps (simulation.passWait index seconds)

def stepLimit : Nat := 1000000000

def release (rule : RunRule) (simulation : Simulation) (index : Nat) : Simulation :=
  match simulation.engine.executions[index]? with
  | some { phase := .sleeping _ _ seconds, .. } =>
    run rule index stepLimit (simulation.passWait index seconds)
  | _ => simulation

def cancel (rule : RunRule) (simulation : Simulation) (index : Nat) : Simulation :=
  run rule index stepLimit ((simulation.step index .cancel).step index (.wake (.ok ())))

def cancelAll (rule : RunRule) (simulation : Simulation) : Simulation :=
  simulation.engine.live.foldl (cancel rule) simulation

def start (rule : RunRule) (simulation : Simulation) (machine input startState : Json) :
    Except StartError (Simulation × Nat) := do
  let engine ← simulation.engine.start simulation.world.clock machine input startState
  let index := simulation.engine.executions.length
  let simulation := { simulation with engine }
  let simulation :=
    if rule.cancelAfter = some 0 then simulation.step index .cancel else simulation
  pure (run rule index stepLimit simulation, index)

end Simulation

end StateFlow
