import StateFlow.Json.Writable
import StateFlow.Number.Whole
import StateFlow.Task.Outcome
import StateFlow.Task.Reading

/-!
The invoker of tasks. Its configuration gives the time that a task may take unless the task says so
itself, the directory of the handlers and the interpreter of the worker. Every call is logged and
counted: once when it begins, and once when it ends, by how it ends.
-/
namespace StateFlow

inductive InvokerError where
  | kind (cause : KindError)
  | timeout (cause : WholeError)

def InvokerError.message : InvokerError → String
  | .kind cause => cause.message
  | .timeout cause => cause.message

/-- The interpreter is the usual one if none is given. -/
structure Invoker where
  timeoutMillis : Int
  handlerRoot : String
  interpreter : Option Json

namespace Invoker

def usualTimeoutMillis : Int := 6000

def usualRoot : String := "."

def configure (config : Json) : Except InvokerError Invoker := do
  let config := if config.isFalsy then .obj [] else config
  let timeout ← (config.memberOr (.int usualTimeoutMillis) "timeout_millis").mapError .kind
  let timeoutMillis ← timeout.whole.mapError .timeout
  let interpreter := config.field "python"
  match (config.get? "handler_root").getD (.str usualRoot) with
  | .str handlerRoot =>
    pure ⟨timeoutMillis, handlerRoot, if interpreter.isFalsy then none else some interpreter⟩
  | root => throw (.kind (.notPath root))

/-- The time that a call may take: its own one, if that is more than nothing at all. -/
def timeoutOf (invoker : Invoker) (own : Option Number) : Number :=
  match own with
  | some time => if time.toJson.isFalsy then .int invoker.timeoutMillis else time
  | none => .int invoker.timeoutMillis

end Invoker

structure Journal where
  metrics : Metrics
  newestFirst : List Log.Record

namespace Journal

def log (journal : Journal) (record : Log.Record) : Journal :=
  { journal with newestFirst := record :: journal.newestFirst }

def logAll (journal : Journal) (records : List Log.Record) : Journal :=
  records.foldl log journal

def tryCount (journal : Journal) (event : Metrics.Event) :
    Journal × Except Metrics.RecordError Unit :=
  let (metrics, outcome) := journal.metrics.record event
  ({ journal with metrics }, outcome)

def count (journal : Journal) (event : Metrics.Event) : Journal := (journal.tryCount event).1

def records (journal : Journal) : List Log.Record := journal.newestFirst.reverse

end Journal

/-- What a worker does before the invoker stops waiting for it: what it writes, whether it ends by
itself, and the status it ends with in any case. -/
structure WorkerBehaviour where
  stdout : String
  stderr : String
  returnCode : Int
  exits : Bool

namespace Invocation

def patience (invocation : Invocation) : Except RealError Binary64 :=
  invocation.timeoutMillis.toReal.map (·.div (.ofNat 1000))

def isOverdue (invocation : Invocation) : Bool :=
  match invocation.patience with
  | .ok seconds => seconds.isZero || (Number.real seconds).isNegative
  | .error _ => false

/-- The outcome that the invoker sees: a cancel first, then the end of the time, then a message,
then the worker's end. -/
def seen (invocation : Invocation) (worker : WorkerBehaviour) (cancelled : Bool) : Outcome :=
  if cancelled then .cancelled
  else if invocation.isOverdue then .timedOut
  else if invocation.message.isSome then .result
  else if worker.exits then .exited
  else .timedOut

def conclude (invocation : Invocation) (worker : WorkerBehaviour) (cancelled : Bool) :
    Invocation × Except TaskError Json :=
  let invocation := (invocation.readOutput worker.stdout.toList).readErrors worker.stderr.toList
  let invocation := { invocation with returnCode := some worker.returnCode }
  let result := invocation.outcome (invocation.seen worker cancelled)
  ((invocation.closing result).foldl log invocation, result)

def invokingRecord (invocation : Invocation) : Log.Record :=
  .info ("Invoking handler " ++ invocation.handler.display ++ " with timeout " ++
    invocation.timeoutMillis.toJson.display ++ "ms")

def duration (started ended : Int) : Json :=
  let reading (millis : Int) : Binary64 :=
    (((Binary64.ofInt? millis).getD .nan).div (.ofNat 1000)).mul (.ofNat 1000)
  .real ((reading ended).sub (reading started))

/-- The name that metrics know the end of a call by; null for one that brings a result, and for one
whose error the state language has no name for. -/
def errorName : Except TaskError Json → Json
  | .ok _ => .null
  | .error error => error.name?.getD .null

/-- The accounts of the beginning of a call, which may prevent it. -/
def opened (invocation : Invocation) (journal : Journal) : Journal × Except TaskError Unit :=
  if invocation.timeoutMillis.toJson.isWritable then
    let (journal, outcome) :=
      (journal.log invocation.invokingRecord).tryCount (.taskScheduled invocation.handler)
    (journal, outcome.mapError .notCounted)
  else (journal, .error .unwritableTimeout)

def closed (invocation : Invocation) (result : Except TaskError Json) (started ended : Int)
    (journal : Journal) : Journal :=
  (journal.logAll invocation.records).count
    (.taskFinished invocation.handler (errorName result) (duration started ended))

def run (invocation : Invocation) (worker : Except TaskError WorkerBehaviour) (cancelled : Bool)
    (started ended : Int) (journal : Journal) :
    Invocation × Except TaskError Json × Journal :=
  let (invocation, result) := match worker with
    | .ok worker => invocation.conclude worker cancelled
    | .error cause => (invocation, .error cause)
  (invocation, result, invocation.closed result started ended journal)

end Invocation

end StateFlow
