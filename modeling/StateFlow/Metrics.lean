import StateFlow.Metrics.Label
import StateFlow.Number.Real

/-!
Metrics of executions and tasks: counts by label and distributions of durations by label. Every
finished execution adds one duration and counts as succeeded or failed, a failure by timeout as
timed out besides; every finished task adds one duration and has one of three outcomes. An event
with a label that is refused changes nothing; one with a duration that is no number still counts.
-/
namespace StateFlow.Metrics

abbrev Series (α : Type) := List (Json × α)

namespace Series

def value? (label : Json) : Series α → Option α
  | [] => none
  | (l, a) :: rest => if l = label then some a else value? label rest

def update (start : α) (change : α → α) (label : Json) : Series α → Series α
  | [] => [(label, change start)]
  | (l, a) :: rest =>
    if l = label then (l, change a) :: rest else (l, a) :: update start change label rest

theorem value?_update (start : α) (change : α → α) (label other : Json) (series : Series α) :
    (series.update start change label).value? other =
      if label = other then some (change ((series.value? label).getD start))
      else series.value? other := by
  induction series with
  | nil => rfl
  | cons entry rest ih =>
    obtain ⟨l, a⟩ := entry
    by_cases h : l = label <;> by_cases g : label = other <;> grind [update, value?]

def count (label : Json) (series : Series Nat) : Nat := (series.value? label).getD 0

def increment (label : Json) (series : Series Nat) : Series Nat := series.update 0 (· + 1) label

theorem count_increment (label other : Json) (series : Series Nat) :
    (series.increment label).count other =
      series.count other + if label = other then 1 else 0 := by
  simp only [count, increment, value?_update]
  split <;> simp_all

end Series

/-- How many durations are at most each bound, how many there are, and their sum. -/
structure Histogram where
  atMost : List Nat
  count : Nat
  sum : Binary64

namespace Histogram

def bounds : List (String × Binary64) :=
  let thousandth (n : Nat) := Binary64.ofRatio false n 1000
  [("0.005", thousandth 5), ("0.01", thousandth 10), ("0.025", thousandth 25),
    ("0.05", thousandth 50), ("0.1", thousandth 100), ("0.25", thousandth 250),
    ("0.5", thousandth 500), ("1.0", thousandth 1000), ("2.5", thousandth 2500),
    ("5.0", thousandth 5000), ("10.0", thousandth 10000), ("inf", .infinite false)]

def empty : Histogram := ⟨bounds.map fun _ => 0, 0, .zero false⟩

def isWithin (duration bound : Binary64) : Bool :=
  match (Number.real duration).compare? (.real bound) with
  | some .lt | some .eq => true
  | _ => false

def observe (duration : Binary64) (h : Histogram) : Histogram where
  atMost := List.zipWith (fun bound n => if isWithin duration bound.2 then n + 1 else n)
    bounds h.atMost
  count := h.count + 1
  sum := h.sum.add duration

end Histogram

inductive RecordError where
  | label (cause : LabelError)
  | duration (cause : RealError)

def RecordError.message : RecordError → String
  | .label cause => cause.message
  | .duration cause => cause.message

/-- Adds a duration to those of a label; one that is no number only begins the label's series. -/
def Series.observe (label duration : Json) (series : Series Histogram) :
    Series Histogram × Except RecordError Unit :=
  match duration.toReal with
  | .ok x => (series.update .empty (Histogram.observe x) label, .ok ())
  | .error cause => (series.update .empty id label, .error (.duration cause))

def succeededStatus : String := "SUCCEEDED"

def timeoutName : String := "States.Timeout"

inductive Event where
  | executionStarted (machine : Json)
  | executionFinished (machine status error duration : Json)
  | taskScheduled (handler : Json)
  | taskFinished (handler error duration : Json)

def Event.label : Event → Json
  | .executionStarted machine | .executionFinished machine _ _ _ => machine
  | .taskScheduled handler | .taskFinished handler _ _ => handler

structure Ledger where
  executionsStarted : Series Nat
  executionsSucceeded : Series Nat
  executionsFailed : Series Nat
  executionsTimedOut : Series Nat
  executionTime : Series Histogram
  tasksScheduled : Series Nat
  tasksSucceeded : Series Nat
  tasksFailed : Series Nat
  tasksTimedOut : Series Nat
  taskTime : Series Histogram

namespace Ledger

def empty : Ledger := ⟨[], [], [], [], [], [], [], [], [], []⟩

def finishExecution (machine status error : Json) (ledger : Ledger) : Ledger :=
  if status = .str succeededStatus then
    { ledger with executionsSucceeded := ledger.executionsSucceeded.increment machine }
  else
    { ledger with
      executionsFailed := ledger.executionsFailed.increment machine
      executionsTimedOut :=
        if error = .str timeoutName then ledger.executionsTimedOut.increment machine
        else ledger.executionsTimedOut }

/-- Only a null error is a success; an error with an empty name is a failure. -/
def finishTask (handler error : Json) (ledger : Ledger) : Ledger :=
  if error = .null then { ledger with tasksSucceeded := ledger.tasksSucceeded.increment handler }
  else if error = .str timeoutName then
    { ledger with tasksTimedOut := ledger.tasksTimedOut.increment handler }
  else { ledger with tasksFailed := ledger.tasksFailed.increment handler }

def recordUnder (label : Json) (ledger : Ledger) : Event → Ledger × Except RecordError Unit
  | .executionStarted _ =>
    ({ ledger with executionsStarted := ledger.executionsStarted.increment label }, .ok ())
  | .executionFinished _ status error duration =>
    let ledger := ledger.finishExecution label status error
    let (executionTime, outcome) := ledger.executionTime.observe label duration
    ({ ledger with executionTime }, outcome)
  | .taskScheduled _ =>
    ({ ledger with tasksScheduled := ledger.tasksScheduled.increment label }, .ok ())
  | .taskFinished _ error duration =>
    let ledger := ledger.finishTask label error
    let (taskTime, outcome) := ledger.taskTime.observe label duration
    ({ ledger with taskTime }, outcome)

/-- The ledger after an event, and whether the event could be recorded as a whole. -/
def record (ledger : Ledger) (event : Event) : Ledger × Except RecordError Unit :=
  match Label.canonical event.label with
  | .ok label => ledger.recordUnder label event
  | .error cause => (ledger, .error (.label cause))

theorem record_of_refused {ledger : Ledger} {event : Event} {cause : LabelError}
    (h : Label.canonical event.label = .error cause) :
    ledger.record event = (ledger, .error (.label cause)) := by
  simp [record, h]

def counts (ledger : Ledger) : List (String × String × Series Nat) :=
  [("ExecutionsFailed", "StateMachine", ledger.executionsFailed),
    ("ExecutionsStarted", "StateMachine", ledger.executionsStarted),
    ("ExecutionsSucceeded", "StateMachine", ledger.executionsSucceeded),
    ("ExecutionsTimedOut", "StateMachine", ledger.executionsTimedOut),
    ("LambdaFunctionsFailed", "Handler", ledger.tasksFailed),
    ("LambdaFunctionsScheduled", "Handler", ledger.tasksScheduled),
    ("LambdaFunctionsSucceeded", "Handler", ledger.tasksSucceeded),
    ("LambdaFunctionsTimedOut", "Handler", ledger.tasksTimedOut)]

def times (ledger : Ledger) : List (String × String × Series Histogram) :=
  [("ExecutionTime", "StateMachine", ledger.executionTime),
    ("LambdaFunctionTime", "Handler", ledger.taskTime)]

def names : List String :=
  empty.times.map Prod.fst ++ empty.counts.map Prod.fst

end Ledger

end StateFlow.Metrics

namespace StateFlow

inductive Metrics where
  | disabled
  | enabled (ns : String) (ledger : Metrics.Ledger)

namespace Metrics

def record (event : Event) : Metrics → Metrics × Except RecordError Unit
  | .disabled => (.disabled, .ok ())
  | .enabled ns ledger =>
    let (ledger, outcome) := ledger.record event
    (.enabled ns ledger, outcome)

def ledger? : Metrics → Option Ledger
  | .disabled => none
  | .enabled _ ledger => some ledger

end Metrics

end StateFlow
