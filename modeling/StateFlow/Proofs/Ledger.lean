import StateFlow.Task.Invoker

/-!
Accounts, read off a ledger label by label. An event of executions leaves the accounts of tasks as
they are and the other way round; an event that is counted raises what its kind says, by one, under
its own label alone.
-/
namespace StateFlow

namespace Metrics

def Series.observations (label : Json) (series : Series Histogram) : Nat :=
  ((series.value? label).map Histogram.count).getD 0

theorem Series.observations_observe {duration : Json} {x : Binary64}
    (measured : duration.toReal = .ok x) (label other : Json) (series : Series Histogram) :
    (series.observe label duration).1.observations other =
      series.observations other + if label = other then 1 else 0 := by
  simp only [observe, measured, observations, value?_update]
  split
  · next same =>
    subst same
    cases series.value? label <;> rfl
  · rfl

structure Counts where
  begun : Nat
  succeeded : Nat
  failed : Nat
  timedOut : Nat
  observed : Nat
  deriving DecidableEq

namespace Ledger

def ofExecutions (ledger : Ledger) (label : Json) : Counts where
  begun := ledger.executionsStarted.count label
  succeeded := ledger.executionsSucceeded.count label
  failed := ledger.executionsFailed.count label
  timedOut := ledger.executionsTimedOut.count label
  observed := ledger.executionTime.observations label

def ofTasks (ledger : Ledger) (label : Json) : Counts where
  begun := ledger.tasksScheduled.count label
  succeeded := ledger.tasksSucceeded.count label
  failed := ledger.tasksFailed.count label
  timedOut := ledger.tasksTimedOut.count label
  observed := ledger.taskTime.observations label

end Ledger

inductive TaskEnd where
  | succeeded
  | timedOut
  | failed
  deriving DecidableEq

namespace Counts

def begin (counts : Counts) : Counts := { counts with begun := counts.begun + 1 }

def observe (counts : Counts) : Counts := { counts with observed := counts.observed + 1 }

def endTask (counts : Counts) : TaskEnd → Counts
  | .succeeded => { counts with succeeded := counts.succeeded + 1 }
  | .timedOut => { counts with timedOut := counts.timedOut + 1 }
  | .failed => { counts with failed := counts.failed + 1 }

def addTask (counts : Counts) (ending : TaskEnd) : Counts := (counts.begin.endTask ending).observe

theorem addTask_inj {counts : Counts} {first second : TaskEnd} :
    counts.addTask first = counts.addTask second ↔ first = second := by
  cases first <;> cases second <;> simp [addTask, endTask, observe]

def endExecution (counts : Counts) (succeeds timesOut : Bool) : Counts :=
  if succeeds then { counts with succeeded := counts.succeeded + 1 }
  else
    { counts with
      failed := counts.failed + 1
      timedOut := counts.timedOut + if timesOut then 1 else 0 }

/-- Every task that has begun has ended in one of three ways, and has a duration. -/
structure IsSettled (counts : Counts) : Prop where
  ended : counts.begun = counts.succeeded + counts.failed + counts.timedOut
  observed : counts.observed = counts.begun

theorem IsSettled.addTask {counts : Counts} (settled : counts.IsSettled) (ending : TaskEnd) :
    (counts.addTask ending).IsSettled := by
  obtain ⟨ended, observed⟩ := settled
  cases ending <;> constructor <;> simp [Counts.addTask, endTask, begin, observe] <;> omega

end Counts

namespace Ledger

theorem ofExecutions_started (ledger : Ledger) (label other : Json) :
    { ledger with
      executionsStarted := ledger.executionsStarted.increment label }.ofExecutions other =
      if label = other then (ledger.ofExecutions other).begin else ledger.ofExecutions other := by
  split <;> simp_all [ofExecutions, Counts.begin, Series.count_increment]

theorem ofExecutions_finishExecution (ledger : Ledger) (label other status error : Json) :
    (ledger.finishExecution label status error).ofExecutions other =
      if label = other then
        (ledger.ofExecutions other).endExecution (status = .str succeededStatus)
          (error = .str timeoutName)
      else ledger.ofExecutions other := by
  unfold finishExecution
  split
  · split <;> simp_all [ofExecutions, Counts.endExecution, Series.count_increment]
  · split <;> split <;> simp_all [ofExecutions, Counts.endExecution, Series.count_increment]

theorem ofExecutions_finished (ledger : Ledger) (machine label other status error duration : Json) :
    (ledger.recordUnder label (.executionFinished machine status error duration)).1.ofExecutions
        other =
      { (if label = other then
          (ledger.ofExecutions other).endExecution (status = .str succeededStatus)
            (error = .str timeoutName)
        else ledger.ofExecutions other) with
        observed := (ledger.executionTime.observe label duration).1.observations other } := by
  have time : (ledger.finishExecution label status error).executionTime = ledger.executionTime := by
    unfold finishExecution
    split <;> rfl
  rw [← ofExecutions_finishExecution, ← time]
  rfl

/-- What the name of a task's error counts as, or null for none. -/
def taskEnd (error : Json) : TaskEnd :=
  if error = .null then .succeeded else if error = .str timeoutName then .timedOut else .failed

theorem ofTasks_scheduled (ledger : Ledger) (label other : Json) :
    { ledger with tasksScheduled := ledger.tasksScheduled.increment label }.ofTasks other =
      if label = other then (ledger.ofTasks other).begin else ledger.ofTasks other := by
  split <;> simp_all [ofTasks, Counts.begin, Series.count_increment]

theorem ofTasks_finishTask (ledger : Ledger) (label other error : Json) :
    (ledger.finishTask label error).ofTasks other =
      if label = other then (ledger.ofTasks other).endTask (taskEnd error)
      else ledger.ofTasks other := by
  unfold finishTask taskEnd
  split
  · split <;> simp_all [ofTasks, Counts.endTask, Series.count_increment]
  · split <;> split <;> simp_all [ofTasks, Counts.endTask, Series.count_increment]

theorem ofTasks_observe {duration : Json} {x : Binary64} (measured : duration.toReal = .ok x)
    (ledger : Ledger) (label other : Json) :
    { ledger with taskTime := (ledger.taskTime.observe label duration).1 }.ofTasks other =
      if label = other then (ledger.ofTasks other).observe else ledger.ofTasks other := by
  have observed := Series.observations_observe measured label other ledger.taskTime
  split <;> simp_all [ofTasks, Counts.observe]

theorem ofTasks_finished {duration : Json} {x : Binary64} (measured : duration.toReal = .ok x)
    (ledger : Ledger) (handler label other error : Json) :
    (ledger.recordUnder label (.taskFinished handler error duration)).1.ofTasks other =
      if label = other then ((ledger.ofTasks other).endTask (taskEnd error)).observe
      else ledger.ofTasks other := by
  have observed := ofTasks_observe measured (ledger.finishTask label error) label other
  rw [ofTasks_finishTask] at observed
  refine observed.trans ?_
  split <;> rfl

theorem ofExecutions_taskFinished (ledger : Ledger)
    (handler label other error duration : Json) :
    (ledger.recordUnder label (.taskFinished handler error duration)).1.ofExecutions other =
      ledger.ofExecutions other := by
  change (ledger.finishTask label error).ofExecutions other = ledger.ofExecutions other
  unfold finishTask
  split
  · rfl
  · split <;> rfl

end Ledger

end Metrics

end StateFlow
