import StateFlow.Proofs.Run
import StateFlow.Proofs.Task.Accounts

/-!
An engine at work: starts of executions, events in them, and calls of their tasks, in any order.
`executions_start`, `executions_step` and `executions_answerCall` say what an operation does to the
executions of an engine: it adds one or changes one, and nothing else that the engine holds has a
part in it but the definition and the invoker.
-/
namespace StateFlow

namespace Invocation

/-- The answer of a call, which the accounts have no part in if its handler is a text. -/
def answer (invocation : Invocation) (worker : Except TaskError WorkerBehaviour)
    (cancelled : Bool) : Except TaskError Json :=
  (invocation.carryOut worker cancelled 0 0 ⟨.disabled, []⟩).1

theorem opened_snd {invocation : Invocation} {reference : String}
    (handler : invocation.handler = .str reference) (journal : Journal) :
    (invocation.opened journal).2 =
      if invocation.timeoutMillis.toJson.isWritable then .ok () else .error .unwritableTimeout := by
  unfold opened
  split
  · change Except.mapError TaskError.notCounted
      ((journal.log invocation.invokingRecord).metrics.record
        (.taskScheduled invocation.handler)).2 = .ok ()
    rw [handler, Metrics.record_taskScheduled]
    rfl
  · rfl

theorem run_fst (invocation : Invocation) (worker : Except TaskError WorkerBehaviour)
    (cancelled : Bool) (started ended : Int) (journal other : Journal) :
    (invocation.run worker cancelled started ended journal).2.1 =
      (invocation.run worker cancelled 0 0 other).2.1 := by
  cases worker <;> simp only [run]

theorem carryOut_fst {invocation : Invocation} {reference : String}
    (handler : invocation.handler = .str reference) (worker : Except TaskError WorkerBehaviour)
    (cancelled : Bool) (started ended : Int) (journal : Journal) :
    (invocation.carryOut worker cancelled started ended journal).1 =
      invocation.answer worker cancelled := by
  have opens := opened_snd handler
  unfold answer
  -- whether the call is begun depends on its timeout alone, as a text is always a label
  cases writable : invocation.timeoutMillis.toJson.isWritable with
  | true =>
    simp only [writable, if_true] at opens
    rw [carryOut_of_begun (opens journal), carryOut_of_begun (opens _)]
    generalize invocation.awaited worker = awaited
    exact invocation.run_fst awaited cancelled started ended _ _
  | false =>
    simp only [writable, Bool.false_eq_true, if_false] at opens
    rw [carryOut_of_refused (opens journal), carryOut_of_refused (opens _)]

end Invocation

namespace Invoker

def invocation (invoker : Invoker) (tag : String) (call : TaskCall) : Invocation :=
  .start tag (.str call.handler) call.input call.context
    (invoker.timeoutOf (call.timeoutMillis.map .int))

end Invoker

namespace Execution

def call? (execution : Execution) : Option TaskCall :=
  match execution.phase with
  | .calling _ _ call => some call
  | _ => none

end Execution

/-- A worker for one call: its tag, what it does with the call, and when the call starts and
ends. -/
structure Job where
  tag : String
  worker : Invocation → Except TaskError WorkerBehaviour
  started : Int
  ended : Int

namespace Job

def call (job : Job) (invoker : Invoker) (call : TaskCall) (cancelled : Bool) : Call :=
  let invocation := invoker.invocation job.tag call
  ⟨invocation, job.worker invocation, cancelled, job.started, job.ended⟩

def answer (job : Job) (invoker : Invoker) (call : TaskCall) (cancelled : Bool) :
    Except TaskError Json :=
  let invocation := invoker.invocation job.tag call
  invocation.answer (job.worker invocation) cancelled

theorem carryOut_call_fst (job : Job) (invoker : Invoker) (call : TaskCall) (cancelled : Bool)
    (journal : Journal) :
    ((job.call invoker call cancelled).carryOut journal).1 = job.answer invoker call cancelled :=
  Invocation.carryOut_fst rfl _ _ _ _ _

end Job

namespace Execution

def answered (execution : Execution) (invoker : Invoker) (job : Job) : Execution :=
  match execution.call? with
  | some call => execution.advance ⟨job.ended, .reply (job.answer invoker call execution.cancelled)⟩
  | none => execution

end Execution

namespace Definition

def begin (definition : Definition) (now : Int) (machine input startState : Json) :
    Except StartError Execution := do
  let found ← (definition.getMachine machine).mapError .lookup
  let state ← (found.get (if startState.isFalsy then .str found.startAt else startState)).mapError
    .lookup
  let _ ← (Clock.text now).mapError .clock
  pure (.start found state.name input now)

end Definition

namespace Engine

/-- What is done with an engine: an execution is started, something happens to one, or the call
that one is waiting for is carried out. -/
inductive Operation where
  | start (now : Int) (machine input startState : Json)
  | happen (index : Nat) (event : Event)
  | call (index : Nat) (job : Job)

def enlist (engine : Engine) (execution : Execution) : Engine :=
  { engine with
    journal := (engine.journal.count (.executionStarted (.str execution.machine.name))).log
      (startedRecord execution)
    executions := engine.executions ++ [execution]
    live := engine.live ++ [engine.executions.length] }

theorem start_eq (engine : Engine) (now : Int) (machine input startState : Json) :
    engine.start now machine input startState =
      (engine.definition.begin now machine input startState).map engine.enlist := by
  unfold start Definition.begin
  cases (engine.definition.getMachine machine).mapError StartError.lookup with
  | error cause => rfl
  | ok found =>
    simp only [bind, Except.bind]
    cases (found.get (if startState.isFalsy then .str found.startAt else startState)).mapError
      StartError.lookup with
    | error cause => rfl
    | ok state => cases (Clock.text now).mapError StartError.clock <;> rfl

def answerCall (engine : Engine) (index : Nat) (job : Job) : Engine :=
  match engine.executions[index]? with
  | none => engine
  | some execution =>
    match execution.call? with
    | none => engine
    | some call =>
      let (answer, journal) :=
        (job.call engine.invoker call execution.cancelled).carryOut engine.journal
      { engine with journal }.step job.ended index (.reply answer)

/-- A start that fails leaves the engine as it is. -/
def perform (engine : Engine) : Operation → Engine
  | .start now machine input startState =>
    (engine.start now machine input startState).toOption.getD engine
  | .happen index event => engine.step event.time index event.happening
  | .call index job => engine.answerCall index job

def performAll (engine : Engine) (operations : List Operation) : Engine :=
  operations.foldl perform engine

theorem performAll_append (engine : Engine) (first second : List Operation) :
    engine.performAll (first ++ second) = (engine.performAll first).performAll second :=
  List.foldl_append

theorem executions_step (engine : Engine) (now : Int) (index : Nat) (happening : Happening) :
    (engine.step now index happening).executions =
      engine.executions.modify index (·.advance ⟨now, happening⟩) := by
  unfold step
  split
  · next missing => rw [List.modify_eq_self (List.getElem?_eq_none_iff.1 missing)]
  · next execution found =>
    have same : (engine.executions.set index (execution.step now happening).1) =
        engine.executions.modify index (·.advance ⟨now, happening⟩) := by
      refine List.ext_getElem? fun place => ?_
      rw [List.getElem?_set', List.getElem?_modify]
      split <;> simp_all [Execution.advance]
    dsimp only
    split <;> exact same

theorem step_frame (engine : Engine) (now : Int) (index : Nat) (happening : Happening) :
    (engine.step now index happening).definition = engine.definition ∧
      (engine.step now index happening).invoker = engine.invoker := by
  unfold step
  split
  · exact ⟨rfl, rfl⟩
  · dsimp only
    split <;> exact ⟨rfl, rfl⟩

theorem answerCall_of_waits {engine : Engine} {index : Nat} {execution : Execution}
    {call : TaskCall} (found : engine.executions[index]? = some execution)
    (waits : execution.call? = some call) (job : Job) :
    let called := (job.call engine.invoker call execution.cancelled).carryOut engine.journal
    engine.answerCall index job =
      { engine with journal := called.2 }.step job.ended index (.reply called.1) := by
  simp only [answerCall, found, waits]

theorem answerCall_cases (engine : Engine) (index : Nat) (job : Job) :
    (engine.answerCall index job = engine ∧
      ∀ execution, engine.executions[index]? = some execution → execution.call? = none) ∨
    ∃ execution call, engine.executions[index]? = some execution ∧
      execution.call? = some call ∧
      engine.answerCall index job =
        { engine with
          journal := engine.journal.carryOut (job.call engine.invoker call execution.cancelled)
        }.step job.ended index (.reply (job.answer engine.invoker call execution.cancelled)) := by
  cases found : engine.executions[index]? with
  | none => exact .inl ⟨by simp only [answerCall, found], by simp⟩
  | some execution =>
    cases waits : execution.call? with
    | none => exact .inl ⟨by simp only [answerCall, found, waits], by simpa using waits⟩
    | some call =>
      refine .inr ⟨execution, call, rfl, waits, ?_⟩
      rw [answerCall_of_waits found waits, Job.carryOut_call_fst]
      rfl

theorem modify_congr {executions : List Execution} {index : Nat}
    {change other : Execution → Execution}
    (same : ∀ execution, executions[index]? = some execution → change execution = other execution) :
    executions.modify index change = executions.modify index other := by
  refine List.ext_getElem? fun place => ?_
  rw [List.getElem?_modify, List.getElem?_modify]
  by_cases own : index = place
  · subst own
    cases found : executions[index]? with
    | none => rfl
    | some execution => simp [same execution found]
  · simp [own]

theorem executions_answerCall (engine : Engine) (index : Nat) (job : Job) :
    (engine.answerCall index job).executions =
      engine.executions.modify index (·.answered engine.invoker job) := by
  rcases engine.answerCall_cases index job with ⟨same, idle⟩ | ⟨execution, call, found, waits, same⟩
  · have stays : engine.executions = engine.executions.modify index id := by rw [List.modify_id]
    rw [same]
    refine stays.trans (modify_congr fun execution found => ?_)
    simp [Execution.answered, idle execution found]
  · rw [same, executions_step]
    refine modify_congr fun other there => ?_
    obtain rfl : execution = other := Option.some.inj (found.symm.trans there)
    simp only [Execution.answered, waits]

theorem executions_start (engine : Engine) (now : Int) (machine input startState : Json) :
    (engine.perform (.start now machine input startState)).executions =
      engine.executions ++
        (engine.definition.begin now machine input startState).toOption.toList := by
  rw [perform, start_eq]
  cases engine.definition.begin now machine input startState with
  | error cause => simp [Except.map, Except.toOption]
  | ok execution => rfl

theorem perform_frame (engine : Engine) (operation : Operation) :
    (engine.perform operation).definition = engine.definition ∧
      (engine.perform operation).invoker = engine.invoker := by
  cases operation with
  | start now machine input startState =>
    rw [perform, start_eq]
    cases engine.definition.begin now machine input startState <;> exact ⟨rfl, rfl⟩
  | happen index event => exact engine.step_frame event.time index event.happening
  | call index job =>
    rcases engine.answerCall_cases index job with ⟨same, -⟩ | ⟨execution, call, -, -, same⟩
    · rw [perform, same]
      exact ⟨rfl, rfl⟩
    · rw [perform, same]
      exact step_frame _ job.ended index _

end Engine

end StateFlow
