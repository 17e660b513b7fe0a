import Mathlib.Data.List.Forall2
import StateFlow.Proofs.Operation

/-!
Executions beside each other. `Engine.own` picks out of all that is done with an engine what
concerns one of its executions. An engine with which only that is done comes to the same execution,
whatever is done with the others: `executions_are_isolated`.
-/
namespace StateFlow

namespace Engine

namespace Operation

/-- The operation as it is done with an execution of its own engine, if it concerns the execution at
a place: a start concerns the place after the last one. -/
def ownAt? (index length : Nat) : Operation → Option Operation
  | .start now machine input startState =>
    if length = index then some (.start now machine input startState) else none
  | .happen place event => if place = index then some (.happen 0 event) else none
  | .call place job => if place = index then some (.call 0 job) else none

/-- Two operations that are the same but for the workers of a call, its tag and its beginning, where
the call has the same answer at the same time. -/
inductive Agrees (invoker : Invoker) : Operation → Operation → Prop where
  | same (operation : Operation) : Agrees invoker operation operation
  | call {index : Nat} {job other : Job} (ended : other.ended = job.ended)
      (answers : ∀ call cancelled,
        other.answer invoker call cancelled = job.answer invoker call cancelled) :
    Agrees invoker (.call index job) (.call index other)

end Operation

def own (engine : Engine) (index : Nat) : List Operation → List Operation
  | [] => []
  | operation :: rest =>
    (operation.ownAt? index engine.executions.length).toList ++
      (engine.perform operation).own index rest

/-- An engine that has only one of the executions of another one, or none as long as that is not
started. -/
structure Mirrors (index : Nat) (engine alone : Engine) : Prop where
  definition : alone.definition = engine.definition
  invoker : alone.invoker = engine.invoker
  executions : alone.executions = engine.executions[index]?.toList

theorem perform_of_foreign {engine : Engine} {index : Nat} {operation : Operation}
    (foreign : operation.ownAt? index engine.executions.length = none) :
    (engine.perform operation).executions[index]? = engine.executions[index]? := by
  cases operation with
  | start now machine input startState =>
    have elsewhere : engine.executions.length ≠ index := by simpa [Operation.ownAt?] using foreign
    rw [executions_start, List.getElem?_append]
    -- the place is not that of a new execution: it is before that one, or beyond it and empty
    split
    · rfl
    · next beyond =>
      have last : index - engine.executions.length ≠ 0 := by omega
      rw [List.getElem?_eq_none (Nat.le_of_not_lt beyond)]
      cases (engine.definition.begin now machine input startState).toOption <;> simp [last]
  | happen place event =>
    have elsewhere : place ≠ index := by simpa [Operation.ownAt?] using foreign
    simp [perform, executions_step, elsewhere]
  | call place job =>
    have elsewhere : place ≠ index := by simpa [Operation.ownAt?] using foreign
    simp [perform, executions_answerCall, elsewhere]

end Engine

theorem Execution.answered_congr {invoker : Invoker} {job other : Job}
    (ended : other.ended = job.ended)
    (answers : ∀ call cancelled,
      other.answer invoker call cancelled = job.answer invoker call cancelled)
    (execution : Execution) :
    execution.answered invoker other = execution.answered invoker job := by
  simp only [answered, ended, answers]

namespace Engine

theorem toList_modify {executions : List Execution} {index : Nat}
    {change other : Execution → Execution}
    (same : ∀ execution, other execution = change execution) :
    executions[index]?.toList.modify 0 other = (executions.modify index change)[index]?.toList := by
  rw [List.getElem?_modify]
  cases executions[index]? <;> simp [same]

theorem Mirrors.perform_own {index : Nat} {engine alone : Engine}
    (mirrors : Mirrors index engine alone) {operation own other : Operation}
    (concerns : operation.ownAt? index engine.executions.length = some own)
    (agrees : own.Agrees engine.invoker other) :
    Mirrors index (engine.perform operation) (alone.perform other) := by
  obtain ⟨sameDefinition, sameInvoker⟩ := engine.perform_frame operation
  obtain ⟨aloneDefinition, aloneInvoker⟩ := alone.perform_frame other
  refine ⟨?_, ?_, ?_⟩
  · rw [aloneDefinition, sameDefinition, mirrors.definition]
  · rw [aloneInvoker, sameInvoker, mirrors.invoker]
  · cases operation with
    | start now machine input startState =>
      obtain ⟨rfl, rfl⟩ : engine.executions.length = index ∧
          Operation.start now machine input startState = own := by
        simpa [Operation.ownAt?] using concerns
      cases agrees
      rw [executions_start, executions_start, mirrors.definition, mirrors.executions]
      cases (engine.definition.begin now machine input startState).toOption <;> simp
    | happen place event =>
      obtain ⟨rfl, rfl⟩ : place = index ∧ Operation.happen 0 event = own := by
        simpa [Operation.ownAt?] using concerns
      cases agrees
      rw [perform, perform, executions_step, executions_step, mirrors.executions]
      exact toList_modify fun _ => rfl
    | call place job =>
      obtain ⟨rfl, rfl⟩ : place = index ∧ Operation.call 0 job = own := by
        simpa [Operation.ownAt?] using concerns
      cases agrees with
      | same =>
        rw [perform, perform, executions_answerCall, executions_answerCall, mirrors.executions,
          mirrors.invoker]
        exact toList_modify fun _ => rfl
      | call ended answers =>
        rw [perform, perform, executions_answerCall, executions_answerCall, mirrors.executions,
          mirrors.invoker]
        exact toList_modify (Execution.answered_congr ended answers)

theorem Mirrors.perform_foreign {index : Nat} {engine alone : Engine}
    (mirrors : Mirrors index engine alone) {operation : Operation}
    (foreign : operation.ownAt? index engine.executions.length = none) :
    Mirrors index (engine.perform operation) alone := by
  obtain ⟨sameDefinition, sameInvoker⟩ := engine.perform_frame operation
  refine ⟨?_, ?_, ?_⟩
  · rw [sameDefinition, mirrors.definition]
  · rw [sameInvoker, mirrors.invoker]
  · rw [perform_of_foreign foreign, mirrors.executions]

theorem Mirrors.performAll {index : Nat} {engine alone : Engine}
    (mirrors : Mirrors index engine alone) {operations others : List Operation}
    (agree : List.Forall₂ (Operation.Agrees engine.invoker) (engine.own index operations) others) :
    Mirrors index (engine.performAll operations) (alone.performAll others) := by
  -- along all that is done; the engine that has one execution only takes part where that one is
  -- concerned, which is where its own list goes on
  induction operations generalizing engine alone others with
  | nil =>
    cases agree
    exact mirrors
  | cons operation rest ih =>
    have invoker := (engine.perform_frame operation).2
    rw [own] at agree
    cases concerns : operation.ownAt? index engine.executions.length with
    | none =>
      rw [concerns, Option.toList_none, List.nil_append, ← invoker] at agree
      exact ih (mirrors.perform_foreign concerns) agree
    | some own =>
      rw [concerns, Option.toList_some, List.singleton_append] at agree
      obtain ⟨other, others, agrees, later, rfl⟩ := List.forall₂_cons_left_iff.1 agree
      exact ih (mirrors.perform_own concerns agrees) (invoker ▸ later)

/-- Executions of one engine are isolated. Each one is, at any moment, what it comes to in an engine
that has no other one, if the same is done with it there at the same readings of the clock and the
calls of its tasks have the same answers. What is done with others does not change it. -/
theorem executions_are_isolated {engine alone : Engine} {index : Nat}
    (mirrors : Mirrors index engine alone) {operations others : List Operation}
    (agree : List.Forall₂ (Operation.Agrees engine.invoker) (engine.own index operations) others) :
    (engine.performAll operations).executions[index]? =
      (alone.performAll others).executions[0]? ∧
    ∀ operation : Operation,
      operation.ownAt? index (engine.performAll operations).executions.length = none →
      ((engine.performAll operations).perform operation).executions[index]? =
        (engine.performAll operations).executions[index]? := by
  refine ⟨?_, fun operation foreign => perform_of_foreign foreign⟩
  rw [(mirrors.performAll agree).executions]
  cases (engine.performAll operations).executions[index]? <;> rfl

end Engine

def Invocation.answerOf (handler : Json) (timeout : Number) (value : Json) (cancelled : Bool) :
    Except TaskError Json :=
  if timeout.toJson.isWritable then
    match timeout.toReal with
    | .ok _ => if cancelled then .error (.cancelled handler) else .ok value
    | .error cause => .error (.endless cause)
  else .error .unwritableTimeout

theorem Invocation.answer_of_resultLine {invocation : Invocation}
    (waiting : invocation.message = none) {number : Nat}
    (tagged : invocation.tag = tagOf number) {reference : String}
    (handler : invocation.handler = .str reference) {value : Json}
    (carried : Json.Carried (Json.depthLimit - 1) value) (worker : WorkerBehaviour)
    (stdout : worker.stdout =
      (Json.obj [("tag", .str invocation.tag), ("result", value)]).encode ++ "\n")
    (cancelled : Bool) :
    invocation.answer (.ok worker) cancelled =
      answerOf invocation.handler invocation.timeoutMillis value cancelled := by
  have opens := opened_snd handler ⟨.disabled, []⟩
  unfold answer answerOf
  split
  · next writable =>
    rw [if_pos writable] at opens
    rw [carryOut_of_begun opens, awaited, patience]
    cases invocation.timeoutMillis.toReal with
    | ok seconds =>
      cases cancelled with
      | true => exact invocation.conclude_snd worker true
      | false => exact run_of_resultLine waiting tagged carried stdout 0 0 _
    | error cause => rfl
  · next unwritable =>
    rw [if_neg unwritable] at opens
    rw [carryOut_of_refused opens]

namespace Job

def returning (number : Nat) (result : Json → Json → Json → Json) (started ended : Int) :
    Job where
  tag := tagOf number
  worker invocation := .ok
    { stdout := (Json.obj [("tag", .str invocation.tag), ("result",
        result invocation.handler invocation.input invocation.context)]).encode ++ "\n"
      stderr := ""
      returnCode := 0
      exits := true }
  started
  ended

theorem answer_returning {result : Json → Json → Json → Json}
    (carried : ∀ handler input context,
      Json.Carried (Json.depthLimit - 1) (result handler input context))
    (number : Nat) (started ended : Int) (invoker : Invoker) (call : TaskCall)
    (cancelled : Bool) :
    (returning number result started ended).answer invoker call cancelled =
      Invocation.answerOf (.str call.handler) (invoker.timeoutOf (call.timeoutMillis.map .int))
        (result (.str call.handler) call.input
          (if call.context.isFalsy then .obj [] else call.context)) cancelled := by
  let invocation := invoker.invocation (tagOf number) call
  have waiting : invocation.message = none := rfl
  have tagged : invocation.tag = tagOf number := rfl
  have handler : invocation.handler = .str call.handler := rfl
  have brings := carried invocation.handler invocation.input invocation.context
  exact Invocation.answer_of_resultLine waiting tagged handler brings ⟨_, "", 0, true⟩ rfl cancelled

end Job

namespace Engine

def oneTask : Machine where
  name := "m"
  comment := .null
  startAt := "A"
  states := [.base "A" (.obj [("Type", .str "Task"), ("End", .bool true)])
    (.task "handlers.echo" none)]

def oneTaskEngine : Engine where
  definition := ⟨[oneTask]⟩
  invoker := ⟨Invoker.usualTimeoutMillis, Invoker.usualRoot, none⟩
  journal := ⟨.enabled "" .empty, []⟩
  executions := []
  live := []

def oneTaskStart : Operation := .start 0 (.str "m") .null .null

def oneTaskStep (index : Nat) : Operation := .happen index ⟨0, .proceed⟩

def oneTaskCall (index number : Nat) : Operation :=
  .call index (.returning number (fun _ _ _ => .str "é") 0 0)

def oneTaskOperations : List Operation :=
  [oneTaskStart, oneTaskStep 0, oneTaskStart, oneTaskStep 1, oneTaskStep 0,
    .happen 0 ⟨0, .cancel⟩, oneTaskStep 1, oneTaskCall 1 7, oneTaskCall 0 8]

theorem oneTask_is_isolated :
    let alone := [oneTaskStart, oneTaskStep 0, oneTaskStep 0, oneTaskCall 0 9]
    Mirrors 1 oneTaskEngine oneTaskEngine ∧
    List.Forall₂ (Operation.Agrees oneTaskEngine.invoker)
      (oneTaskEngine.own 1 oneTaskOperations) alone ∧
    (oneTaskEngine.performAll oneTaskOperations).executions[1]? =
      (oneTaskEngine.performAll alone).executions[0]? := by
  intro alone
  have mirrors : Mirrors 1 oneTaskEngine oneTaskEngine := ⟨rfl, rfl, rfl⟩
  have owned : oneTaskEngine.own 1 oneTaskOperations =
      [oneTaskStart, oneTaskStep 0, oneTaskStep 0, oneTaskCall 0 7] := rfl
  have agree : List.Forall₂ (Operation.Agrees oneTaskEngine.invoker)
      (oneTaskEngine.own 1 oneTaskOperations) alone := by
    rw [owned]
    refine .cons (.same _) (.cons (.same _) (.cons (.same _) (.cons (.call rfl ?_) .nil)))
    intro call cancelled
    rw [Job.answer_returning fun _ _ _ => .str _, Job.answer_returning fun _ _ _ => .str _]
  exact ⟨mirrors, agree, (executions_are_isolated mirrors agree).1⟩

end Engine

end StateFlow
