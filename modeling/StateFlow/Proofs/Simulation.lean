import StateFlow.Proofs.Cancellation
import StateFlow.Proofs.Operation

/-!
Simulated time. Whatever is done with an engine in a world of its own is a list of operations, so
what holds after any operations holds there: `reaches_start`, `reaches_run`, `reaches_release` and
`reaches_cancel`.
-/
namespace StateFlow

theorem World.call_eq_carryOut (world : World) (invoker : Invoker) (handler input context : Json)
    (own : Option Number) (cancelled : Bool) (journal : Journal) :
    let called := world.call invoker handler input context own cancelled journal
    (cancelled = true → called.2.1 = true) ∧ ∃ worker : Except TaskError WorkerBehaviour,
      (Invocation.start world.nextTag handler input context (invoker.timeoutOf own)).carryOut worker
        called.2.1 world.clock called.2.2.1.clock journal = (called.1, called.2.2.2) := by
  unfold World.call
  dsimp only
  generalize Invocation.start world.nextTag handler input context (invoker.timeoutOf own) =
    invocation
  split
  · next opened =>
    exact ⟨id, .ok ⟨"", "", 0, true⟩, by rw [Invocation.carryOut, opened]⟩
  · next opened =>
    dsimp only
    refine ⟨by simp +contextual, .ok (world.answer invocation).1.worker, ?_⟩
    rw [Invocation.carryOut, opened, Invocation.awaited]
    cases invocation.patience <;> rfl

namespace Engine

def Reaches (engine next : Engine) : Prop := ∃ operations, next = engine.performAll operations

namespace Reaches

theorem refl (engine : Engine) : engine.Reaches engine := ⟨[], rfl⟩

theorem trans {first second third : Engine} (early : first.Reaches second)
    (late : second.Reaches third) : first.Reaches third := by
  obtain ⟨early, rfl⟩ := early
  obtain ⟨late, rfl⟩ := late
  exact ⟨early ++ late, (first.performAll_append early late).symm⟩

theorem step (engine : Engine) (now : Int) (index : Nat) (happening : Happening) :
    engine.Reaches (engine.step now index happening) := ⟨[.happen index ⟨now, happening⟩], rfl⟩

end Reaches

theorem step_cancel {engine : Engine} {index : Nat} {execution : Execution} {call : TaskCall}
    (found : engine.executions[index]? = some execution) (waits : execution.call? = some call)
    (now : Int) :
    engine.step now index .cancel =
      { engine with executions := engine.executions.set index execution.marked } := by
  unfold Execution.call? at waits
  split at waits
  · next phase =>
    have marks : execution.step now .cancel = (execution.marked, []) := by
      simp [Execution.step, phase, Execution.marked]
    simp only [step, found, marks, Execution.ending?, phase, Execution.marked_phase]
    rfl
  · cases waits

end Engine

namespace Simulation

theorem reaches_answerCall {simulation : Simulation} {index : Nat} {execution : Execution}
    {call : TaskCall} (found : simulation.engine.executions[index]? = some execution)
    (waits : execution.call? = some call) :
    simulation.engine.Reaches
      (simulation.answerCall index execution.cancelled call).engine := by
  obtain ⟨engine, world⟩ := simulation
  obtain ⟨still, worker, same⟩ := world.call_eq_carryOut engine.invoker (.str call.handler)
    call.input call.context (call.timeoutMillis.map .int) execution.cancelled engine.journal
  unfold answerCall
  dsimp only at found same still ⊢
  generalize world.call engine.invoker (.str call.handler) call.input call.context
    (call.timeoutMillis.map .int) execution.cancelled engine.journal = called at same still ⊢
  obtain ⟨result, cancelled, after, journal⟩ := called
  dsimp only at same still ⊢
  let job : Job := ⟨world.nextTag, fun _ => worker, world.clock, after.clock⟩
  have carried : (job.call engine.invoker call cancelled).carryOut engine.journal =
      (result, journal) := same
  cases cancelled with
  | false =>
    have going : execution.cancelled = false := by
      cases marked : execution.cancelled <;> simp_all
    refine ⟨[.call index job], ?_⟩
    change _ = engine.answerCall index job
    rw [Engine.answerCall_of_waits found waits, going, carried]
    rfl
  | true =>
    -- the mark of the cancel touches neither the call nor the accounts
    refine ⟨[.happen index ⟨after.clock, .cancel⟩, .call index job], ?_⟩
    change (({ engine with journal }.step after.clock index .cancel).step after.clock index
      (.reply result)) = (engine.step after.clock index .cancel).answerCall index job
    have alsoFound : ({ engine with journal } : Engine).executions[index]? = some execution := found
    rw [Engine.step_cancel found waits, Engine.step_cancel alsoFound waits]
    have inside := (List.getElem?_eq_some_iff.1 found).1
    have found : (engine.executions.set index execution.marked)[index]? =
      some execution.marked := List.getElem?_set_self inside
    have waits : execution.marked.call? = some call := waits
    rw [Engine.answerCall_of_waits found waits]
    change _ = { engine with
      executions := engine.executions.set index execution.marked
      journal := ((job.call engine.invoker call true).carryOut engine.journal).2 }.step job.ended
        index (.reply ((job.call engine.invoker call true).carryOut engine.journal).1)
    rw [carried]

theorem reaches_run (rule : RunRule) (index : Nat) (steps : Nat) (simulation : Simulation) :
    simulation.engine.Reaches (run rule index steps simulation).engine := by
  induction steps generalizing simulation with
  | zero => exact .refl _
  | succ steps ih =>
    unfold run
    split
    · exact .refl _
    · next execution found =>
      split
      · exact .refl _
      · exact (Engine.Reaches.step _ _ _ _).trans (ih _)
      · dsimp only
        split
        · exact (Engine.Reaches.step _ _ _ _).trans ((Engine.Reaches.step _ _ _ _).trans (ih _))
        · exact (Engine.Reaches.step _ _ _ _).trans (ih _)
      · next phase =>
        exact (reaches_answerCall found (by simp [Execution.call?, phase])).trans (ih _)
      · dsimp only
        split
        · exact (Engine.Reaches.step _ _ _ _).trans (ih _)
        · split
          · exact .refl _
          · exact (Engine.Reaches.step _ _ _ _).trans (ih _)

theorem reaches_cancel (rule : RunRule) (simulation : Simulation) (index : Nat) :
    simulation.engine.Reaches (cancel rule simulation index).engine :=
  (Engine.Reaches.step _ _ _ _).trans ((Engine.Reaches.step _ _ _ _).trans
    (reaches_run rule index stepLimit _))

theorem reaches_release (rule : RunRule) (simulation : Simulation) (index : Nat) :
    simulation.engine.Reaches (release rule simulation index).engine := by
  unfold release
  split
  · exact (Engine.Reaches.step _ _ _ _).trans (reaches_run rule index stepLimit _)
  · exact .refl _

theorem reaches_start {rule : RunRule} {simulation next : Simulation} {index : Nat}
    {machine input startState : Json}
    (started : simulation.start rule machine input startState = .ok (next, index)) :
    simulation.engine.Reaches next.engine := by
  obtain ⟨engine, begun, same⟩ := bind_eq_ok.1 started
  have first : simulation.engine.Reaches engine := by
    refine ⟨[.start simulation.world.clock machine input startState], ?_⟩
    simp [Engine.performAll, Engine.perform, begun, Except.toOption]
  cases same
  split
  · exact first.trans ((Engine.Reaches.step _ _ _ _).trans (reaches_run rule _ stepLimit _))
  · exact first.trans (reaches_run rule _ stepLimit _)

end Simulation

end StateFlow
