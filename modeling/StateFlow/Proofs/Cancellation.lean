import StateFlow.Engine
import StateFlow.Proofs.Walk

/-!
Cancels. A cancelled execution and the same one without the cancel go together, event by event,
until the cancel is noticed: before the next entry, at the end of a wait, or by the invoker of a
task. Whoever notices it aborts the execution, so what else it may come to is the doing of the state
that was in progress.
-/
namespace StateFlow

namespace Invocation

theorem conclude_cancelled (invocation : Invocation) (worker : WorkerBehaviour) :
    ∃ handler, (invocation.conclude worker true).2 = .error (.cancelled handler) :=
  ⟨_, rfl⟩

end Invocation

/-- A run without a cancel, and a run of the same execution after a cancel and amid others. The
cancels apart, their events are the same, but for the answer of an invoker that notices the cancel
in place of the task's own, and for a wait that is cut short. -/
inductive Heeds : List Event → List Event → Prop where
  | nil : Heeds [] []
  | again {plain heeding : List Event} (time : Int) (rest : Heeds plain heeding) :
    Heeds plain (⟨time, .cancel⟩ :: heeding)
  | same {plain heeding : List Event} (event : Event) (other : event.happening ≠ .cancel)
      (rest : Heeds plain heeding) : Heeds (event :: plain) (event :: heeding)
  | noticed {plain heeding : List Event} (time early : Int) (answer : Except TaskError Json)
      (invocation : Invocation) (worker : WorkerBehaviour) (rest : Heeds plain heeding) :
    Heeds (⟨time, .reply answer⟩ :: plain)
      (⟨early, .reply (invocation.conclude worker true).2⟩ :: heeding)
  | woken {plain heeding : List Event} (time early : Int) (counted cut : Except SleepError Unit)
      (rest : Heeds plain heeding) :
    Heeds (⟨time, .wake counted⟩ :: plain) (⟨early, .wake cut⟩ :: heeding)

structure Ending.IsAborted (ending : Ending) : Prop where
  status : ending.status = .failed
  error : ending.error = .str "States.Aborted"

namespace Execution

def marked (execution : Execution) : Execution := { execution with cancelled := true }

@[simp] theorem marked_phase (execution : Execution) :
    execution.marked.phase = execution.phase := rfl

@[simp] theorem marked_trace (execution : Execution) :
    execution.marked.trace = execution.trace := rfl

@[simp] theorem marked_context (execution : Execution) :
    execution.marked.context = execution.context := rfl

theorem advance_cancel {execution : Execution} (unfinished : execution.isFinished = false)
    (time : Int) : execution.advance ⟨time, .cancel⟩ = execution.marked := by
  unfold advance step
  split
  · next ending stopped phase => simp [isFinished, ending?, phase] at unfinished
  all_goals first | rfl | contradiction

theorem marked_advance_cancel (execution : Execution) (time : Int) :
    execution.marked.advance ⟨time, .cancel⟩ = execution.marked := by
  cases finished : execution.marked.isFinished with
  | true => exact advance_of_isFinished finished _
  | false => exact advance_cancel finished time

theorem Move.cancelled {execution next : Execution} {event : Event}
    (move : execution.Move event next) (cancelled : execution.cancelled = true) :
    next.cancelled = true ∧ next.trace = execution.trace := by
  cases move with
  | enter phase running found => simp [running] at cancelled
  | cancel unfinished => exact ⟨rfl, rfl⟩
  | _ => exact ⟨cancelled, rfl⟩

theorem trace_after_of_cancelled {execution : Execution} (cancelled : execution.cancelled = true)
    (events : List Event) : (execution.after events).trace = execution.trace := by
  induction events generalizing execution with
  | nil => rfl
  | cons event events ih =>
    obtain ⟨still, same⟩ := (move_advance execution event).cancelled cancelled
    rw [after_cons, ih still, same]

def IsReady (execution : Execution) : Prop := ∃ next data, execution.phase = .ready next data

/-- No state has been entered since, and one who was to enter a state still is. -/
structure Lingers (execution next : Execution) : Prop where
  trace : next.trace = execution.trace
  ready : execution.IsReady → next.IsReady

theorem Lingers.refl (execution : Execution) : execution.Lingers execution :=
  ⟨rfl, fun ready => ready⟩

theorem Lingers.ofAction {execution : Execution} (unready : ¬ execution.IsReady) (phase : Phase) :
    execution.Lingers { execution with phase } :=
  ⟨rfl, fun ready => absurd ready unready⟩

theorem takeUp_marked (execution : Execution) (now : Int) (state : State) (data : Data)
    (action : Except Failure Action) :
    (execution.marked.takeUp now state data action).1 =
      (execution.takeUp now state data action).1.marked := by
  rw [takeUp_fst, takeUp_fst]
  rfl

def Heeded (execution : Execution) (plain heeding : Event) : Prop :=
  (∃ ending, (execution.marked.advance heeding).ending? = some ending ∧ ending.IsAborted) ∨
    (execution.marked.advance heeding = (execution.advance plain).marked ∧
      execution.Lingers (execution.advance plain))

theorem heeded_of_idle {execution : Execution} {event : Event}
    (idle : ∀ twin : Execution, twin.phase = execution.phase → twin.advance event = twin) :
    execution.Heeded event event := by
  refine .inr ⟨?_, ?_⟩
  · rw [idle execution.marked rfl, idle execution rfl]
  · rw [idle execution rfl]
    exact .refl execution

theorem heeded_of_takeUp {execution : Execution} (unready : ¬ execution.IsReady) {event : Event}
    (state : State) (data : Data) (action : Except Failure Action)
    (cut : execution.marked.advance event =
      (execution.marked.takeUp event.time state data action).1)
    (alone : execution.advance event = (execution.takeUp event.time state data action).1) :
    execution.Heeded event event := by
  refine .inr ⟨?_, ?_⟩
  · rw [cut, alone, takeUp_marked]
  · rw [alone, takeUp_fst]
    exact .ofAction unready _

theorem advance_reply_of_not_calling {execution : Execution}
    (idle : ∀ state data call, execution.phase ≠ .calling state data call) (now : Int)
    (answer : Except TaskError Json) : execution.advance ⟨now, .reply answer⟩ = execution := by
  cases phase : execution.phase with
  | calling state data call => exact absurd phase (idle state data call)
  | _ => simp [advance, step, phase]

theorem advance_wake_of_not_sleeping {execution : Execution}
    (idle : ∀ state input seconds, execution.phase ≠ .sleeping state input seconds) (now : Int)
    (counted : Except SleepError Unit) : execution.advance ⟨now, .wake counted⟩ = execution := by
  cases phase : execution.phase with
  | sleeping state input seconds => exact absurd phase (idle state input seconds)
  | _ => simp [advance, step, phase]

theorem heeded_noticed (execution : Execution) (time early : Int) (answer : Except TaskError Json)
    (invocation : Invocation) (worker : WorkerBehaviour) :
    execution.Heeded ⟨time, .reply answer⟩
      ⟨early, .reply (invocation.conclude worker true).2⟩ := by
  obtain ⟨handler, cancelled⟩ := invocation.conclude_cancelled worker
  by_cases calling : ∃ state data call, execution.phase = .calling state data call
  · obtain ⟨state, data, call, phase⟩ := calling
    refine .inl ⟨.failed (.task (.cancelled handler)), ?_, rfl, rfl⟩
    simp [advance, step, phase, takeUp, replyTo, finish, ending?, cancelled]
  · have idle : ∀ state data call, execution.phase ≠ .calling state data call :=
      fun state data call phase => calling ⟨state, data, call, phase⟩
    have marked : ∀ state data call, execution.marked.phase ≠ .calling state data call := idle
    refine .inr ⟨?_, ?_⟩
    · rw [advance_reply_of_not_calling marked, advance_reply_of_not_calling idle]
    · rw [advance_reply_of_not_calling idle]
      exact .refl execution

theorem heeded_woken (execution : Execution) (time early : Int)
    (counted cut : Except SleepError Unit) :
    execution.Heeded ⟨time, .wake counted⟩ ⟨early, .wake cut⟩ := by
  by_cases sleeping : ∃ state input seconds, execution.phase = .sleeping state input seconds
  · obtain ⟨state, input, seconds, phase⟩ := sleeping
    refine .inl ⟨.failed (.aborted execution.marked.id (.waiting state.name)), ?_, rfl, rfl⟩
    simp [advance, step, phase, takeUp, wakeIn, finish, ending?, marked]
  · have idle : ∀ state input seconds, execution.phase ≠ .sleeping state input seconds :=
      fun state input seconds phase => sleeping ⟨state, input, seconds, phase⟩
    have marked : ∀ state input seconds, execution.marked.phase ≠ .sleeping state input seconds :=
      idle
    refine .inr ⟨?_, ?_⟩
    · rw [advance_wake_of_not_sleeping marked, advance_wake_of_not_sleeping idle]
    · rw [advance_wake_of_not_sleeping idle]
      exact .refl execution

theorem heeded_same (execution : Execution) {event : Event} (other : event.happening ≠ .cancel) :
    execution.Heeded event event := by
  obtain ⟨now, happening⟩ := event
  cases phase : execution.phase with
  | finished ending stopped =>
    exact heeded_of_idle fun twin same => by simp [advance, step, same, phase]
  | ready next data =>
    cases happening with
    | proceed =>
      refine .inl ⟨.failed (.aborted execution.marked.id .betweenStates), ?_, rfl, rfl⟩
      simp [advance, step, phase, enter, finish, ending?, marked]
    | cancel => exact absurd rfl other
    | _ => exact heeded_of_idle fun twin same => by simp [advance, step, same, phase]
  | entered state data =>
    cases happening with
    | proceed =>
      refine heeded_of_takeUp (by simp [IsReady, phase]) state data
        (state.act data execution.context now) ?_ ?_
      · simp [advance, step, phase, proceedIn]
      · simp [advance, step, phase, proceedIn]
    | cancel => exact absurd rfl other
    | _ => exact heeded_of_idle fun twin same => by simp [advance, step, same, phase]
  | calling state data call =>
    cases happening with
    | reply answer =>
      refine heeded_of_takeUp (by simp [IsReady, phase]) state data
        (execution.replyTo state data answer) ?_ ?_
      · simp only [advance, step, marked_phase, phase]
        cases answer <;> rfl
      · simp only [advance, step, phase]
    | cancel => exact absurd rfl other
    | _ => exact heeded_of_idle fun twin same => by simp [advance, step, same, phase]
  | sleeping state input seconds =>
    cases happening with
    | wake counted => exact heeded_woken execution now now counted counted
    | cancel => exact absurd rfl other
    | _ => exact heeded_of_idle fun twin same => by simp [advance, step, same, phase]

/-- How a cancelled run may end, in the light of the same execution without the cancel. -/
def EndsAs (execution : Execution) (plain : List Event) (ending : Ending) : Prop :=
  ending.IsAborted ∨ (¬ execution.IsReady ∧ (execution.after plain).ending? = some ending ∧
    (execution.after plain).trace = execution.trace)

theorem Heeded.endsAs {execution : Execution} {plain heeding : Event}
    (heeded : execution.Heeded plain heeding) {plains heedings : List Event} {ending : Ending}
    (ends : (execution.marked.after (heeding :: heedings)).ending? = some ending)
    (rest : ((execution.advance plain).marked.after heedings).ending? = some ending →
      (execution.advance plain).EndsAs plains ending) :
    execution.EndsAs (plain :: plains) ending := by
  rw [after_cons] at ends
  -- once the cancel is noticed the cut run is over; until then the runs differ in the mark alone
  rcases heeded with ⟨aborted, stops, isAborted⟩ | ⟨same, lingers⟩
  · rw [after_of_isFinished (isFinished_iff.2 ⟨aborted, stops⟩), stops] at ends
    exact .inl (Option.some.inj ends ▸ isAborted)
  · rw [same] at ends
    refine (rest ends).imp_right fun ⟨unready, alone, entries⟩ => ?_
    exact ⟨fun ready => unready (lingers.ready ready), alone, entries.trans lingers.trace⟩

theorem endsAs_of_heeds {plain heeding : List Event} (heeds : Heeds plain heeding)
    {execution : Execution} {ending : Ending}
    (ends : (execution.marked.after heeding).ending? = some ending) :
    execution.EndsAs plain ending := by
  -- the marked execution stays the marked form of the one that runs alone
  induction heeds generalizing execution with
  | nil =>
    refine .inr ⟨?_, ends, rfl⟩
    rintro ⟨next, data, phase⟩
    simp [ending?, phase] at ends
  | again time rest ih =>
    rw [after_cons, marked_advance_cancel] at ends
    exact ih ends
  | same event other rest ih => exact (heeded_same execution other).endsAs ends ih
  | noticed time early answer invocation worker rest ih =>
    exact (heeded_noticed execution time early answer invocation worker).endsAs ends ih
  | woken time early counted cut rest ih =>
    exact (heeded_woken execution time early counted cut).endsAs ends ih

theorem exists_isIn {execution : Execution} (unready : ¬ execution.IsReady)
    (unfinished : execution.isFinished = false) : ∃ state, execution.IsIn state := by
  cases phase : execution.phase with
  | ready next data => exact absurd ⟨next, data, phase⟩ unready
  | finished ending stopped => simp [isFinished, ending?, phase] at unfinished
  | _ state _ => exact ⟨state, by simp [IsIn, phase]⟩

theorem status_of_ending {execution : Execution} {ending : Ending}
    (ends : execution.ending? = some ending) : execution.status = ending.status := by
  rw [status, ends]
  rfl

theorem status_of_unfinished {execution : Execution} (unfinished : execution.isFinished = false) :
    execution.status = .running := by
  simp only [isFinished, Option.isSome_eq_false_iff, Option.isNone_iff_eq_none] at unfinished
  rw [status, unfinished]
  rfl

theorem status_description (execution : Execution) :
    execution.description.field "status" = .str execution.status.name := rfl

inductive Operation where
  | event (event : Event)
  | describe

def statuses (execution : Execution) : List Operation → List Json
  | [] => []
  | .event event :: rest => (execution.advance event).statuses rest
  | .describe :: rest => execution.description.field "status" :: execution.statuses rest

theorem statuses_of_isFinished {execution : Execution} (finished : execution.isFinished = true)
    (operations : List Operation) :
    ∃ count, execution.statuses operations =
      List.replicate count (.str execution.status.name) := by
  induction operations with
  | nil => exact ⟨0, rfl⟩
  | cons operation operations ih =>
    obtain ⟨count, same⟩ := ih
    cases operation with
    | event event => exact ⟨count, by rw [statuses, advance_of_isFinished finished, same]⟩
    | describe =>
      exact ⟨count + 1, by rw [statuses, status_description, same, List.replicate_succ]⟩

theorem statuses_of_unfinished {execution : Execution} (unfinished : execution.isFinished = false)
    (operations : List Operation) :
    ∃ before final after, final ≠ Status.running ∧ execution.statuses operations =
      List.replicate before (.str Status.running.name) ++
        List.replicate after (.str final.name) := by
  induction operations generalizing execution with
  | nil => exact ⟨0, .failed, 0, by decide, rfl⟩
  | cons operation operations ih =>
    cases operation with
    | event event =>
      rw [statuses]
      cases ends : (execution.advance event).isFinished with
      | false => exact ih ends
      | true =>
        obtain ⟨count, same⟩ := statuses_of_isFinished ends operations
        obtain ⟨ending, last⟩ := isFinished_iff.1 ends
        refine ⟨0, ending.status, count, ?_, ?_⟩
        · cases ending <;> simp [Ending.status]
        · rw [same, status_of_ending last]
          rfl
    | describe =>
      obtain ⟨before, final, after, ended, same⟩ := ih unfinished
      refine ⟨before + 1, final, after, ended, ?_⟩
      rw [statuses, status_description, status_of_unfinished unfinished, same,
        List.replicate_succ, List.cons_append]

/-- A cancel is safe at any moment of a run. No state is entered after it. The execution ends as an
aborted one, or as it had ended before, or as the state in progress ends it without the cancel. What
is finished stays as it is, and the status that descriptions tell changes at most once, from running
to a final one. -/
theorem cancel_is_safe (machine : Machine) (startState : String) (input : Json) (now : Int)
    (before : List Event) (time : Int) :
    let started := start machine startState input now
    let execution := started.after before
    let cut := execution.advance ⟨time, .cancel⟩
    (∀ rest, (cut.after rest).trace = execution.trace) ∧
    (∀ plain heeding, Heeds plain heeding →
      ∀ ending, (cut.after heeding).ending? = some ending →
        ending.IsAborted ∨ execution.ending? = some ending ∨
          ∃ state, execution.IsIn state ∧ (execution.after plain).ending? = some ending ∧
            (execution.after plain).trace = execution.trace) ∧
    (execution.isFinished = true →
      cut = execution ∧ (∀ rest, execution.after rest = execution) ∧
        ∀ (engine : Engine) index, engine.executions[index]? = some execution →
          engine.step time index .cancel = engine) ∧
    ∀ operations, ∃ running final ended, final ≠ Status.running ∧
      started.statuses operations = List.replicate running (.str Status.running.name) ++
        List.replicate ended (.str final.name) := by
  intro started execution cut
  have told := statuses_of_unfinished (show started.isFinished = false from rfl)
  cases finished : execution.isFinished with
  | true =>
    have stays := after_of_isFinished finished
    have same : cut = execution := advance_of_isFinished finished _
    rw [same]
    refine ⟨fun rest => by rw [stays], fun plain heeding _ ending ends => ?_,
      fun _ => ⟨rfl, stays, fun engine index found => ?_⟩, told⟩
    · exact .inr (.inl (by rwa [stays] at ends))
    · exact engine.step_of_isFinished found finished time .cancel
  | false =>
    have marked : cut = execution.marked := advance_cancel finished time
    rw [marked]
    refine ⟨fun rest => ?_, fun plain heeding heeds ending ends => ?_, by simp, told⟩
    · rw [trace_after_of_cancelled (show execution.marked.cancelled = true from rfl),
        marked_trace]
    · refine (endsAs_of_heeds heeds ends).imp_right fun ⟨unready, alone, entries⟩ => ?_
      obtain ⟨state, inside⟩ := exists_isIn unready finished
      exact .inr ⟨state, inside, alone, entries⟩

def onePass : Machine where
  name := "m"
  comment := .null
  startAt := "A"
  states := [.base "A" (.obj [("Type", .str "Pass"), ("End", .bool true)]) (.pass none)]

theorem cancel_is_safe_in_last_state :
    let execution := (start onePass "A" .null 0).after [⟨0, .proceed⟩]
    let cut := execution.advance ⟨1, .cancel⟩
    (cut.after [⟨2, .proceed⟩]).ending? = some (.succeeded (.obj [])) ∧
    Heeds [⟨2, .proceed⟩] [⟨2, .proceed⟩] ∧
    ((Ending.succeeded (.obj [])).IsAborted ∨
      execution.ending? = some (.succeeded (.obj [])) ∨
      ∃ state, execution.IsIn state ∧
        (execution.after [⟨2, .proceed⟩]).ending? = some (.succeeded (.obj [])) ∧
        (execution.after [⟨2, .proceed⟩]).trace = execution.trace) := by
  have heeds : Heeds [⟨2, .proceed⟩] [⟨2, .proceed⟩] := .same _ nofun .nil
  exact ⟨rfl, heeds, (cancel_is_safe onePass "A" .null 0 [⟨0, .proceed⟩] 1).2.1 _ _ heeds _ rfl⟩

end Execution

end StateFlow
