import StateFlow.Execution.Report
import StateFlow.Proofs.Loading

/-!
Runs of an execution: what happens to it, each at a reading of the clock. `Execution.Move` lists all
that one happening can do, and `move_advance` says that nothing else is done. A finished execution
stays as it is, and the parts of an execution that are fixed at its start never change.
-/
namespace StateFlow

structure Event where
  time : Int
  happening : Happening

abbrev Tasks := String → Json → Except TaskError Json

namespace Phase

def ofAction (now : Int) (state : State) (data : Data) : Except Failure Action → Phase
  | .error failure => .finished (.failed failure) now
  | .ok (.finish output) => .finished (.succeeded output) now
  | .ok (.go next output) => .ready next output
  | .ok (.call call) => .calling state data call
  | .ok (.sleep input seconds) => .sleeping state input seconds

end Phase

namespace Execution

def advance (execution : Execution) (event : Event) : Execution :=
  (execution.step event.time event.happening).1

def after (execution : Execution) (events : List Event) : Execution :=
  events.foldl advance execution

def due (tasks : Tasks) (execution : Execution) : Happening :=
  match execution.phase with
  | .calling _ _ call => .reply (tasks call.handler call.input)
  | .sleeping _ _ seconds => .wake seconds.sleepable
  | _ => .proceed

def follow (tasks : Tasks) (now : Int) (execution : Execution) : Execution :=
  execution.advance ⟨now, execution.due tasks⟩

@[simp] theorem after_nil (execution : Execution) : execution.after [] = execution := rfl

@[simp] theorem after_cons (execution : Execution) (event : Event) (events : List Event) :
    execution.after (event :: events) = (execution.advance event).after events := rfl

theorem after_append (execution : Execution) (first second : List Event) :
    execution.after (first ++ second) = (execution.after first).after second :=
  List.foldl_append

theorem takeUp_fst (execution : Execution) (now : Int) (state : State) (data : Data)
    (action : Except Failure Action) :
    (execution.takeUp now state data action).1 =
      { execution with phase := .ofAction now state data action } := by
  rcases action with _ | _ | _ | _ | _ <;> rfl

theorem advance_of_isFinished {execution : Execution} (h : execution.isFinished) (event : Event) :
    execution.advance event = execution := by
  rw [advance, step_of_isFinished h]

theorem after_of_isFinished {execution : Execution} (h : execution.isFinished)
    (events : List Event) : execution.after events = execution := by
  induction events with
  | nil => rfl
  | cons event events ih => rw [after_cons, advance_of_isFinished h, ih]

theorem isFinished_iff {execution : Execution} :
    execution.isFinished = true ↔ ∃ ending, execution.ending? = some ending := by
  rw [isFinished, Option.isSome_iff_exists]

theorem ending?_eq_some {execution : Execution} {ending : Ending} :
    execution.ending? = some ending ↔ ∃ stopped, execution.phase = .finished ending stopped := by
  unfold ending?
  split <;> simp_all

/-- What the state at hand makes of something that happens in it. -/
inductive Yields (execution : Execution) :
    Event → State → Data → Except Failure Action → Prop where
  | acted {now : Int} {state : State} {data : Data}
      (phase : execution.phase = .entered state data) :
    Yields execution ⟨now, .proceed⟩ state data (state.act data execution.context now)
  | replied {now : Int} {state : State} {data : Data} {call : TaskCall}
    (answer : Except TaskError Json) (phase : execution.phase = .calling state data call) :
    Yields execution ⟨now, .reply answer⟩ state data (execution.replyTo state data answer)
  | woken {now : Int} {state : State} {input : Data} {seconds : Number}
    (counted : Except SleepError Unit) (phase : execution.phase = .sleeping state input seconds) :
    Yields execution ⟨now, .wake counted⟩ state input (execution.wakeIn state input counted)

inductive Move (execution : Execution) : Event → Execution → Prop where
  | stay {event : Event} : Move execution event execution
  | cancel {now : Int} (unfinished : execution.isFinished = false) :
    Move execution ⟨now, .cancel⟩ { execution with cancelled := true }
  | abort {now : Int} {next : Json} {data : Data} (phase : execution.phase = .ready next data)
    (cancelled : execution.cancelled = true) :
    Move execution ⟨now, .proceed⟩ { execution with
      phase := .finished (.failed (.aborted execution.id .betweenStates)) now }
  | stray {now : Int} {next : Json} {data : Data} {cause : LookupError}
    (phase : execution.phase = .ready next data) (cancelled : execution.cancelled = false)
    (missing : execution.machine.get next = .error cause) :
    Move execution ⟨now, .proceed⟩ { execution with
      phase := .finished (.failed (.lookup cause)) now }
  | enter {now : Int} {next : Json} {data : Data} {state : State}
    (phase : execution.phase = .ready next data) (cancelled : execution.cancelled = false)
    (found : execution.machine.get next = .ok state) :
    Move execution ⟨now, .proceed⟩ { execution with
      newestFirst := ⟨state.name, Clock.now now, data⟩ :: execution.newestFirst
      phase := .entered state data }
  | act {event : Event} {state : State} {data : Data} {action : Except Failure Action}
    (yields : execution.Yields event state data action) :
    Move execution event { execution with phase := .ofAction event.time state data action }

theorem move_enter {execution : Execution} {next : Json} {data : Data}
    (phase : execution.phase = .ready next data) (now : Int) :
    execution.Move ⟨now, .proceed⟩ (execution.enter now next data).1 := by
  unfold enter
  split
  · next cancelled => exact .abort phase cancelled
  · next cancelled =>
    have cancelled : execution.cancelled = false := by simpa using cancelled
    split
    · next cause missing => exact .stray phase cancelled missing
    · next state found => exact .enter phase cancelled found

theorem move_advance (execution : Execution) (event : Event) :
    execution.Move event (execution.advance event) := by
  obtain ⟨now, happening⟩ := event
  cases ends : execution.isFinished with
  | true =>
    rw [advance_of_isFinished ends]
    exact .stay
  | false =>
    unfold advance step
    dsimp only
    split
    · exact .stay
    · exact .cancel ends
    · next phase => exact move_enter phase now
    · next phase =>
      simp only [proceedIn, takeUp_fst]
      exact .act (.acted phase)
    · next phase =>
      simp only [takeUp_fst]
      exact .act (.replied _ phase)
    · next phase =>
      simp only [takeUp_fst]
      exact .act (.woken _ phase)
    · exact .stay

theorem exists_last_event {execution : Execution} (unfinished : execution.isFinished = false)
    {events : List Event} (finished : (execution.after events).isFinished = true) :
    ∃ before event rest, events = before ++ event :: rest ∧
      (execution.after before).isFinished = false ∧
      (execution.after before).advance event = execution.after events := by
  induction events generalizing execution with
  | nil => simp [unfinished] at finished
  | cons event events ih =>
    cases ends : (execution.advance event).isFinished with
    | true =>
      exact ⟨[], event, events, rfl, unfinished, (after_of_isFinished ends events).symm⟩
    | false =>
      obtain ⟨before, last, rest, rfl, still, same⟩ := ih ends finished
      exact ⟨event :: before, last, rest, rfl, still, same⟩

theorem Move.machine {execution next : Execution} {event : Event}
    (move : execution.Move event next) : next.machine = execution.machine := by
  cases move <;> rfl

theorem Move.startState {execution next : Execution} {event : Event}
    (move : execution.Move event next) : next.startState = execution.startState := by
  cases move <;> rfl

theorem Move.newestFirst {execution next : Execution} {event : Event}
    (move : execution.Move event next) (finished : next.isFinished = true) :
    next.newestFirst = execution.newestFirst := by
  cases move with
  | enter phase cancelled found => simp [isFinished, ending?] at finished
  | _ => rfl

theorem machine_after (execution : Execution) (events : List Event) :
    (execution.after events).machine = execution.machine := by
  induction events generalizing execution with
  | nil => rfl
  | cons event events ih => rw [after_cons, ih, (move_advance execution event).machine]

theorem startState_after (execution : Execution) (events : List Event) :
    (execution.after events).startState = execution.startState := by
  induction events generalizing execution with
  | nil => rfl
  | cons event events ih => rw [after_cons, ih, (move_advance execution event).startState]

end Execution

end StateFlow
