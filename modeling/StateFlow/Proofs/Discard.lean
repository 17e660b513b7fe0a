import StateFlow.Proofs.Walk

/-!
Results that are discarded. A task or a pass without a result path, which puts out all of its data,
hands on what it was entered with, whatever its result and its effective input are; only null becomes
an empty object (`Data.orEmpty`). `Execution.Carries` is the invariant of a run: what the last state
was entered with stays with it until it is handed on. `discarded_result_keeps_data` is about whole
runs, from the data of one entry to that of the next one and to the output.
-/
namespace StateFlow

theorem Data.orEmpty_eq_self_iff {data : Data} : data.orEmpty = data ↔ data.value ≠ .null := by
  by_cases null : data.value = .null
  · simp [orEmpty, null, eq_comm, eq_ofJson_iff]
  · simp [orEmpty, null]

namespace State

/-- A task or a pass that places its result nowhere and puts out all of its data. -/
structure DiscardsResult (state : State) : Prop where
  works : (∃ handler timeout, state.kind = .task handler timeout) ∨
    ∃ result, state.kind = .pass result
  nowhere : state.resultPath = .null
  whole : state.outputPath = .str "$"

theorem DiscardsResult.isStep {state : State} (discards : state.DiscardsResult) : state.IsStep := by
  rcases discards.works with ⟨handler, timeout, kind⟩ | ⟨result, kind⟩ <;> simp [IsStep, kind]

theorem outputOf_whole {state : State} (whole : state.outputPath = .str "$") (data : Data)
    (context : Json) : state.outputOf data context = .ok data := by
  rw [outputOf, whole]
  rfl

theorem merge_of_discards {state : State} (discards : state.DiscardsResult)
    (data result : Data) (context : Json) :
    state.merge data result context = .ok (state.transition data.orEmpty) := by
  have placed : ResultPath.place data state.resultPath result = .ok data.orEmpty := by
    rw [discards.nowhere]
    rfl
  rw [merge, placed]
  exact bind_eq_ok.2 ⟨_, rfl, bind_eq_ok.2 ⟨_, outputOf_whole discards.whole _ _, rfl⟩⟩

end State

/-- The action gives data to the next state, or their value as the output. -/
def Action.Gives (data : Data) : Action → Prop
  | .go _ output => output = data
  | .finish output => output = data.value
  | .call _ | .sleep _ _ => False

theorem State.transition_gives (state : State) (data : Data) :
    (state.transition data).Gives data := by
  unfold transition goOn
  split
  · split <;> rfl
  · rfl

namespace State

variable {state : State} (discards : state.DiscardsResult)

include discards

theorem act_of_discards_pass {result : Option Json} (kind : state.kind = .pass result)
    {data input : Data} {context : Json}
    (read : Path.applyTo data context state.inputPath = .ok input)
    (now : Int) : state.act data context now = .ok (state.transition data.orEmpty) := by
  have effective : state.effectiveInput data context = .ok input := by rw [effectiveInput, read]; rfl
  simp only [act, kind, effective]
  exact merge_of_discards discards data _ context

theorem gives_of_act_discards {data : Data} {context : Json} {now : Int} {action : Action}
    (acts : state.act data context now = .ok action) :
    (∃ call, action = .call call) ∨ action.Gives data.orEmpty := by
  rcases discards.works with ⟨handler, timeout, kind⟩ | ⟨result, kind⟩
  · simp only [act, kind] at acts
    obtain ⟨input, -, acts⟩ := bind_eq_ok.1 acts
    obtain ⟨own, -, acts⟩ := bind_eq_ok.1 acts
    cases acts
    exact .inl ⟨_, rfl⟩
  · simp only [act, kind] at acts
    obtain ⟨input, -, acts⟩ := bind_eq_ok.1 acts
    rw [merge_of_discards discards] at acts
    cases acts
    exact .inr (state.transition_gives _)

theorem gives_of_replyTo_discards {execution : Execution} {data : Data}
    {answer : Except TaskError Json} {action : Action}
    (replies : execution.replyTo state data answer = .ok action) :
    action.Gives data.orEmpty := by
  cases answer with
  | error cause => cases replies
  | ok result =>
    rw [Execution.replyTo, merge_of_discards discards] at replies
    cases replies
    exact state.transition_gives _

end State

def Machine.DiscardsAt (machine : Machine) (visit : Visit) : Prop :=
  ∃ state, machine.state? visit.state = some state ∧ state.DiscardsResult

/-- A phase still has what the state of the last visit was entered with, or has handed it on. -/
def Phase.Carries (machine : Machine) (visit : Visit) : Phase → Prop
  | .ready _ output => machine.DiscardsAt visit → output = visit.input.orEmpty
  | .finished (.succeeded output) _ =>
    machine.DiscardsAt visit → output = visit.input.orEmpty.value
  | .entered state data | .calling state data _ =>
    machine.state? visit.state = some state ∧ (state.DiscardsResult → visit.input = data)
  | .sleeping state _ _ => machine.state? visit.state = some state ∧ ¬ state.DiscardsResult
  | .finished (.failed _) _ => True

def Phase.inHand? : Phase → Option (State × Data)
  | .entered state data | .calling state data _ => some (state, data)
  | _ => none

theorem Phase.Carries.inHand {machine : Machine} {visit : Visit} {phase : Phase}
    (carries : phase.Carries machine visit) {state other : State} {data : Data}
    (known : machine.state? visit.state = some state) (discards : state.DiscardsResult)
    (inHand : phase.inHand? = some (other, data)) : other = state ∧ data = visit.input := by
  obtain ⟨alsoKnown, same⟩ :
      machine.state? visit.state = some other ∧ (other.DiscardsResult → visit.input = data) := by
    cases phase with
    | entered => cases inHand; exact carries
    | calling => cases inHand; exact carries
    | _ => cases inHand
  obtain rfl := Option.some.inj (alsoKnown.symm.trans known)
  exact ⟨rfl, (same discards).symm⟩

theorem Phase.carries_ofAction {machine : Machine} {visit : Visit} {state : State} {data : Data}
    (known : machine.state? visit.state = some state)
    (same : state.DiscardsResult → visit.input = data) {action : Except Failure Action}
    (puts : state.DiscardsResult → ∀ done, action = .ok done →
      (∃ call, done = .call call) ∨ done.Gives data.orEmpty) (now : Int) :
    (ofAction now state data action).Carries machine visit := by
  have gives {done : Action} (does : action = .ok done) (other : ∀ call, done ≠ .call call)
      (discards : state.DiscardsResult) : done.Gives visit.input.orEmpty := by
    rw [same discards]
    exact (puts discards done does).resolve_left fun ⟨call, calls⟩ => other call calls
  have discards (discards : machine.DiscardsAt visit) : state.DiscardsResult := by
    obtain ⟨other, alsoKnown, discards⟩ := discards
    exact Option.some.inj (known.symm.trans alsoKnown) ▸ discards
  cases action with
  | error failure => trivial
  | ok done =>
    cases done with
    | go next output => exact fun there => gives rfl nofun (discards there)
    | finish output => exact fun there => gives rfl nofun (discards there)
    | call call => exact ⟨known, same⟩
    | sleep input seconds => exact ⟨known, fun there => gives rfl nofun there⟩

namespace Execution

/-- All visits that discard their results have handed on what they were entered with, and the last
one will. -/
structure Carries (execution : Execution) : Prop where
  handed : execution.newestFirst.IsChain fun later earlier =>
    execution.machine.DiscardsAt earlier → later.input = earlier.input.orEmpty
  last : ∀ visit ∈ execution.newestFirst.head?, execution.phase.Carries execution.machine visit

theorem Yields.carries {execution : Execution} (carries : execution.Carries) {event : Event}
    {state : State} {data : Data} {action : Except Failure Action}
    (yields : execution.Yields event state data action) :
    ∀ visit ∈ execution.newestFirst.head?,
      (Phase.ofAction event.time state data action).Carries execution.machine visit := by
  intro visit mem
  have last := carries.last visit mem
  cases yields with
  | acted phase =>
    rw [phase] at last
    exact Phase.carries_ofAction last.1 last.2
      (fun discards _ acts => State.gives_of_act_discards discards acts) _
  | replied answer phase =>
    rw [phase] at last
    exact Phase.carries_ofAction last.1 last.2
      (fun discards _ replies => .inr (State.gives_of_replyTo_discards discards replies)) _
  | woken counted phase =>
    -- a wait discards no result
    rw [phase] at last
    exact Phase.carries_ofAction last.1 (fun discards => absurd discards last.2)
      (fun discards => absurd discards last.2) _

theorem Move.carries {execution next : Execution} {event : Event}
    (move : execution.Move event next) (carries : execution.Carries) : next.Carries := by
  cases move with
  | stay => exact carries
  | cancel unfinished => exact ⟨carries.handed, carries.last⟩
  | abort phase cancelled => exact ⟨carries.handed, fun _ _ => trivial⟩
  | stray phase cancelled missing => exact ⟨carries.handed, fun _ _ => trivial⟩
  | @enter now next data state phase cancelled found =>
    obtain ⟨name, -, known⟩ := Machine.get_eq_ok.1 found
    obtain rfl := Machine.name_of_state? known
    constructor
    · refine List.isChain_cons.2 ⟨fun visit mem => ?_, carries.handed⟩
      have last := carries.last visit mem
      rwa [phase] at last
    · rintro visit ⟨⟩
      exact ⟨known, fun _ => rfl⟩
  | act yields => exact ⟨carries.handed, yields.carries carries⟩

theorem carries_after {execution : Execution} (carries : execution.Carries) (events : List Event) :
    (execution.after events).Carries := by
  induction events generalizing execution with
  | nil => exact carries
  | cons event events ih => exact ih ((move_advance execution event).carries carries)

theorem carries_start (machine : Machine) (startState : String) (input : Json) (now : Int) :
    (start machine startState input now).Carries where
  handed := List.isChain_nil
  last := nofun

theorem Carries.handsOn_of_trace {execution : Execution} (carries : execution.Carries)
    {earlier later : List Visit} {visit next : Visit}
    (trace : execution.trace = earlier ++ visit :: next :: later)
    (discards : execution.machine.DiscardsAt visit) : next.input = visit.input.orEmpty := by
  have newestFirst : execution.newestFirst = later.reverse ++ next :: visit :: earlier.reverse := by
    simpa using List.reverse_eq_iff.1 trace
  have handed := carries.handed
  rw [newestFirst, List.isChain_append_cons_cons] at handed
  exact handed.2.1 discards

theorem Carries.phase_of_trace {execution : Execution} (carries : execution.Carries)
    {earlier : List Visit} {visit : Visit} (trace : execution.trace = earlier ++ [visit]) :
    execution.phase.Carries execution.machine visit := by
  have newestFirst : execution.newestFirst = visit :: earlier.reverse := by
    simpa using List.reverse_eq_iff.1 trace
  exact carries.last visit (by rw [newestFirst]; rfl)

theorem phase_advance_of_entered {execution : Execution} {state : State} {data : Data}
    (phase : execution.phase = .entered state data) (now : Int) :
    (execution.advance ⟨now, .proceed⟩).phase =
      .ofAction now state data (state.act data execution.context now) := by
  simp only [advance, step, phase, proceedIn, takeUp_fst]

theorem phase_advance_of_calling {execution : Execution} {state : State} {data : Data}
    {call : TaskCall} (phase : execution.phase = .calling state data call) (now : Int)
    (answer : Except TaskError Json) :
    (execution.advance ⟨now, .reply answer⟩).phase =
      .ofAction now state data (execution.replyTo state data answer) := by
  simp only [advance, step, phase, takeUp_fst]

end Execution

def Phase.handedOn (now : Int) (state : State) (output : Data) : Phase :=
  if state.ends then .finished (.succeeded output.value) now else .ready state.next output

theorem Phase.ofAction_transition {state : State} (checked : state.Checked) (step : state.IsStep)
    (now : Int) (data output : Data) :
    ofAction now state data (.ok (state.transition output)) = .handedOn now state output := by
  have terminal := step.isTerminal_eq
  cases ends : state.ends with
  | true => simp [handedOn, State.transition, State.nextState, terminal, ends, ofAction]
  | false =>
    obtain ⟨target, next⟩ := step.exists_next checked ends
    simp [handedOn, State.transition, State.nextState, terminal, ends, next, State.goOn, ofAction]

namespace Execution

/-- In every run of a loaded machine a task or a pass that discards its result hands on the data that
it was entered with: that is the data of the next entry, or the output of the execution. A pass whose
input path finds something does so by itself, and a task once its handler has answered with a
result. The data is the same exactly if it is not null, which becomes an empty object. -/
theorem discarded_result_keeps_data {raw : Json} {definition : Definition}
    (loaded : Definition.load raw = .ok definition) {machine : Machine}
    (mem : machine ∈ definition.machines) (startState : String) (input : Json) (now : Int)
    (events : List Event) {state : State} (discards : state.DiscardsResult) {visit : Visit}
    (known : machine.state? visit.state = some state) :
    let execution := (start machine startState input now).after events
    (∀ earlier next later, execution.trace = earlier ++ visit :: next :: later →
      next.input = visit.input.orEmpty) ∧
    (∀ earlier, execution.trace = earlier ++ [visit] →
      (∀ output, execution.ending? = some (.succeeded output) →
        output = visit.input.orEmpty.value) ∧
      (∀ data result value time, execution.phase = .entered state data →
        state.kind = .pass result →
        Path.applyTo visit.input execution.context state.inputPath = .ok value →
        (execution.advance ⟨time, .proceed⟩).phase = .handedOn time state visit.input.orEmpty) ∧
      (∀ data call result time, execution.phase = .calling state data call →
        (execution.advance ⟨time, .reply (.ok result)⟩).phase =
          .handedOn time state visit.input.orEmpty)) ∧
    (visit.input.orEmpty = visit.input ↔ visit.input.value ≠ .null) := by
  intro execution
  have carries : execution.Carries :=
    carries_after (carries_start machine startState input now) events
  have fixed : execution.machine = machine := machine_after _ events
  have checked : state.Checked :=
    (Definition.sound_of_load loaded machine mem).checked state (Machine.state?_mem known)
  have goesOn (time : Int) (data : Data) :=
    Phase.ofAction_transition checked discards.isStep time data visit.input.orEmpty
  rw [← fixed] at known
  have there : execution.machine.DiscardsAt visit := ⟨state, known, discards⟩
  refine ⟨fun earlier next later trace => carries.handsOn_of_trace trace there,
    fun earlier trace => ?_, Data.orEmpty_eq_self_iff⟩
  have last := carries.phase_of_trace trace
  refine ⟨fun output ends => ?_, fun data result value time phase kind read => ?_,
    fun data call result time phase => ?_⟩
  · obtain ⟨stopped, phase⟩ := ending?_eq_some.1 ends
    rw [phase] at last
    exact last there
  · obtain ⟨-, rfl⟩ := last.inHand known discards (by rw [phase]; rfl)
    rw [phase_advance_of_entered phase, State.act_of_discards_pass discards kind read, goesOn]
  · obtain ⟨-, rfl⟩ := last.inHand known discards (by rw [phase]; rfl)
    rw [phase_advance_of_calling phase, replyTo, State.merge_of_discards discards, goesOn]

def discardingTask : Json :=
  .obj [("Type", .str "Task"), ("handler", .str "handlers.echo"), ("InputPath", .null),
    ("ResultPath", .null), ("Next", .str "B")]

def nullPass : Json := .obj [("Type", .str "Pass"), ("Result", .null), ("Next", .str "B")]

def discardingPass : Json :=
  .obj [("Type", .str "Pass"), ("Result", .int 1), ("ResultPath", .null), ("End", .bool true)]

def discarding (first : Json) : Json :=
  .obj [("m", .obj [("StartAt", .str "A"),
    ("States", .obj [("A", first), ("B", discardingPass)])])]

def discardingMachine (first : State) : Machine where
  name := "m"
  comment := .null
  startAt := "A"
  states := [first, .base "B" discardingPass (.pass (some (.int 1)))]

def discardingTaskState : State := .base "A" discardingTask (.task "handlers.echo" none)

def nullPassState : State := .base "A" nullPass (.pass (some .null))

theorem load_discarding_task : Definition.load (discarding discardingTask) =
    .ok ⟨[discardingMachine discardingTaskState]⟩ := by
  rfl

theorem load_discarding_null : Definition.load (discarding nullPass) =
    .ok ⟨[discardingMachine nullPassState]⟩ := by
  rfl

theorem discarded_result_keeps_data_list :
    let machine := discardingMachine discardingTaskState
    let data := Json.arr [.null, .int 2]
    let execution := (start machine "A" data 0).after
      [⟨0, .proceed⟩, ⟨0, .proceed⟩, ⟨0, .reply (.ok (.str "done"))⟩, ⟨0, .proceed⟩]
    let visit : Visit := ⟨"A", Clock.now 0, .ofJson data⟩
    let next : Visit := ⟨"B", Clock.now 0, .ofJson data⟩
    Definition.load (discarding discardingTask) = .ok ⟨[machine]⟩ ∧ machine ∈ [machine] ∧
    discardingTaskState.DiscardsResult ∧ machine.state? "A" = some discardingTaskState ∧
    execution.trace = [] ++ visit :: next :: [] ∧ next.input = visit.input.orEmpty ∧
    (visit.input.orEmpty = visit.input ↔ visit.input.value ≠ .null) := by
  intro machine data execution visit next
  have discards : discardingTaskState.DiscardsResult := ⟨.inl ⟨_, _, rfl⟩, rfl, rfl⟩
  have known : machine.state? visit.state = some discardingTaskState := rfl
  have trace : execution.trace = [] ++ visit :: next :: [] := rfl
  obtain ⟨handed, -, same⟩ := discarded_result_keeps_data load_discarding_task List.mem_cons_self
    "A" data 0 [⟨0, .proceed⟩, ⟨0, .proceed⟩, ⟨0, .reply (.ok (.str "done"))⟩, ⟨0, .proceed⟩]
    discards known
  exact ⟨load_discarding_task, List.mem_cons_self, discards, known, trace,
    handed [] next [] trace, same⟩

/-- A pass that discards its result does not hand on null as it is. -/
theorem discarded_result_replaces_null :
    ¬ ∀ raw definition, Definition.load raw = .ok definition → ∀ machine ∈ definition.machines,
      ∀ startState input now events state visit, state.DiscardsResult →
        machine.state? visit.state = some state → ∀ earlier output,
          ((start machine startState input now).after events).trace = earlier ++ [visit] →
          ((start machine startState input now).after events).ending? = some (.succeeded output) →
            output = visit.input.value := by
  intro keeps
  have same := keeps _ _ load_discarding_null _ List.mem_cons_self "A" (.obj []) 0
    (List.replicate 4 ⟨0, .proceed⟩) (.base "B" discardingPass (.pass (some (.int 1))))
    ⟨"B", Clock.now 0, .ofJson .null⟩ ⟨.inr ⟨_, rfl⟩, rfl, rfl⟩ rfl
    [⟨"A", Clock.now 0, .ofJson (.obj [])⟩]
    (.obj []) rfl rfl
  cases same

end Execution

end StateFlow
