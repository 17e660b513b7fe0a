import Mathlib.Data.List.Chain
import StateFlow.Proofs.Action

/-!
The states that an execution enters. `Execution.Walks` is the invariant of every run: the states
entered so far are a walk of the machine, and the phase fits the last one of them. From it follow
where an execution may end, and that the only name it ever looks up in vain is an empty one.
-/
namespace StateFlow

namespace Machine

/-- The definition of one state names another as the state after it. -/
def Edge (machine : Machine) (source target : String) : Prop :=
  ∃ state, machine.state? source = some state ∧ state.LeadsTo target

structure IsWalk (machine : Machine) (start : String) (names : List String) : Prop where
  begins : ∀ name ∈ names.head?, name = start
  known : ∀ name ∈ names, (machine.state? name).isSome
  leads : names.IsChain machine.Edge

theorem IsWalk.concat {machine : Machine} {start name : String} {names : List String}
    (walk : machine.IsWalk start names) (known : (machine.state? name).isSome)
    (next : names = [] ∧ name = start ∨ ∃ last ∈ names.getLast?, machine.Edge last name) :
    machine.IsWalk start (names ++ [name]) where
  begins := by
    rcases next with ⟨rfl, rfl⟩ | ⟨last, mem, -⟩
    · simp
    · cases names with
      | nil => simp at mem
      | cons first names => simpa using walk.begins
  known other mem := by
    rcases List.mem_append.1 mem with mem | mem
    · exact walk.known other mem
    · rw [List.mem_singleton.1 mem]
      exact known
  leads := by
    refine List.isChain_append.2 ⟨walk.leads, List.isChain_singleton name, ?_⟩
    rcases next with ⟨rfl, -⟩ | ⟨last, mem, edge⟩
    · simp
    · intro source same target last
      simp_all

theorem names_str_iff {machine : Machine} {name : String} :
    machine.Names (.str name) ↔ (machine.state? name).isSome := by
  simp [Names]

theorem known_of_leadsTo {machine : Machine} (sound : machine.Sound) {state : State}
    (mem : state ∈ machine.states) {target : String} (leads : state.LeadsTo target) :
    (machine.state? target).isSome ∨ (state.IsStep ∧ target = "") := by
  rcases State.mem_transitions_of_leadsTo leads with ⟨field, listed⟩ | empty
  · exact .inl (names_str_iff.1 (sound.named state mem field _ listed))
  · exact .inr empty

end Machine

namespace Execution

def visited (execution : Execution) : List String := execution.trace.map Visit.state

def state? (execution : Execution) : Option State :=
  execution.visited.getLast?.bind execution.machine.state?

def Stands (execution : Execution) : Prop :=
  match execution.phase with
  | .ready next _ =>
    (execution.newestFirst = [] ∧ next = .str execution.startState) ∨
      ∃ state target, execution.state? = some state ∧ state.LeadsTo target ∧ next = .str target
  | .entered state _ => execution.state? = some state
  | .calling state _ _ | .sleeping state _ _ => execution.state? = some state ∧ state.IsStep
  | .finished (.succeeded _) _ => ∃ state, execution.state? = some state ∧ state.MaySucceed
  | .finished (.failed _) _ => True

structure Walks (execution : Execution) : Prop where
  walk : execution.machine.IsWalk execution.startState execution.visited
  stands : execution.Stands

theorem visited_eq (execution : Execution) :
    execution.visited = (execution.newestFirst.map Visit.state).reverse := by
  rw [visited, trace, List.map_reverse]

theorem getLast?_visited {execution : Execution} {state : State}
    (at_ : execution.state? = some state) : execution.visited.getLast? = some state.name ∧
      execution.machine.state? state.name = some state := by
  obtain ⟨name, last, found⟩ := Option.bind_eq_some_iff.1 at_
  rw [Machine.name_of_state? found]
  exact ⟨last, found⟩

theorem mem_states {execution : Execution} {state : State}
    (at_ : execution.state? = some state) : state ∈ execution.machine.states :=
  Machine.state?_mem (getLast?_visited at_).2

theorem walks_start (machine : Machine) (startState : String) (input : Json) (now : Int) :
    (start machine startState input now).Walks where
  walk := ⟨by simp [start, visited, trace], by simp [start, visited, trace],
    by simp [start, visited, trace]⟩
  stands := .inl ⟨rfl, rfl⟩

theorem allowed_of_yields {execution : Execution} (sound : execution.machine.Sound)
    (walks : execution.Walks) {event : Event} {state : State} {data : Data}
    {action : Except Failure Action} (yields : execution.Yields event state data action) :
    execution.state? = some state ∧ ∀ done, action = .ok done → state.Allows done := by
  have stands := walks.stands
  cases yields with
  | acted phase =>
    simp only [Stands, phase] at stands
    exact ⟨stands, fun done same => State.act_allowed sound (mem_states stands) same⟩
  | replied answer phase =>
    simp only [Stands, phase] at stands
    have checked := sound.checked state (mem_states stands.1)
    exact ⟨stands.1, fun done same => replyTo_allowed checked stands.2 same⟩
  | woken counted phase =>
    simp only [Stands, phase] at stands
    have checked := sound.checked state (mem_states stands.1)
    exact ⟨stands.1, fun done same => wakeIn_allowed checked stands.2 same⟩

theorem stands_ofAction {execution : Execution} {now : Int} {state : State} {data : Data}
    {action : Except Failure Action} (at_ : execution.state? = some state)
    (allowed : ∀ done, action = .ok done → state.Allows done) :
    { execution with phase := .ofAction now state data action }.Stands := by
  cases action with
  | error failure => trivial
  | ok done =>
    have allowed := allowed done rfl
    cases done with
    | go next output =>
      obtain ⟨target, same, leads⟩ := allowed
      exact .inr ⟨state, target, at_, leads, same⟩
    | finish output => exact ⟨state, at_, allowed⟩
    | call call =>
      obtain ⟨handler, timeout, kind⟩ := allowed
      exact ⟨at_, State.isStep_of_task kind⟩
    | sleep input seconds =>
      obtain ⟨delay, kind⟩ := allowed
      exact ⟨at_, State.isStep_of_wait kind⟩

theorem walks_enter {execution : Execution} (walks : execution.Walks) {now : Int} {next : Json}
    {data : Data} {state : State} (phase : execution.phase = .ready next data)
    (found : execution.machine.get next = .ok state) :
    { execution with
      newestFirst := ⟨state.name, Clock.now now, data⟩ :: execution.newestFirst
      phase := .entered state data }.Walks := by
  obtain ⟨name, rfl, known⟩ := Machine.get_eq_ok.1 found
  obtain rfl := Machine.name_of_state? known
  have visited : { execution with
      newestFirst := ⟨state.name, Clock.now now, data⟩ :: execution.newestFirst
      phase := .entered state data }.visited = execution.visited ++ [state.name] := by
    simp [visited_eq]
  constructor
  · rw [visited]
    refine walks.walk.concat (by simp [known]) ?_
    have stands := walks.stands
    simp only [Stands, phase] at stands
    rcases stands with ⟨first, equal⟩ | ⟨last, target, at_, leads, equal⟩
    · exact .inl ⟨by simp [visited_eq, first], Json.str.inj equal⟩
    · obtain ⟨last?, edge⟩ := getLast?_visited at_
      exact .inr ⟨last.name, last?, last, edge, Json.str.inj equal ▸ leads⟩
  · simpa [Stands, state?, visited] using known

theorem Move.walks {execution next : Execution} {event : Event}
    (move : execution.Move event next) (sound : execution.machine.Sound)
    (walks : execution.Walks) : next.Walks := by
  cases move with
  | stay => exact walks
  | cancel unfinished => exact ⟨walks.walk, walks.stands⟩
  | abort phase cancelled => exact ⟨walks.walk, trivial⟩
  | stray phase cancelled missing => exact ⟨walks.walk, trivial⟩
  | enter phase cancelled found => exact walks_enter walks phase found
  | act yields =>
    obtain ⟨at_, allowed⟩ := allowed_of_yields sound walks yields
    exact ⟨walks.walk, stands_ofAction at_ allowed⟩

theorem walks_after {execution : Execution} (sound : execution.machine.Sound)
    (walks : execution.Walks) (events : List Event) : (execution.after events).Walks := by
  induction events generalizing execution with
  | nil => exact walks
  | cons event events ih =>
    have move := move_advance execution event
    exact ih (move.machine ▸ sound) (move.walks sound walks)

/-- An execution that is about to leave a step whose `Next` is the empty name, which no state
has. -/
structure Strays (execution : Execution) : Prop where
  running : execution.cancelled = false
  leaving : ∃ data, execution.phase = .ready (.str "") data
  missing : execution.machine.state? "" = none
  left : ∃ state, execution.state? = some state ∧ state.IsStep ∧ state.ends = false ∧
    state.next = .str ""

theorem strays_of_missing {execution : Execution} (sound : execution.machine.Sound)
    (walks : execution.Walks) (known : (execution.machine.state? execution.startState).isSome)
    {next : Json} {data : Data} {cause : LookupError} (phase : execution.phase = .ready next data)
    (running : execution.cancelled = false) (missing : execution.machine.get next = .error cause) :
    execution.Strays ∧ cause = .noState (.str "") execution.machine.name := by
  have stands := walks.stands
  simp only [Stands, phase] at stands
  rcases stands with ⟨-, rfl⟩ | ⟨state, target, at_, leads, rfl⟩
  · obtain ⟨state, found⟩ := Option.isSome_iff_exists.1 known
    simp [Machine.get, found] at missing
  · rcases Machine.known_of_leadsTo sound (mem_states at_) leads with found | ⟨step, rfl⟩
    · obtain ⟨other, found⟩ := Option.isSome_iff_exists.1 found
      simp [Machine.get, found] at missing
    · obtain ⟨ends, next⟩ := step.leadsTo_iff.1 leads
      cases found : execution.machine.state? "" with
      | some other => simp [Machine.get, found] at missing
      | none =>
        refine ⟨⟨running, ⟨data, phase⟩, found, state, at_, step, ends, next⟩, ?_⟩
        simpa [Machine.get, found, eq_comm] using missing

theorem Strays.phase_advance {execution : Execution} (strays : execution.Strays) (time : Int) :
    (execution.advance ⟨time, .proceed⟩).phase =
      .finished (.failed (.lookup (.noState (.str "") execution.machine.name))) time := by
  obtain ⟨data, phase⟩ := strays.leaving
  simp [advance, Execution.step, phase, enter, strays.running, Machine.get, strays.missing, finish]

theorem advance_lookup_iff {execution : Execution} (sound : execution.machine.Sound)
    (walks : execution.Walks) (known : (execution.machine.state? execution.startState).isSome)
    (unfinished : execution.isFinished = false) {event : Event} {cause : LookupError} :
    (execution.advance event).ending? = some (.failed (.lookup cause)) ↔
      event.happening = .proceed ∧ execution.Strays ∧
        cause = .noState (.str "") execution.machine.name := by
  constructor
  · have move := move_advance execution event
    generalize execution.advance event = next at move
    intro failed
    obtain ⟨stopped, phase⟩ := ending?_eq_some.1 failed
    cases move with
    | stay => simp [isFinished, failed] at unfinished
    | cancel _ => simp [isFinished, ending?, show execution.phase = _ from phase] at unfinished
    | abort _ _ => cases phase
    | enter _ _ _ => cases phase
    | stray ready running missing =>
      cases phase
      exact ⟨rfl, strays_of_missing sound walks known ready running missing⟩
    | @act _ state data action yields =>
      rcases action with failure | _ | _ | _ | _ <;> cases phase
      exact absurd rfl (yields.looksUpNothing cause)
  · rintro ⟨happens, strays, rfl⟩
    obtain ⟨time, happening⟩ := event
    cases happens
    exact ending?_eq_some.2 ⟨time, strays.phase_advance time⟩

theorem ending_of_prefix {execution : Execution} {before rest : List Event} {event : Event}
    {ending : Ending} (ends : ((execution.after before).advance event).ending? = some ending) :
    (execution.after (before ++ event :: rest)).ending? = some ending := by
  rw [after_append, after_cons, after_of_isFinished (isFinished_iff.2 ⟨ending, ends⟩), ends]

/-- A run of a loaded machine asks for a state that does not exist exactly if at some moment, not
cancelled, it goes on from a step with an empty `Next`, and no state has the empty name. No machine
without such a step does so. -/
theorem lookup_fails_iff {raw : Json} {definition : Definition}
    (loaded : Definition.load raw = .ok definition) {machine : Machine}
    (mem : machine ∈ definition.machines) {startState : String}
    (known : (machine.state? startState).isSome) (input : Json) (now : Int) (events : List Event) :
    let started := start machine startState input now
    (∀ cause, (started.after events).ending? = some (.failed (.lookup cause)) ↔
      cause = .noState (.str "") machine.name ∧ ∃ before event rest,
        events = before ++ event :: rest ∧ event.happening = .proceed ∧
          (started.after before).Strays) ∧
    ((machine.state? "").isSome ∨ (∀ state ∈ machine.states,
        state.IsStep → state.ends = false → state.next ≠ .str "") →
      ∀ cause, (started.after events).ending? ≠ some (.failed (.lookup cause))) := by
  intro started
  have sound := Definition.sound_of_load loaded machine mem
  have fixed (before : List Event) : (started.after before).machine = machine :=
    machine_after started before
  have walks (before : List Event) : (started.after before).Walks :=
    walks_after sound (walks_start machine startState input now) before
  have step (before : List Event) (event : Event) (cause : LookupError)
      (unfinished : (started.after before).isFinished = false) :
      ((started.after before).advance event).ending? = some (.failed (.lookup cause)) ↔
        event.happening = .proceed ∧ (started.after before).Strays ∧
          cause = .noState (.str "") machine.name := by
    have known :
        ((started.after before).machine.state? (started.after before).startState).isSome := by
      rw [fixed before, startState_after]
      exact known
    rw [advance_lookup_iff (fixed before ▸ sound) (walks before) known unfinished, fixed before]
  have strays (cause : LookupError) :
      (started.after events).ending? = some (.failed (.lookup cause)) ↔
        cause = .noState (.str "") machine.name ∧ ∃ before event rest,
          events = before ++ event :: rest ∧ event.happening = .proceed ∧
            (started.after before).Strays := by
    constructor
    · intro failed
      obtain ⟨before, event, rest, rfl, unfinished, same⟩ :=
        exists_last_event (show started.isFinished = false from rfl)
          (isFinished_iff.2 ⟨_, failed⟩)
      obtain ⟨happens, strays, rfl⟩ := (step before event cause unfinished).1 (same ▸ failed)
      exact ⟨rfl, before, event, rest, rfl, happens, strays⟩
    · rintro ⟨rfl, before, event, rest, rfl, happens, strays⟩
      obtain ⟨data, phase⟩ := strays.leaving
      have unfinished : (started.after before).isFinished = false := by
        simp [isFinished, ending?, phase]
      exact ending_of_prefix ((step before event _ unfinished).2 ⟨happens, strays, rfl⟩)
  refine ⟨strays, fun safe cause failed => ?_⟩
  obtain ⟨-, before, event, rest, -, -, astray⟩ := (strays cause).1 failed
  obtain ⟨state, at_, step, ends, next⟩ := astray.left
  have missing := astray.missing
  have inside := mem_states at_
  rw [fixed before] at missing inside
  rcases safe with found | other
  · simp [missing] at found
  · exact other state inside step ends next

def emptyNext : Json :=
  .obj [("m", .obj [("StartAt", .str "A"),
    ("States", .obj [("A", .obj [("Type", .str "Pass"), ("Next", .str "")])])])]

def emptyNextMachine : Machine where
  name := "m"
  comment := .null
  startAt := "A"
  states := [.base "A" (.obj [("Type", .str "Pass"), ("Next", .str "")]) (.pass none)]

/-- Loading does not keep a run from asking for a state that does not exist. -/
theorem lookup_fails_after_empty_next :
    ¬ ∀ raw definition, Definition.load raw = .ok definition → ∀ machine ∈ definition.machines,
      ∀ startState, (machine.state? startState).isSome → ∀ input now events cause,
        ((start machine startState input now).after events).ending? ≠
          some (.failed (.lookup cause)) := by
  intro never
  exact never emptyNext ⟨[emptyNextMachine]⟩ rfl emptyNextMachine List.mem_cons_self "A" rfl
    .null 0 (List.replicate 3 ⟨0, .proceed⟩) (.noState (.str "") "m") rfl

theorem lookup_fails_iff_empty_next :
    Definition.load emptyNext = .ok ⟨[emptyNextMachine]⟩ ∧
    emptyNextMachine ∈ [emptyNextMachine] ∧ (emptyNextMachine.state? "A").isSome ∧
    ∀ cause, ((start emptyNextMachine "A" .null 0).after
        (List.replicate 3 ⟨0, .proceed⟩)).ending? = some (.failed (.lookup cause)) ↔
      cause = .noState (.str "") "m" ∧ ∃ before event rest,
        List.replicate 3 (⟨0, .proceed⟩ : Event) = before ++ event :: rest ∧
          event.happening = .proceed ∧ ((start emptyNextMachine "A" .null 0).after before).Strays :=
  ⟨rfl, List.mem_cons_self, rfl,
    (lookup_fails_iff (show Definition.load emptyNext = _ from rfl) List.mem_cons_self rfl .null 0
      _).1⟩

def IsUnstarted (execution : Execution) : Prop :=
  execution.trace = [] ∧ ∃ data, execution.phase = .ready (.str execution.startState) data

def IsIn (execution : Execution) (state : State) : Prop :=
  match execution.phase with
  | .entered at_ _ | .calling at_ _ _ | .sleeping at_ _ _ => at_ = state
  | _ => False

def IsLeaving (execution : Execution) (state : State) : Prop :=
  ∃ target data, execution.phase = .ready (.str target) data ∧ state.LeadsTo target

theorem place_of_walks {execution : Execution} (walks : execution.Walks)
    (unfinished : execution.isFinished = false) :
    execution.IsUnstarted ∨ ∃ state, execution.state? = some state ∧
      (execution.IsIn state ∨ execution.IsLeaving state) := by
  have stands := walks.stands
  cases phase : execution.phase with
  | ready next data =>
    simp only [Stands, phase] at stands
    rcases stands with ⟨first, rfl⟩ | ⟨state, target, at_, leads, rfl⟩
    · exact .inl ⟨by simp [trace, first], data, phase⟩
    · exact .inr ⟨state, at_, .inr ⟨target, data, phase, leads⟩⟩
  | entered state data =>
    simp only [Stands, phase] at stands
    exact .inr ⟨state, stands, .inl (by simp [IsIn, phase])⟩
  | calling state data call =>
    simp only [Stands, phase] at stands
    exact .inr ⟨state, stands.1, .inl (by simp [IsIn, phase])⟩
  | sleeping state input seconds =>
    simp only [Stands, phase] at stands
    exact .inr ⟨state, stands.1, .inl (by simp [IsIn, phase])⟩
  | finished ending stopped => simp [isFinished, ending?, phase] at unfinished

theorem exists_failing_event {execution : Execution} (sound : execution.machine.Sound)
    (walks : execution.Walks) (unfinished : execution.isFinished = false) {events : List Event}
    (finished : (execution.after events).isFinished = true) :
    ∃ before event rest, events = before ++ event :: rest ∧
      (execution.after before).advance event = execution.after events ∧
      (execution.after before).trace = (execution.after events).trace ∧
      ((execution.after before).IsUnstarted ∨
        ∃ state, (execution.after events).state? = some state ∧
          ((execution.after before).IsIn state ∨ (execution.after before).IsLeaving state)) := by
  obtain ⟨before, event, rest, split, still, same⟩ := exists_last_event unfinished finished
  have move := move_advance (execution.after before) event
  rw [same] at move
  have entries := move.newestFirst finished
  refine ⟨before, event, rest, split, same, by simp [trace, entries], ?_⟩
  have at_ : (execution.after events).state? = (execution.after before).state? := by
    simp [state?, visited, trace, entries, move.machine]
  rw [at_]
  exact place_of_walks (walks_after sound walks before) still

/-- The states that a run of a loaded machine enters are a walk of its definition. The run succeeds
only in a state that may be the last one, and it fails in the state entered last, on the way from it
or before the first one; nothing happens after that, and the error always has a name. -/
theorem run_walks {raw : Json} {definition : Definition}
    (loaded : Definition.load raw = .ok definition) {machine : Machine}
    (mem : machine ∈ definition.machines) (startState : String) (input : Json) (now : Int)
    (events : List Event) :
    let started := start machine startState input now
    let execution := started.after events
    machine.IsWalk startState execution.visited ∧
    ∀ ending, execution.ending? = some ending →
      (∀ more, execution.after more = execution) ∧
      (ending.status = .succeeded →
        (∃ state, execution.state? = some state ∧ state.MaySucceed) ∧
          ending.error = .null ∧ ending.cause = .null ∧ ending.failure?.isNone) ∧
      (ending.status = .failed →
        (∃ before event rest, events = before ++ event :: rest ∧
          (started.after before).advance event = execution ∧
          (started.after before).trace = execution.trace ∧
          ((started.after before).IsUnstarted ∨
            ∃ state, execution.state? = some state ∧
              ((started.after before).IsIn state ∨ (started.after before).IsLeaving state))) ∧
          ending.output = .null ∧ ending.error.isFalsy = false) := by
  intro started execution
  have sound := Definition.sound_of_load loaded machine mem
  have first := walks_start machine startState input now
  have walks : execution.Walks := walks_after sound first events
  have fixed : execution.machine = machine := machine_after started events
  have begun : execution.startState = startState := startState_after started events
  refine ⟨fixed ▸ begun ▸ walks.walk, fun ending ends => ?_⟩
  have finished := isFinished_iff.2 ⟨ending, ends⟩
  refine ⟨after_of_isFinished finished, fun succeeded => ?_, fun failed => ?_⟩
  · cases ending with
    | failed failure => cases succeeded
    | succeeded output =>
      obtain ⟨stopped, phase⟩ := ending?_eq_some.1 ends
      have stands := walks.stands
      simp only [Stands, phase] at stands
      exact ⟨stands, rfl, rfl, rfl⟩
  · cases ending with
    | succeeded output => cases failed
    | failed failure =>
      exact ⟨exists_failing_event sound first rfl finished, rfl, failure.isFalsy_name⟩

def namelessFailure : Json :=
  .obj [("m", .obj [("StartAt", .str "A"), ("States", .obj [
    ("A", .obj [("Type", .str "Pass"), ("Next", .str "B")]),
    ("B", .obj [("Type", .str "Fail"), ("Error", .str "")])])])]

def namelessFailureMachine : Machine where
  name := "m"
  comment := .null
  startAt := "A"
  states := [.base "A" (.obj [("Type", .str "Pass"), ("Next", .str "B")]) (.pass none),
    .base "B" (.obj [("Type", .str "Fail"), ("Error", .str "")]) (.fail (.str "") .null)]

theorem run_walks_to_nameless_failure :
    let execution := (start namelessFailureMachine "A" .null 0).after
      (List.replicate 4 ⟨0, .proceed⟩)
    Definition.load namelessFailure = .ok ⟨[namelessFailureMachine]⟩ ∧
    namelessFailureMachine ∈ [namelessFailureMachine] ∧ execution.visited = ["A", "B"] ∧
    namelessFailureMachine.IsWalk "A" execution.visited ∧
    execution.ending? = some (.failed (.failState (.str "") .null)) ∧
    (Ending.failed (.failState (.str "") .null)).error = .str "States.Fail" :=
  ⟨rfl, List.mem_cons_self, rfl,
    (run_walks (show Definition.load namelessFailure = _ from rfl) List.mem_cons_self "A" .null 0
      _).1,
    rfl, rfl⟩

end Execution

end StateFlow
