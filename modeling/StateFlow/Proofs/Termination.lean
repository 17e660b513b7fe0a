import Mathlib.Data.List.Perm.Subperm
import Mathlib.Logic.Relation
import StateFlow.Proofs.Cancellation

/-!
Runs of machines without cycles. A walk of such a machine visits no state twice, so it is no longer
than the machine has states. `Execution.remaining` bounds the steps that an execution has left, and
every step of its own takes one of them: `acyclic_runs_end`.
-/
namespace StateFlow

namespace Machine

def IsAcyclic (machine : Machine) : Prop := ∀ name, ¬ Relation.TransGen machine.Edge name name

theorem isAcyclic_of_rank {machine : Machine} (rank : String → Nat)
    (falls : ∀ source target, machine.Edge source target → rank target < rank source) :
    machine.IsAcyclic := by
  have below {source target : String} (path : Relation.TransGen machine.Edge source target) :
      rank target < rank source := by
    induction path with
    | single edge => exact falls _ _ edge
    | tail _ edge ih => exact (falls _ _ edge).trans ih
  exact fun name cycle => (below cycle).false

theorem IsWalk.nodup {machine : Machine} {start : String} {names : List String}
    (walk : machine.IsWalk start names) (acyclic : machine.IsAcyclic) : names.Nodup := by
  have paths : names.IsChain (Relation.TransGen machine.Edge) :=
    walk.leads.imp fun _ _ edge => .single edge
  refine (List.isChain_iff_pairwise.1 paths).imp fun {source target} path => ?_
  rintro rfl
  exact acyclic source path

theorem IsWalk.length_le {machine : Machine} {start : String} {names : List String}
    (walk : machine.IsWalk start names) (acyclic : machine.IsAcyclic) :
    names.length ≤ machine.states.length := by
  have known : names ⊆ machine.states.map State.name := fun name mem => by
    obtain ⟨state, found⟩ := Option.isSome_iff_exists.1 (walk.known name mem)
    exact List.mem_map.2 ⟨state, state?_mem found, name_of_state? found⟩
  simpa using (List.subperm_of_subset (walk.nodup acyclic) known).length_le

end Machine

namespace State

theorem transition_of_merge {state : State} {data result : Data} {context : Json} {action : Action}
    (merged : state.merge data result context = .ok action) :
    ∃ output, action = state.transition output := by
  obtain ⟨placed, -, merged⟩ := bind_eq_ok.1 merged
  obtain ⟨output, -, merged⟩ := bind_eq_ok.1 merged
  exact ⟨output, (Except.ok.inj merged).symm⟩

end State

namespace Phase

/-- How many steps a phase is away from the next entry, that one included. -/
def rank : Phase → Nat
  | .finished _ _ => 0
  | .ready _ _ => 1
  | .calling _ _ _ | .sleeping _ _ _ => 2
  | .entered _ _ => 3

theorem rank_ofAction_le (now : Int) (state : State) (data : Data)
    (action : Except Failure Action) : (ofAction now state data action).rank ≤ 2 := by
  rcases action with _ | _ | _ | _ | _ <;> simp [ofAction, rank]

theorem rank_transition_le (now : Int) (state : State) (data output : Data) :
    (ofAction now state data (.ok (state.transition output))).rank ≤ 1 := by
  unfold State.transition
  split
  · unfold State.goOn
    split <;> simp [ofAction, rank]
  · simp [ofAction, rank]

end Phase

/-- What an execution meets in one step of its own: the clock, the answers of tasks, and whether it
is cancelled before. -/
structure Moment where
  time : Int
  tasks : Tasks
  cancels : Bool

namespace Execution

def live (execution : Execution) (moment : Moment) : Execution :=
  (if moment.cancels then execution.advance ⟨moment.time, .cancel⟩ else execution).follow
    moment.tasks moment.time

theorem exists_events (execution : Execution) (moments : List Moment) :
    ∃ events, moments.foldl live execution = execution.after events := by
  induction moments generalizing execution with
  | nil => exact ⟨[], rfl⟩
  | cons moment moments ih =>
    obtain ⟨rest, same⟩ := ih (execution.live moment)
    rw [List.foldl_cons, same]
    cases cancels : moment.cancels with
    | true =>
      exact ⟨⟨moment.time, .cancel⟩ :: ⟨moment.time, (execution.advance ⟨moment.time, .cancel⟩).due
        moment.tasks⟩ :: rest, by simp [live, cancels, follow]⟩
    | false =>
      exact ⟨⟨moment.time, execution.due moment.tasks⟩ :: rest, by simp [live, cancels, follow]⟩

/-- A bound of the steps that an execution has left, if no state is entered twice: three for every
state that is not entered yet, and those that its phase needs. -/
def remaining (execution : Execution) : Nat :=
  3 * (execution.machine.states.length - execution.trace.length) + execution.phase.rank

theorem rank_replyTo_le (execution : Execution) (now : Int) (state : State) (data : Data)
    (answer : Except TaskError Json) :
    (Phase.ofAction now state data (execution.replyTo state data answer)).rank ≤ 1 := by
  cases replied : execution.replyTo state data answer with
  | error failure => simp [Phase.ofAction, Phase.rank]
  | ok action =>
    cases answer with
    | error cause => cases replied
    | ok result =>
      obtain ⟨output, rfl⟩ := State.transition_of_merge replied
      exact Phase.rank_transition_le now state data output

theorem rank_wakeIn_le (execution : Execution) (now : Int) (state : State) (input : Data)
    (counted : Except SleepError Unit) :
    (Phase.ofAction now state input (execution.wakeIn state input counted)).rank ≤ 1 := by
  cases woken : execution.wakeIn state input counted with
  | error failure => simp [Phase.ofAction, Phase.rank]
  | ok action =>
    unfold wakeIn at woken
    split at woken
    · cases woken
    · obtain ⟨_, -, woken⟩ := bind_eq_ok.1 woken
      obtain ⟨output, -, woken⟩ := bind_eq_ok.1 woken
      cases woken
      exact Phase.rank_transition_le now state input output

theorem remaining_takeUp_lt {execution : Execution} {now : Int} {state : State} {data : Data}
    {action : Except Failure Action}
    (less : (Phase.ofAction now state data action).rank < execution.phase.rank) :
    (execution.takeUp now state data action).1.remaining < execution.remaining := by
  rw [takeUp_fst]
  exact Nat.add_lt_add_left less _

theorem remaining_enter_lt {execution : Execution} {now : Int} {next : Json} {data : Data}
    (phase : execution.phase = .ready next data)
    (bound : (execution.enter now next data).1.trace.length ≤ execution.machine.states.length) :
    (execution.enter now next data).1.remaining < execution.remaining := by
  unfold enter at bound ⊢
  split
  · simp [remaining, phase, finish, trace, Phase.rank]
  · next running =>
    split
    · simp [remaining, phase, finish, trace, Phase.rank]
    · next state found =>
      have bound : execution.newestFirst.length + 1 ≤ execution.machine.states.length := by
        simpa [running, found, trace] using bound
      simp only [remaining, phase, trace, Phase.rank, List.length_reverse, List.length_cons]
      omega

theorem remaining_follow_lt {execution : Execution} (unfinished : execution.isFinished = false)
    (tasks : Tasks) (now : Int)
    (bound : (execution.follow tasks now).trace.length ≤ execution.machine.states.length) :
    (execution.follow tasks now).remaining < execution.remaining := by
  unfold follow due advance step at bound ⊢
  cases phase : execution.phase with
  | ready next data =>
    simp only [phase] at bound ⊢
    exact remaining_enter_lt phase bound
  | entered state data =>
    refine remaining_takeUp_lt ?_
    rw [phase]
    exact Nat.lt_succ_of_le (Phase.rank_ofAction_le _ _ _ _)
  | calling state data call =>
    refine remaining_takeUp_lt ?_
    rw [phase]
    exact Nat.lt_succ_of_le (execution.rank_replyTo_le _ _ _ _)
  | sleeping state input seconds =>
    refine remaining_takeUp_lt ?_
    rw [phase]
    exact Nat.lt_succ_of_le (execution.rank_wakeIn_le _ _ _ _)
  | finished ending stopped => simp [isFinished, ending?, phase] at unfinished

theorem remaining_pos {execution : Execution} (unfinished : execution.isFinished = false) :
    0 < execution.remaining := by
  cases phase : execution.phase with
  | finished ending stopped => simp [isFinished, ending?, phase] at unfinished
  | _ => simp [remaining, phase, Phase.rank]

theorem remaining_live_lt {execution : Execution} (unfinished : execution.isFinished = false)
    (moment : Moment)
    (bound : (execution.live moment).trace.length ≤ execution.machine.states.length) :
    (execution.live moment).remaining < execution.remaining := by
  unfold live at bound ⊢
  split at bound
  · next cancels =>
    rw [if_pos cancels]
    rw [advance_cancel unfinished] at bound ⊢
    have unfinished : execution.marked.isFinished = false := unfinished
    have less : _ < execution.marked.remaining := remaining_follow_lt unfinished _ _ bound
    exact less
  · next runs =>
    rw [if_neg runs]
    exact remaining_follow_lt unfinished _ _ bound

theorem length_lt_remaining {execution : Execution} {moments : List Moment}
    (short : ∀ events, (execution.after events).trace.length ≤ execution.machine.states.length)
    (unfinished : (moments.foldl live execution).isFinished = false) :
    moments.length < execution.remaining := by
  induction moments generalizing execution with
  | nil => exact remaining_pos unfinished
  | cons moment moments ih =>
    obtain ⟨before, same⟩ := execution.exists_events [moment]
    have same : execution.live moment = execution.after before := same
    have begun : execution.isFinished = false := by
      by_contra ended
      obtain ⟨events, later⟩ := execution.exists_events (moment :: moments)
      rw [later, after_of_isFinished (by simpa using ended)] at unfinished
      exact ended unfinished
    have less := remaining_live_lt begun moment (same ▸ short before)
    have short (events : List Event) : ((execution.live moment).after events).trace.length ≤
        (execution.live moment).machine.states.length := by
      simpa [same, machine_after, ← after_append] using short (before ++ events)
    have rest := ih short unfinished
    rw [List.length_cons]
    omega

/-- A run of a loaded machine without cycles enters no state twice, whatever happens in it, and ends
after three steps for each state and one more at the latest. -/
theorem acyclic_runs_end {raw : Json} {definition : Definition}
    (loaded : Definition.load raw = .ok definition) {machine : Machine}
    (mem : machine ∈ definition.machines) (acyclic : machine.IsAcyclic) (startState : String)
    (input : Json) (now : Int) :
    let started := start machine startState input now
    (∀ events, (started.after events).visited.Nodup ∧
      (started.after events).visited.length ≤ machine.states.length) ∧
    ∀ moments : List Moment, 3 * machine.states.length < moments.length →
      let execution := moments.foldl live started
      (∃ ending, execution.ending? = some ending) ∧ execution.visited.Nodup ∧
        execution.visited.length ≤ machine.states.length := by
  intro started
  have sound := Definition.sound_of_load loaded machine mem
  have entries (events : List Event) : (started.after events).visited.Nodup ∧
      (started.after events).visited.length ≤ machine.states.length := by
    have walk := (walks_after sound (walks_start machine startState input now) events).walk
    rw [machine_after] at walk
    exact ⟨walk.nodup acyclic, walk.length_le acyclic⟩
  refine ⟨entries, ?_⟩
  intro moments long execution
  obtain ⟨events, same⟩ := started.exists_events moments
  have same : execution = started.after events := same
  refine ⟨isFinished_iff.1 ?_, same ▸ entries events⟩
  by_contra unfinished
  have short (events : List Event) :
      (started.after events).trace.length ≤ started.machine.states.length := by
    have := (entries events).2
    rwa [visited, List.length_map] at this
  have less : moments.length < 3 * machine.states.length + 1 :=
    length_lt_remaining short (by simpa using unfinished)
  omega

def threeSteps : Json :=
  .obj [("m", .obj [("StartAt", .str "A"), ("States", .obj [
    ("A", .obj [("Type", .str "Task"), ("handler", .str "handlers.echo"), ("Next", .str "B")]),
    ("B", .obj [("Type", .str "Wait"), ("Seconds", .int 1), ("Next", .str "C")]),
    ("C", .obj [("Type", .str "Succeed")])])])]

def threeStepsMachine : Machine where
  name := "m"
  comment := .null
  startAt := "A"
  states :=
    [.base "A" (.obj [("Next", .str "B")]) (.task "handlers.echo" none),
      .base "B" (.obj [("Next", .str "C")]) (.wait (.seconds (.int 1))),
      .base "C" .null .succeed]

theorem isAcyclic_threeStepsMachine : threeStepsMachine.IsAcyclic := by
  refine Machine.isAcyclic_of_rank
    (fun name => if name = "A" then 2 else if name = "B" then 1 else 0) fun source target edge => ?_
  obtain ⟨state, found, leads⟩ := edge
  obtain rfl := Machine.name_of_state? found
  have mem : state ∈ threeStepsMachine.states := Machine.state?_mem found
  simp only [threeStepsMachine, List.mem_cons, List.not_mem_nil, or_false] at mem
  rcases mem with rfl | rfl | rfl
  · cases leads.2
    decide
  · cases leads.2
    decide
  · exact leads.elim

def undisturbed : List Moment := List.replicate 10 ⟨0, fun _ _ => .ok .null, false⟩

theorem acyclic_runs_end_three_steps :
    Definition.load threeSteps = .ok ⟨[threeStepsMachine]⟩ ∧
    threeStepsMachine ∈ [threeStepsMachine] ∧ threeStepsMachine.IsAcyclic ∧
    3 * threeStepsMachine.states.length < undisturbed.length ∧
    (undisturbed.foldl live (start threeStepsMachine "A" .null 0)).visited = ["A", "B", "C"] ∧
    (∃ ending,
      (undisturbed.foldl live (start threeStepsMachine "A" .null 0)).ending? = some ending) ∧
    (undisturbed.foldl live (start threeStepsMachine "A" .null 0)).visited.Nodup ∧
    (undisturbed.foldl live (start threeStepsMachine "A" .null 0)).visited.length ≤
      threeStepsMachine.states.length := by
  have loaded : Definition.load threeSteps = .ok ⟨[threeStepsMachine]⟩ := rfl
  have long : 3 * threeStepsMachine.states.length < undisturbed.length := by decide
  have path : (undisturbed.foldl live (start threeStepsMachine "A" .null 0)).visited =
      ["A", "B", "C"] := by decide +kernel
  exact ⟨loaded, List.mem_cons_self, isAcyclic_threeStepsMachine, long, path,
    (acyclic_runs_end loaded List.mem_cons_self isAcyclic_threeStepsMachine "A" .null
      0).2 undisturbed long⟩

end Execution

end StateFlow
