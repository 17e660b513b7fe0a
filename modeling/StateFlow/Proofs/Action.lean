import StateFlow.Proofs.Choice
import StateFlow.Proofs.Run

/-!
What a state may do, told from its fields alone. `act_allowed`, `replyTo_allowed` and
`wakeIn_allowed` say that a checked state does nothing else: it goes on to what its definition
names, it ends the execution only where its definition says so, and only tasks call and only waits
sleep.
-/
namespace StateFlow

namespace State

/-- Tasks, passes and waits: they go on by their `Next`, or are last by their `End`. -/
def IsStep (state : State) : Prop :=
  match state.kind with
  | .task _ _ | .pass _ | .wait _ => True
  | _ => False

/-- What the definition of a state names as the state after it; an empty default is none. -/
def LeadsTo (state : State) (target : String) : Prop :=
  match state.kind with
  | .task _ _ | .pass _ | .wait _ => state.ends = false ∧ state.next = .str target
  | .choice choices default =>
    (∃ rule ∈ choices, rule.next = .str target) ∨
      (default.isFalsy = false ∧ default = .str target)
  | _ => False

def MaySucceed (state : State) : Prop :=
  match state.kind with
  | .succeed => True
  | .task _ _ | .pass _ | .wait _ => state.ends = true
  | _ => False

def Allows (state : State) : Action → Prop
  | .go next _ => ∃ target, next = .str target ∧ state.LeadsTo target
  | .finish _ => state.MaySucceed
  | .call _ => ∃ handler timeout, state.kind = .task handler timeout
  | .sleep _ _ => ∃ delay, state.kind = .wait delay

theorem isStep_of_task {state : State} {handler : String} {timeout : Option Number}
    (kind : state.kind = .task handler timeout) : state.IsStep := by
  simp [IsStep, kind]

theorem isStep_of_wait {state : State} {delay : Delay} (kind : state.kind = .wait delay) :
    state.IsStep := by
  simp [IsStep, kind]

theorem IsStep.leadsTo_iff {state : State} (step : state.IsStep) {target : String} :
    state.LeadsTo target ↔ state.ends = false ∧ state.next = .str target := by
  unfold IsStep at step
  unfold LeadsTo
  split at step <;> simp_all

theorem mem_transitions_of_leadsTo {state : State} {target : String}
    (leads : state.LeadsTo target) :
    (∃ field, (field, .str target) ∈ state.transitions) ∨ (state.IsStep ∧ target = "") := by
  by_cases step : state.IsStep
  · obtain ⟨-, next⟩ := step.leadsTo_iff.1 leads
    by_cases empty : target = ""
    · exact .inr ⟨step, empty⟩
    · refine .inl ⟨"Next", ?_⟩
      unfold IsStep at step
      split at step <;> simp_all [transitions, Json.isFalsy]
  · refine .inl ?_
    unfold LeadsTo at leads
    split at leads
    · simp_all [IsStep]
    · simp_all [IsStep]
    · simp_all [IsStep]
    · next choices default kind =>
      rcases leads with ⟨rule, inside, next⟩ | ⟨given, same⟩
      · exact next ▸ mem_transitions_of_rule kind inside
      · exact ⟨"Default", same ▸ mem_transitions_of_default kind given⟩
    · exact leads.elim

theorem IsStep.isTerminal_eq {state : State} (step : state.IsStep) :
    state.isTerminal = state.ends := by
  unfold IsStep at step
  unfold isTerminal
  split at step <;> simp_all

theorem IsStep.exists_next {state : State} (step : state.IsStep) (checked : state.Checked)
    (ends : state.ends = false) : ∃ target, state.next = .str target := by
  unfold IsStep at step
  unfold Checked at checked
  split at step <;> simp_all

theorem transition_allowed {state : State} (checked : state.Checked) (step : state.IsStep)
    (data : Data) : state.Allows (state.transition data) := by
  have terminal := step.isTerminal_eq
  cases ends : state.ends with
  | true =>
    have last : state.MaySucceed := by
      unfold IsStep at step
      unfold MaySucceed
      split at step <;> simp_all
    simpa [transition, nextState, terminal, ends, Allows] using last
  | false =>
    obtain ⟨target, next⟩ := step.exists_next checked ends
    have leads := step.leadsTo_iff.2 ⟨ends, next⟩
    simpa [transition, nextState, terminal, ends, goOn, next, Allows] using leads

theorem merge_allowed {state : State} (checked : state.Checked) (step : state.IsStep)
    {data result : Data} {context : Json} {action : Action}
    (h : state.merge data result context = .ok action) : state.Allows action := by
  obtain ⟨placed, -, h⟩ := bind_eq_ok.1 h
  obtain ⟨output, -, h⟩ := bind_eq_ok.1 h
  cases h
  exact transition_allowed checked step output

end State

theorem next_of_chooseNext {state : String} {default data context : Json} {rules : List Rule}
    {next : Json} (h : chooseNext state default data context rules = .ok next) :
    (∃ rule ∈ rules, rule.next = next) ∨ (next = default ∧ default.isFalsy = false) := by
  cases chooseNext_eq_iff.1 h with
  | matched before after passed holds => exact .inl ⟨_, by simp, rfl⟩
  | default passed given => exact .inr ⟨rfl, given⟩

namespace State

theorem choice_allowed {machine : Machine} (sound : machine.Sound) {state : State}
    (mem : state ∈ machine.states) {choices : List Rule} {default next data context : Json}
    {input : Data} (kind : state.kind = .choice choices default)
    (chosen : chooseNext state.name default data context choices = .ok next) :
    state.Allows (goOn next input) := by
  suffices named : ∃ target, next = .str target ∧ state.LeadsTo target by
    obtain ⟨target, rfl, leads⟩ := named
    simpa [goOn, Allows] using leads
  rcases next_of_chooseNext chosen with ⟨rule, inside, rfl⟩ | ⟨rfl, given⟩
  · obtain ⟨field, listed⟩ := mem_transitions_of_rule kind inside
    obtain ⟨target, same, -⟩ := sound.named state mem field rule.next listed
    exact ⟨target, same, by simpa [LeadsTo, kind] using .inl ⟨rule, inside, same⟩⟩
  · obtain ⟨target, same, -⟩ :=
      sound.named state mem "Default" next (mem_transitions_of_default kind given)
    exact ⟨target, same, by simpa [LeadsTo, kind] using .inr ⟨given, same⟩⟩

theorem act_allowed {machine : Machine} (sound : machine.Sound) {state : State}
    (mem : state ∈ machine.states) {data : Data} {context : Json} {now : Int} {action : Action}
    (h : state.act data context now = .ok action) : state.Allows action := by
  have checked := sound.checked state mem
  unfold act at h
  split at h
  · next handler timeout kind =>
    obtain ⟨input, -, h⟩ := bind_eq_ok.1 h
    obtain ⟨millis, -, h⟩ := bind_eq_ok.1 h
    cases h
    exact ⟨handler, timeout, kind⟩
  · next result kind =>
    obtain ⟨input, -, h⟩ := bind_eq_ok.1 h
    exact merge_allowed checked (by simp [IsStep, kind]) h
  · next delay kind =>
    obtain ⟨input, -, h⟩ := bind_eq_ok.1 h
    obtain ⟨seconds, -, h⟩ := bind_eq_ok.1 h
    obtain ⟨told, -, h⟩ := bind_eq_ok.1 h
    cases h
    exact ⟨delay, kind⟩
  · next choices default kind =>
    obtain ⟨input, -, h⟩ := bind_eq_ok.1 h
    obtain ⟨next, chosen, h⟩ := bind_eq_ok.1 h
    cases h
    exact choice_allowed sound mem kind (mapError_eq_ok.1 chosen)
  · next kind =>
    obtain ⟨input, -, h⟩ := bind_eq_ok.1 h
    obtain ⟨output, -, h⟩ := bind_eq_ok.1 h
    cases h
    simp [Allows, MaySucceed, kind]
  · cases h
  · cases h
  · cases h

end State

def LooksUpNothing {α : Type} (outcome : Except Failure α) : Prop :=
  ∀ cause, outcome ≠ .error (.lookup cause)

namespace LooksUpNothing

theorem ok {α : Type} (a : α) : LooksUpNothing (.ok a) := by simp [LooksUpNothing]

theorem error {α : Type} {failure : Failure} (other : ∀ cause, failure ≠ .lookup cause) :
    LooksUpNothing (.error failure : Except Failure α) := by
  simpa [LooksUpNothing] using other

theorem bind {α β : Type} {x : Except Failure α} {f : α → Except Failure β}
    (first : LooksUpNothing x) (later : ∀ a, LooksUpNothing (f a)) : LooksUpNothing (x >>= f) := by
  intro cause h
  rcases bind_eq_error.1 h with h | ⟨a, -, h⟩
  · exact first cause h
  · exact later a cause h

theorem mapError {α ε : Type} {x : Except ε α} {f : ε → Failure}
    (other : ∀ e cause, f e ≠ .lookup cause) : LooksUpNothing (x.mapError f) := by
  intro cause h
  obtain ⟨e, -, same⟩ := mapError_eq_error.1 h
  exact other e cause same

theorem ofReported {α ε : Type} {x : Except (Reported ε) α} {f : ε → Failure}
    (other : ∀ e cause, f e ≠ .lookup cause) : LooksUpNothing (x.mapError (.ofReported f)) :=
  mapError fun e cause => by cases e <;> simp [Failure.ofReported, other]

end LooksUpNothing

namespace State

theorem effectiveInput_looksUpNothing (state : State) (data : Data) (context : Json) :
    LooksUpNothing (state.effectiveInput data context) := .ofReported (by simp)

theorem outputOf_looksUpNothing (state : State) (data : Data) (context : Json) :
    LooksUpNothing (state.outputOf data context) := .ofReported (by simp)

theorem merge_looksUpNothing (state : State) (data result : Data) (context : Json) :
    LooksUpNothing (state.merge data result context) :=
  .bind (.ofReported (by simp)) fun placed =>
    .bind (state.outputOf_looksUpNothing placed context) fun _ => .ok _

theorem ownTimeout_looksUpNothing (timeout : Option Number) :
    LooksUpNothing (ownTimeout timeout) := by
  cases timeout with
  | none => exact .ok none
  | some seconds =>
    intro cause
    cases whole : seconds.thousandfold.whole <;>
      simp [ownTimeout, whole, Except.mapError, Except.map]

theorem told_looksUpNothing (seconds : Number) : LooksUpNothing (told seconds) := by
  unfold told
  split
  · exact .ok seconds
  · exact .error (by simp)

theorem act_looksUpNothing (state : State) (data : Data) (context : Json) (now : Int) :
    LooksUpNothing (state.act data context now) := by
  have input := state.effectiveInput_looksUpNothing data context
  unfold act
  split
  · exact input.bind fun _ => (ownTimeout_looksUpNothing _).bind fun _ => .ok _
  · exact input.bind fun _ => state.merge_looksUpNothing _ _ _
  · exact input.bind fun _ => .bind (.ofReported (by simp)) fun seconds =>
      (told_looksUpNothing seconds).bind fun _ => .ok _
  · refine input.bind fun _ => .bind (.ofReported fun choice => ?_) fun _ => .ok _
    cases choice <;> simp [Failure.ofChoice]
  · exact input.bind fun value => (state.outputOf_looksUpNothing value context).bind fun _ => .ok _
  · exact .error (by simp)
  · exact .error (by simp)
  · exact .error (by simp)

end State

namespace Execution

theorem Yields.looksUpNothing {execution : Execution} {event : Event} {state : State} {data : Data}
    {action : Except Failure Action} (yields : execution.Yields event state data action) :
    LooksUpNothing action := by
  cases yields with
  | acted phase => exact state.act_looksUpNothing data _ _
  | replied answer phase =>
    cases answer with
    | ok result => exact state.merge_looksUpNothing data (.ofJson result) _
    | error failed => exact .error (by simp)
  | woken counted phase =>
    unfold wakeIn
    split
    · exact .error (by simp)
    · exact .bind (.mapError (by simp)) fun _ =>
        (state.outputOf_looksUpNothing _ _).bind fun _ => .ok _

theorem replyTo_allowed {execution : Execution} {state : State} (checked : state.Checked)
    (step : state.IsStep) {data : Data} {answer : Except TaskError Json} {action : Action}
    (h : execution.replyTo state data answer = .ok action) : state.Allows action := by
  cases answer with
  | error cause => cases h
  | ok result => exact State.merge_allowed checked step h

theorem wakeIn_allowed {execution : Execution} {state : State} (checked : state.Checked)
    (step : state.IsStep) {input : Data} {counted : Except SleepError Unit} {action : Action}
    (h : execution.wakeIn state input counted = .ok action) : state.Allows action := by
  unfold wakeIn at h
  split at h
  · cases h
  · obtain ⟨_, -, h⟩ := bind_eq_ok.1 h
    obtain ⟨output, -, h⟩ := bind_eq_ok.1 h
    cases h
    exact State.transition_allowed checked step output

end Execution

end StateFlow
