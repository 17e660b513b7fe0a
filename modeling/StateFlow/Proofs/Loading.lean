import Mathlib.Tactic.SplitIfs
import StateFlow.Machine.Load
import StateFlow.Proofs.Except

/-!
What a loaded definition holds. `State.Checked` is what the reader of one state makes sure of, and
`Machine.Sound` adds that whatever a state names is a state of its machine. Only an empty `Next` is
not looked up: the search for what a state names skips whatever is empty.
-/
namespace StateFlow

namespace Rule

theorem isText_iff {value : Json} : isText value = true ↔ ∃ s, value = .str s := by
  cases value <;> simp [isText]

theorem next_of_ofComparison {location : String} {fields : List (String × Json)} {rule : Rule}
    (h : ofComparison location fields = .ok rule) :
    rule.next = (Json.lookup "Next" fields).getD .null := by
  unfold ofComparison at h
  split at h
  · split at h
    · cases h
    · dsimp only at h
      split_ifs at h
      cases h
      rfl
    · cases h
  · cases h

theorem next_of_joinNested {location : String} {op : Operator} {next value : Json} {rule : Rule}
    (h : joinNested location op next value = .ok rule) : rule.next = next := by
  unfold joinNested at h
  split at h
  · cases h
  · split_ifs at h
    obtain ⟨first, -, h⟩ := bind_eq_ok.1 h
    obtain ⟨others, -, h⟩ := bind_eq_ok.1 h
    cases op <;> cases h <;> rfl
  · obtain ⟨nested, -, h⟩ := bind_eq_ok.1 h
    cases op <;> cases h <;> rfl

theorem next_of_parse {location : String} {raw : Json} {rule : Rule}
    (h : parse location true raw = .ok rule) : ∃ target, rule.next = .str target := by
  unfold parse at h
  split at h
  · next fields =>
    dsimp only at h
    split at h
    · cases h
    · next text =>
      have text : isText ((Json.lookup "Next" fields).getD .null) = true := by simpa using text
      obtain ⟨target, same⟩ := isText_iff.1 text
      refine ⟨target, same ▸ ?_⟩
      split at h
      · exact next_of_ofComparison h
      · split_ifs at h
        split at h
        · cases h
        · exact next_of_joinNested h
  · cases h

end Rule

namespace State

/-- What the reader of a state makes sure of: where the state goes on to, as far as that can be told
without the other states. -/
def Checked (state : State) : Prop :=
  match state.kind with
  | .task _ _ | .pass _ | .wait _ => state.ends = false → ∃ target, state.next = .str target
  | .choice choices _ => ∀ rule ∈ choices, ∃ target, rule.next = .str target
  | _ => True

theorem next_of_checkNext {state : State} (h : checkNext state = .ok ())
    (goesOn : state.ends = false) : ∃ target, state.next = .str target := by
  simp only [checkNext, goesOn, Bool.false_eq_true, if_false] at h
  split at h
  · next target same => exact ⟨target, same⟩
  · cases h

theorem next_of_readChoices {name : String} {index : Nat} {raws : List Json} {choices : List Rule}
    (h : readChoices name index raws = .ok choices) :
    ∀ rule ∈ choices, ∃ target, rule.next = .str target := by
  induction raws generalizing index choices with
  | nil =>
    cases h
    simp
  | cons raw raws ih =>
    simp only [readChoices] at h
    split at h
    · next rule parsed =>
      obtain ⟨rules, read, h⟩ := bind_eq_ok.1 h
      cases h
      simpa using ⟨Rule.next_of_parse parsed, ih read⟩
    · cases h

theorem not_choice_of_readTask {name : String} {raw : Json} {kind : StateKind}
    (h : readTask name raw = .ok kind) (choices : List Rule) (default : Json) :
    kind ≠ .choice choices default := by
  unfold readTask at h
  split at h
  · split at h
    · obtain ⟨timeout, -, h⟩ := bind_eq_ok.1 h
      cases h
      simp
    · cases h
  · cases h

theorem kind_of_readChecked {name : String} {raw : Json} {kind : Loading StateKind} {state : State}
    (h : readChecked name raw kind = .ok state) : kind = .ok state.kind := by
  obtain ⟨_, -, h⟩ := bind_eq_ok.1 h
  obtain ⟨found, read, h⟩ := bind_eq_ok.1 h
  cases h
  exact read

theorem checked_of_readChecked {name : String} {raw : Json} {kind : Loading StateKind}
    {state : State} (h : readChecked name raw kind = .ok state)
    (plain : ∀ found choices default, kind = .ok found → found ≠ .choice choices default) :
    state.Checked := by
  obtain ⟨_, checked, h⟩ := bind_eq_ok.1 h
  obtain ⟨found, read, h⟩ := bind_eq_ok.1 h
  cases h
  have goesOn := next_of_checkNext checked
  have plain := plain found
  cases found with
  | choice choices default => exact absurd rfl (plain choices default read)
  | _ => first | exact goesOn | trivial

theorem checked_of_readChoice {name : String} {raw : Json} {kind : StateKind}
    (h : readChoice name raw = .ok kind) : (base name raw kind).Checked := by
  unfold readChoice at h
  split at h
  · obtain ⟨choices, read, h⟩ := bind_eq_ok.1 h
    cases h
    exact next_of_readChoices read
  · cases h

theorem checked_of_load {name : String} {raw : Json} {state : State}
    (h : load name raw = .ok state) : state.Checked := by
  unfold load at h
  split at h
  · split at h
    · exact checked_of_readChecked h fun _ choices default read =>
        not_choice_of_readTask read choices default
    · exact checked_of_readChecked h fun _ _ _ read => by cases read; simp
    · refine checked_of_readChecked h fun _ _ _ read => ?_
      obtain ⟨_, -, rfl⟩ := map_eq_ok.1 read
      simp
    · obtain ⟨kind, read, rfl⟩ := map_eq_ok.1 h
      exact checked_of_readChoice read
    · cases h
      trivial
    · cases h
      trivial
    · exact checked_of_readChecked h fun _ _ _ read => by cases read; simp
    · exact checked_of_readChecked h fun _ _ _ read => by cases read; simp
    · exact absurd h refuseKey_ne_ok
  · cases h

theorem readTask_of_load {name handler : String} {raw : Json} {state : State}
    {timeout : Option Number} (h : load name raw = .ok state)
    (kind : state.kind = .task handler timeout) :
    readTask name raw = .ok (.task handler timeout) := by
  have apart {other : Loading StateKind} (read : readChecked name raw other = .ok state) :
      other = .ok (.task handler timeout) := by rw [kind_of_readChecked read, kind]
  unfold load at h
  split at h
  · split at h
    · exact apart h
    · cases apart h
    · obtain ⟨delay, -, other⟩ := map_eq_ok.1 (apart h)
      cases other
    · obtain ⟨other, read, rfl⟩ := map_eq_ok.1 h
      unfold readChoice at read
      split at read
      · obtain ⟨choices, -, read⟩ := bind_eq_ok.1 read
        cases read
        cases kind
      · cases read
    · cases h
      cases kind
    · cases h
      cases kind
    · cases apart h
    · cases apart h
    · exact absurd h refuseKey_ne_ok
  · cases h

end State

namespace Machine

def Names (machine : Machine) (value : Json) : Prop :=
  ∃ name, value = .str name ∧ (machine.state? name).isSome

/-- Whatever the states of a machine name is a state of it. -/
structure Sound (machine : Machine) : Prop where
  checked : ∀ state ∈ machine.states, state.Checked
  named : ∀ state ∈ machine.states, ∀ field target, (field, target) ∈ state.transitions →
    machine.Names target
  start : machine.Names (.str machine.startAt)

theorem state?_mem {machine : Machine} {name : String} {state : State}
    (h : machine.state? name = some state) : state ∈ machine.states := List.mem_of_find?_eq_some h

theorem names_iff (machine : Machine) {value : Json} :
    names machine.states value = .ok true ↔ machine.Names value := by
  cases value with
  | str name => simp [names, Names, state?, pure, Except.pure]
  | _ => simp [names, Names, Json.isHashable, pure, Except.pure]

theorem exists_of_loadStates {raws : List (String × Json)} {states : List State}
    (h : loadStates raws = .ok states) :
    ∀ state ∈ states, ∃ name raw, State.load name raw = .ok state := by
  induction raws generalizing states with
  | nil =>
    cases h
    simp
  | cons raw raws ih =>
    obtain ⟨first, read, h⟩ := bind_eq_ok.1 h
    obtain ⟨others, rest, h⟩ := bind_eq_ok.1 h
    cases h
    simpa using ⟨⟨_, _, read⟩, ih rest⟩

theorem named_of_checkTransitions {machine : Machine} {label : String} {state : State}
    {targets : List (String × Json)}
    (h : checkTransitions label machine.states state targets = .ok ()) :
    ∀ field target, (field, target) ∈ targets → machine.Names target := by
  induction targets with
  | nil => simp
  | cons first targets ih =>
    obtain ⟨named, found, h⟩ := bind_eq_ok.1 h
    split at h
    · next isNamed =>
      intro field target mem
      rcases List.mem_cons.1 mem with same | mem
      · cases same
        exact (names_iff machine).1 (by rw [found, isNamed])
      · exact ih h field target mem
    · exact absurd h refuseKey_ne_ok

theorem named_of_checkStates {machine : Machine} {label : String} {states : List State}
    (h : checkStates label machine.states states = .ok ()) :
    ∀ state ∈ states, ∀ field target, (field, target) ∈ state.transitions →
      machine.Names target := by
  induction states with
  | nil => simp
  | cons state states ih =>
    obtain ⟨⟨⟩, first, h⟩ := bind_eq_ok.1 h
    simpa using ⟨named_of_checkTransitions first, ih h⟩

theorem load_cases {name : String} {raw : Json} {machine : Machine}
    (h : load name raw = .ok machine) :
    ∃ raws start, loadStates raws = .ok machine.states ∧
      names machine.states start = .ok true ∧
      checkStates name machine.states machine.states = .ok () ∧
      machine.startAt = start.display := by
  unfold load at h
  split at h
  · split at h
    · obtain ⟨states, read, h⟩ := bind_eq_ok.1 h
      obtain ⟨named, found, h⟩ := bind_eq_ok.1 h
      split at h
      · next isNamed =>
        obtain ⟨⟨⟩, checked, h⟩ := bind_eq_ok.1 h
        cases h
        exact ⟨_, _, read, isNamed ▸ found, checked, rfl⟩
      · exact absurd h refuseKey_ne_ok
    · cases h
  · cases h

theorem exists_of_load {name : String} {raw : Json} {machine : Machine}
    (h : load name raw = .ok machine) :
    ∀ state ∈ machine.states, ∃ name raw, State.load name raw = .ok state := by
  obtain ⟨raws, -, read, -⟩ := load_cases h
  exact exists_of_loadStates read

theorem sound_of_load {name : String} {raw : Json} {machine : Machine}
    (h : load name raw = .ok machine) : machine.Sound := by
  obtain ⟨raws, start, read, named, checked, same⟩ := load_cases h
  refine ⟨fun state mem => ?_, named_of_checkStates checked, ?_⟩
  · obtain ⟨name, raw, read⟩ := exists_of_loadStates read state mem
    exact State.checked_of_load read
  · obtain ⟨first, rfl, present⟩ := (names_iff machine).1 named
    exact ⟨first, by rw [same]; rfl, present⟩

end Machine

namespace Definition

section forall_of_load

variable {p : Machine → Prop}
  (each : ∀ name raw machine, Machine.load name raw = .ok machine → p machine)

include each

theorem forall_of_loadMachines {raws : List (String × Json)} {machines : List Machine}
    (h : loadMachines raws = .ok machines) : ∀ machine ∈ machines, p machine := by
  induction raws generalizing machines with
  | nil =>
    cases h
    simp
  | cons raw raws ih =>
    obtain ⟨first, read, h⟩ := bind_eq_ok.1 h
    obtain ⟨others, rest, h⟩ := bind_eq_ok.1 h
    cases h
    simpa using ⟨each _ _ _ read, ih rest⟩

theorem forall_of_ofValue {raw : Json} {definition : Definition}
    (h : ofValue raw = .ok definition) : ∀ machine ∈ definition.machines, p machine := by
  unfold ofValue at h
  split at h
  · obtain ⟨machines, read, rfl⟩ := map_eq_ok.1 h
    exact forall_of_loadMachines each read
  · cases h

theorem forall_of_load {raw : Json} {definition : Definition}
    (h : Definition.load raw = .ok definition) : ∀ machine ∈ definition.machines, p machine := by
  unfold load at h
  split at h
  · split at h
    · exact forall_of_ofValue each h
    · cases h
  · exact forall_of_ofValue each h

end forall_of_load

theorem sound_of_load {raw : Json} {definition : Definition}
    (h : Definition.load raw = .ok definition) :
    ∀ machine ∈ definition.machines, machine.Sound :=
  forall_of_load (fun _ _ _ => Machine.sound_of_load) h

theorem exists_of_load {raw : Json} {definition : Definition}
    (h : Definition.load raw = .ok definition) :
    ∀ machine ∈ definition.machines, ∀ state ∈ machine.states,
      ∃ name raw, State.load name raw = .ok state :=
  forall_of_load (fun _ _ _ => Machine.exists_of_load) h

end Definition

end StateFlow
