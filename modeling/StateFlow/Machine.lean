import StateFlow.Number
import StateFlow.Rule

/-!
State machines. A state has fields common to all kinds and the fields of its kind; a machine has
named states in order and a start state; a definition has named machines in order.
-/
namespace StateFlow

inductive Delay where
  | unset
  | seconds (value : Json)
  | secondsPath (path : Json)
  | timestamp (value : Json)
  | timestampPath (path : Json)
  deriving DecidableEq

inductive StateKind where
  | task (handler : String) (timeoutSeconds : Option Number)
  | pass (result : Option Json)
  | wait (delay : Delay)
  | choice (choices : List Rule) (default : Json)
  | succeed
  | fail (error cause : Json)
  | parallel
  | map

/-- `ends` holds of a state that is marked as the last one. -/
structure State where
  name : String
  comment : Json
  next : Json
  ends : Bool
  inputPath : Json
  outputPath : Json
  resultPath : Json
  kind : StateKind

structure Machine where
  name : String
  comment : Json
  startAt : String
  states : List State

structure Definition where
  machines : List Machine

def StateKind.typeName : StateKind → String
  | .task _ _ => "Task"
  | .pass _ => "Pass"
  | .wait _ => "Wait"
  | .choice _ _ => "Choice"
  | .succeed => "Succeed"
  | .fail _ _ => "Fail"
  | .parallel => "Parallel"
  | .map => "Map"

namespace State

def isTerminal (state : State) : Bool :=
  match state.kind with
  | .succeed | .fail _ _ => true
  | _ => state.ends

def nextState (state : State) : Option Json :=
  if state.isTerminal then none else some state.next

private def choiceTransitions (index : Nat) : List Rule → List (String × Json)
  | [] => []
  | rule :: rules =>
    ("Choices[" ++ String.ofList (Decimal.digits index) ++ "].Next", rule.next) ::
      choiceTransitions (index + 1) rules

def transitions (state : State) : List (String × Json) :=
  match state.kind with
  | .succeed | .fail _ _ => []
  | .choice choices default =>
    choiceTransitions 0 choices ++ if default.isFalsy then [] else [("Default", default)]
  | _ => if state.next.isFalsy then [] else [("Next", state.next)]

private theorem mem_choiceTransitions {rule : Rule} {rules : List Rule} (mem : rule ∈ rules)
    (index : Nat) : ∃ field, (field, rule.next) ∈ choiceTransitions index rules := by
  induction rules generalizing index with
  | nil => simp at mem
  | cons first rules ih =>
    rcases List.mem_cons.1 mem with rfl | mem
    · exact ⟨_, List.mem_cons_self⟩
    · obtain ⟨field, found⟩ := ih mem (index + 1)
      exact ⟨field, List.mem_cons_of_mem _ found⟩

theorem mem_transitions_of_rule {state : State} {choices : List Rule} {default : Json} {rule : Rule}
    (kind : state.kind = .choice choices default) (mem : rule ∈ choices) :
    ∃ field, (field, rule.next) ∈ state.transitions := by
  obtain ⟨field, found⟩ := mem_choiceTransitions mem 0
  exact ⟨field, by simp [transitions, kind, found]⟩

theorem mem_transitions_of_default {state : State} {choices : List Rule} {default : Json}
    (kind : state.kind = .choice choices default) (given : default.isFalsy = false) :
    ("Default", default) ∈ state.transitions := by
  simp [transitions, kind, given]

def className (state : State) : String := state.kind.typeName ++ "State"

def summary (state : State) : String :=
  state.className ++ "(" ++ (Json.str state.name).quoted ++ ")"

end State

/-- What a lookup by name finds nothing for. Only texts are names; an object or a list cannot even
be looked up. -/
inductive LookupError where
  | noMachine (machine : Json)
  | noState (state : Json) (machine : String)
  | unhashable (value : Json)

def LookupError.message : LookupError → String
  | .noMachine machine => "State Machine \"" ++ machine.display ++ "\" does not exist"
  | .noState state machine =>
    "State \"" ++ state.display ++ "\" does not exist in State Machine \"" ++ machine ++ "\""
  | .unhashable value => "unhashable type: '" ++ value.kindName ++ "'"

namespace Json

def isHashable : Json → Bool
  | .arr _ | .obj _ => false
  | _ => true

end Json

namespace Machine

def state? (machine : Machine) (name : String) : Option State :=
  machine.states.find? fun state => state.name == name

def get (machine : Machine) (name : Json) : Except LookupError State :=
  match name with
  | .str s => match machine.state? s with
    | some state => .ok state
    | none => .error (.noState name machine.name)
  | name => .error (if name.isHashable then .noState name machine.name else .unhashable name)

theorem get_eq_ok {machine : Machine} {value : Json} {state : State} :
    machine.get value = .ok state ↔
      ∃ name, value = .str name ∧ machine.state? name = some state := by
  cases value with
  | str name => cases found : machine.state? name <;> simp [get, found]
  | _ => simp [get]

theorem name_of_state? {machine : Machine} {name : String} {state : State}
    (h : machine.state? name = some state) : state.name = name := by
  simpa using List.find?_some h

end Machine

namespace Definition

def machine? (definition : Definition) (name : String) : Option Machine :=
  definition.machines.find? fun machine => machine.name == name

def machineNames (definition : Definition) : List String := definition.machines.map Machine.name

def getMachine (definition : Definition) (name : Json) : Except LookupError Machine :=
  match name with
  | .str s => match definition.machine? s with
    | some machine => .ok machine
    | none => .error (.noMachine name)
  | name => .error (if name.isHashable then .noMachine name else .unhashable name)

def get (definition : Definition) (machine state : Json) : Except LookupError State := do
  (← definition.getMachine machine).get state

end Definition

inductive Part where
  | definition
  | machine
  | state (state : State)
  | rule (rule : Rule)

def Part.className : Part → String
  | .definition => "StateMachineDefinition"
  | .machine => "StateMachine"
  | .state s => s.className
  | .rule r => if r.operator?.isSome then "CombinatorRule" else "ComparisonRule"

def Part.readOnlyMessage (part : Part) : String := part.className ++ " is read-only after load"

end StateFlow
