import Mathlib.Data.List.Forall2
import StateFlow.Json.Encode
import StateFlow.Machine.Load

/-!
Layouts of a definition. Each machine may stand as it is or under a key of its own, and so may all
of them together, as values or as text: `Layout` tells which values give the same machines, and
`layouts_load_alike` that loading makes no difference between them, whatever the machines are.
-/
namespace StateFlow.Definition

inductive Wraps (machine : Json) : Json → Prop
  | bare : Wraps machine machine
  | keyed {fields : List (String × Json)}
    (found : Json.lookup "definition" fields = some machine) : Wraps machine (.obj fields)

/-- The same names in the same order, with some of the machines under keys of their own. -/
def Rewraps (machines given : List (String × Json)) : Prop :=
  List.Forall₂ (fun machine entry => machine.1 = entry.1 ∧ Wraps machine.2 entry.2) machines given

/-- The values that give these machines: an object of them, or one that has such an object under its
key with any other members beside it. -/
inductive Layout (machines : List (String × Json)) : Json → Prop
  | bare {given : List (String × Json)} (rewraps : Rewraps machines given) :
    Layout machines (.obj given)
  | keyed {given fields : List (String × Json)} (rewraps : Rewraps machines given)
    (found : Json.lookup "stateMachines" fields = some (.obj given)) : Layout machines (.obj fields)

theorem Rewraps.refl (machines : List (String × Json)) : Rewraps machines machines :=
  List.forall₂_same.2 fun _ _ => ⟨rfl, .bare⟩

theorem Wraps.unwrapped_eq {machine given : Json} (wraps : Wraps machine given)
    (plain : machine.get? "definition" = none) : unwrapped given = machine := by
  cases wraps with
  | bare => rw [unwrapped, plain, Option.getD_none]
  | keyed found => rw [unwrapped, Json.get?, found, Option.getD_some]

def loadEach (machines : List (String × Json)) : Loading (List Machine) :=
  machines.mapM fun machine => Machine.load machine.1 machine.2

section rewraps

variable {machines given : List (String × Json)} (rewraps : Rewraps machines given)

include rewraps

theorem Rewraps.loadMachines_eq
    (plain : ∀ machine ∈ machines, machine.2.get? "definition" = none) :
    loadMachines given = loadEach machines := by
  induction rewraps with
  | nil => rfl
  | @cons machine entry machines given first _ ih =>
    obtain ⟨own, others⟩ := List.forall_mem_cons.1 plain
    obtain ⟨name, raw⟩ := entry
    obtain ⟨rfl, wraps⟩ := first
    simp only [loadMachines, wraps.unwrapped_eq own, ih others, loadEach, List.mapM_cons]

theorem Rewraps.lookup_eq_none {key : String} (free : Json.lookup key machines = none) :
    Json.lookup key given = none := by
  induction rewraps with
  | nil => rfl
  | @cons machine entry machines given first _ ih =>
    obtain ⟨name, raw⟩ := entry
    obtain ⟨rfl, -⟩ := first
    unfold Json.lookup at free ⊢
    split at free
    · cases free
    · next other => rw [if_neg other, ih free]

end rewraps

theorem Layout.ofValue_eq {machines : List (String × Json)} {value : Json}
    (layout : Layout machines value) (free : Json.lookup "stateMachines" machines = none)
    (plain : ∀ machine ∈ machines, machine.2.get? "definition" = none) :
    ofValue value = (loadEach machines).map Definition.mk := by
  cases layout with
  | bare rewraps =>
    rw [ofValue, machinesIn, rewraps.lookup_eq_none free, rewraps.loadMachines_eq plain]
  | keyed rewraps found => rw [ofValue, machinesIn, found, rewraps.loadMachines_eq plain]

/-- All layouts of machines load alike, with the machines in order or with the fault of the first
one that has any; and so does every text that is read as one of the layouts. -/
theorem layouts_load_alike {machines : List (String × Json)}
    (free : Json.lookup "stateMachines" machines = none)
    (plain : ∀ machine ∈ machines, machine.2.get? "definition" = none) {value : Json}
    (layout : Layout machines value) :
    load value = load (.obj machines) ∧
      (∀ text, Json.decode text = .ok value → load (.str text) = load (.obj machines)) ∧
      load (.obj machines) = (loadEach machines).map Definition.mk := by
  have bare : load (.obj machines) = (loadEach machines).map Definition.mk :=
    Layout.ofValue_eq (.bare (.refl machines)) free plain
  have same : ofValue value = load (.obj machines) := (layout.ofValue_eq free plain).trans bare.symm
  refine ⟨?_, fun text read => ?_, bare⟩
  · rw [← same]
    cases layout <;> rfl
  · rw [load, read]
    exact same

theorem layouts_load_alike_mixed :
    let machine := Json.obj [("StartAt", .str "A"),
      ("States", .obj [("A", .obj [("Type", .str "Succeed")])])]
    let machines := [("m", machine), ("n", .int 1)]
    let value := Json.obj [("v", .null), ("stateMachines",
      .obj [("m", machine), ("n", .obj [("definition", .int 1), ("w", .null)])])]
    Json.lookup "stateMachines" machines = none ∧
      (∀ machine ∈ machines, machine.2.get? "definition" = none) ∧ Layout machines value ∧
      Json.decode value.encode = .ok value ∧
      load value = .error (.definition (.machineNotObject "n")) ∧
      load (.str value.encode) = .error (.definition (.machineNotObject "n")) := by
  intro machine machines value
  have free : Json.lookup "stateMachines" machines = none := by decide
  have plain : ∀ machine ∈ machines, machine.2.get? "definition" = none := by decide
  have rewraps : Rewraps machines
      [("m", machine), ("n", .obj [("definition", .int 1), ("w", .null)])] :=
    .cons ⟨rfl, .bare⟩ (.cons ⟨rfl, .keyed rfl⟩ .nil)
  have layout : Layout machines value := .keyed rewraps rfl
  have read : Json.decode value.encode = .ok value := by decide +kernel
  have fault : load (.obj machines) = .error (.definition (.machineNotObject "n")) := rfl
  obtain ⟨same, texts, -⟩ := layouts_load_alike free plain layout
  exact ⟨free, plain, layout, read, same.trans fault, (texts _ read).trans fault⟩

end StateFlow.Definition
