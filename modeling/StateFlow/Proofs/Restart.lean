import StateFlow.Proofs.DataOnly
import StateFlow.Proofs.Operation
import StateFlow.Proofs.Path.Sharing

/-!
Restarts. A machine whose states keep to their data carries nothing from one state to the next but
its name and the data: an execution that is started at a state with the data of an earlier entry
goes the same way from there. `Execution.Alike` relates the two runs, `Alike.follow` is the step,
and `runs_can_be_restarted` the result. What is given to a start is a value, so that nothing may be
shared in the data of that entry: `shared_node_keeps_runs_from_restarting` is about data where a
list and an object in it hold one and the same node.
-/
namespace StateFlow

namespace Machine

def keepsToData (machine : Machine) : Bool := machine.states.all State.keepsToData

theorem keepsToData_of_get {machine : Machine} (keeps : machine.keepsToData = true) {next : Json}
    {state : State} (found : machine.get next = .ok state) : state.keepsToData = true := by
  obtain ⟨name, -, found⟩ := get_eq_ok.1 found
  exact List.all_eq_true.1 keeps state (List.mem_of_find?_eq_some found)

end Machine

namespace Phase

/-- The phase without the context of a call and without the time of an end. -/
def plain : Phase → Phase
  | .calling state data called => .calling state data { called with context := .null }
  | .finished ending _ => .finished ending 0
  | phase => phase

theorem plain_ofAction {action other : Except Failure Action}
    (same : action.map Action.plain = other.map Action.plain) (now later : Int) (state : State)
    (data : Data) :
    (ofAction now state data action).plain = (ofAction later state data other).plain := by
  have told (action : Except Failure Action) (now : Int) : (ofAction now state data action).plain =
      (ofAction 0 state data (action.map Action.plain)).plain := by
    rcases action with _ | _ | _ | _ | _ <;> rfl
  rw [told action, told other, same]

def keepsToData : Phase → Bool
  | .entered state _ | .calling state _ _ | .sleeping state _ _ => state.keepsToData
  | .ready _ _ | .finished _ _ => true

theorem keepsToData_ofAction {state : State} (keeps : state.keepsToData = true) (now : Int)
    (data : Data) (action : Except Failure Action) :
    (ofAction now state data action).keepsToData = true := by
  rcases action with _ | _ | _ | _ | _ <;> first | rfl | exact keeps

end Phase

namespace Execution

def driven (tasks : Tasks) (clock : Nat → Int) (execution : Execution) : Nat → Execution
  | 0 => execution
  | steps + 1 => (execution.driven tasks clock steps).follow tasks (clock steps)

def entries (execution : Execution) : List (String × Data) :=
  execution.trace.map fun visit => (visit.state, visit.input)

/-- Two executions of a machine, of which the first one has made some entries before, go the same
way. -/
structure Alike (before : List (String × Data)) (first second : Execution) : Prop where
  machine : first.machine = second.machine
  keeps : first.machine.keepsToData = true
  running : first.cancelled = false
  alsoRunning : second.cancelled = false
  phase : first.phase.plain = second.phase.plain
  inside : first.phase.keepsToData = true
  entries : first.entries = before ++ second.entries

variable {tasks : Tasks} {before : List (String × Data)}
variable {first second : Execution}

theorem Alike.takeUp (alike : Alike before first second) {state : State}
    (keeps : state.keepsToData = true) (data : Data) {action other : Except Failure Action}
    (same : action.map Action.plain = other.map Action.plain) (now later : Int) :
    Alike before (first.takeUp now state data action).1
      (second.takeUp later state data other).1 := by
  rw [takeUp_fst, takeUp_fst]
  exact ⟨alike.machine, alike.keeps, alike.running, alike.alsoRunning,
    Phase.plain_ofAction same now later state data,
    Phase.keepsToData_ofAction keeps now data action, alike.entries⟩

theorem enter_of_missing {execution : Execution} (running : execution.cancelled = false)
    {next : Json} {cause : LookupError} (missing : execution.machine.get next = .error cause)
    (now : Int) (data : Data) :
    (execution.enter now next data).1 =
      { execution with phase := .finished (.failed (.lookup cause)) now } := by
  simp [Execution.enter, running, missing, finish]

theorem enter_of_found {execution : Execution} (running : execution.cancelled = false)
    {next : Json} {state : State} (found : execution.machine.get next = .ok state) (now : Int)
    (data : Data) :
    (execution.enter now next data).1 =
      { execution with
        newestFirst := ⟨state.name, Clock.now now, data⟩ :: execution.newestFirst
        phase := .entered state data } := by
  simp [Execution.enter, running, found]

theorem Alike.enter (alike : Alike before first second) (next : Json) (data : Data)
    (now later : Int) :
    Alike before (first.enter now next data).1 (second.enter later next data).1 := by
  have machine := alike.machine
  cases found : first.machine.get next with
  | error cause =>
    rw [enter_of_missing alike.running found, enter_of_missing alike.alsoRunning (machine ▸ found)]
    exact ⟨machine, alike.keeps, alike.running, alike.alsoRunning, rfl, rfl, alike.entries⟩
  | ok state =>
    rw [enter_of_found alike.running found, enter_of_found alike.alsoRunning (machine ▸ found)]
    have entries : first.entries ++ [(state.name, data)] =
        before ++ (second.entries ++ [(state.name, data)]) := by
      rw [alike.entries, List.append_assoc]
    refine ⟨machine, alike.keeps, alike.running, alike.alsoRunning, rfl,
      Machine.keepsToData_of_get alike.keeps found, ?_⟩
    simpa [Execution.entries, trace] using entries

theorem replyTo_plain {state : State} (keeps : state.keepsToData = true) (data : Data)
    (answer : Except TaskError Json) :
    (first.replyTo state data answer).map Action.plain =
      (second.replyTo state data answer).map Action.plain := by
  cases answer with
  | error cause => rfl
  | ok result =>
    rw [replyTo, replyTo, State.merge_of_data keeps data _ first.context second.context]

theorem Alike.wakeIn_plain (alike : Alike before first second) {state : State}
    (keeps : state.keepsToData = true) (input : Data) (counted : Except SleepError Unit) :
    (first.wakeIn state input counted).map Action.plain =
      (second.wakeIn state input counted).map Action.plain := by
  simp only [wakeIn, alike.running, alike.alsoRunning,
    State.outputOf_of_data keeps input first.context second.context]
  rfl

theorem Alike.follow (alike : Alike before first second) (now later : Int) :
    Alike before (first.follow tasks now) (second.follow tasks later) := by
  have phase := alike.phase
  have inside := alike.inside
  unfold Execution.follow due advance step
  -- by the phase that both are in; they may differ in the context of a call and in the time of an
  -- end, which nothing below looks at
  cases here : first.phase with
  | ready next data =>
    have there : second.phase = .ready next data := by
      cases there : second.phase <;> simp_all [Phase.plain]
    rw [there]
    exact alike.enter next data now later
  | entered state data =>
    have there : second.phase = .entered state data := by
      cases there : second.phase <;> simp_all [Phase.plain]
    rw [here] at inside
    rw [there]
    exact alike.takeUp inside data
      (state.act_plain inside data first.context second.context now later) now later
  | calling state data call =>
    obtain ⟨other, there, handler, input⟩ : ∃ other, second.phase = .calling state data other ∧
        other.handler = call.handler ∧ other.input = call.input := by
      cases there : second.phase <;> simp_all [Phase.plain]
    rw [here] at inside
    rw [there]
    dsimp only
    rw [handler, input]
    exact alike.takeUp inside data (replyTo_plain inside data _) now later
  | sleeping state input seconds =>
    have there : second.phase = .sleeping state input seconds := by
      cases there : second.phase <;> simp_all [Phase.plain]
    rw [here] at inside
    rw [there]
    exact alike.takeUp inside input (alike.wakeIn_plain inside input seconds.sleepable) now later
  | finished ending stopped =>
    obtain ⟨other, there⟩ : ∃ other, second.phase = .finished ending other := by
      cases there : second.phase <;> simp_all [Phase.plain]
    rw [there]
    exact alike

variable {clock : Nat → Int}

theorem driven_add (execution : Execution) (lag steps : Nat) :
    execution.driven tasks clock (lag + steps) =
      (execution.driven tasks clock lag).driven tasks (fun step => clock (lag + step)) steps := by
  induction steps with
  | zero => rfl
  | succ steps ih => rw [← Nat.add_assoc, driven, driven, ih]

theorem Alike.driven (alike : Alike before first second) (tasks : Tasks) (clock other : Nat → Int)
    (steps : Nat) :
    Alike before (first.driven tasks clock steps) (second.driven tasks other steps) := by
  induction steps with
  | zero => exact alike
  | succ steps ih => exact ih.follow (clock steps) (other steps)

theorem Alike.ending? (alike : Alike before first second) : first.ending? = second.ending? := by
  have told (execution : Execution) : execution.ending? =
      { execution with phase := execution.phase.plain }.ending? := by
    cases phase : execution.phase <;> simp [Execution.ending?, phase, Phase.plain]
  rw [told first, told second]
  simp only [Execution.ending?, alike.phase]

theorem driven_machine (execution : Execution) (steps : Nat) :
    (execution.driven tasks clock steps).machine = execution.machine := by
  induction steps with
  | zero => rfl
  | succ steps ih => rw [driven, follow, (move_advance _ _).machine, ih]

theorem ending?_driven_add {execution : Execution} {steps : Nat} {ending : Ending}
    (ends : (execution.driven tasks clock steps).ending? = some ending) (more : Nat) :
    (execution.driven tasks clock (steps + more)).ending? = some ending := by
  induction more with
  | zero => exact ends
  | succ more ih =>
    rw [← Nat.add_assoc, driven, follow, advance_of_isFinished (isFinished_iff.2 ⟨ending, ih⟩), ih]

theorem trace_follow (execution : Execution) (tasks : Tasks) (now : Int) :
    (execution.follow tasks now).trace = execution.trace ∨
      ∃ visit state, (execution.follow tasks now).trace = execution.trace ++ [visit] ∧
        (execution.follow tasks now).phase = .entered state visit.input ∧
        execution.machine.state? visit.state = some state := by
  unfold follow
  generalize (⟨now, execution.due tasks⟩ : Event) = event
  have move := execution.move_advance event
  generalize execution.advance event = next at move
  cases move with
  | @enter now next data state phase running found =>
    obtain ⟨name, -, known⟩ := Machine.get_eq_ok.1 found
    obtain rfl := Machine.name_of_state? known
    exact .inr ⟨⟨state.name, Clock.now now, data⟩, state, by simp [trace], rfl, known⟩
  | _ => exact .inl rfl

theorem exists_entry {execution : Execution} (fresh : execution.trace = []) {visit : Visit}
    {earlier later : List Visit} {steps : Nat}
    (trace : (execution.driven tasks clock steps).trace = earlier ++ visit :: later) :
    ∃ lag state, (execution.driven tasks clock lag).trace = earlier ++ [visit] ∧
      (execution.driven tasks clock lag).phase = .entered state visit.input ∧
      execution.machine.state? visit.state = some state := by
  -- on the steps: the last one made no entry or a later one, or it made the entry itself
  induction steps generalizing later with
  | zero => simp [driven, fresh] at trace
  | succ steps ih =>
    rcases (execution.driven tasks clock steps).trace_follow tasks (clock steps) with
      same | ⟨last, state, longer, phase, known⟩
    · exact ih (same ▸ trace)
    · rw [driven, longer] at trace
      rcases List.eq_nil_or_concat later with rfl | ⟨rest, final, rfl⟩
      · obtain ⟨rfl, entry⟩ := List.append_inj' trace rfl
        obtain rfl : last = visit := by simpa using entry
        exact ⟨steps + 1, state, longer, phase, driven_machine execution steps ▸ known⟩
      · rw [List.concat_eq_append, ← List.cons_append, ← List.append_assoc] at trace
        exact ih (List.append_inj' trace rfl).1

theorem alike_start {machine : Machine} (keeps : machine.keepsToData = true) (startState : String)
    (input : Json) (now : Int) :
    Alike [] (start machine startState input now) (start machine startState input now) :=
  ⟨rfl, keeps, rfl, rfl, rfl, rfl, rfl⟩

/-- The first step of an execution that is started at an entry takes it to where that entry was. -/
theorem alike_restart {machine : Machine} (keeps : machine.keepsToData = true)
    {execution : Execution} (same : execution.machine = machine)
    (going : execution.cancelled = false) {visit : Visit} {earlier : List Visit}
    (trace : execution.trace = earlier ++ [visit]) {state : State}
    (phase : execution.phase = .entered state visit.input)
    (known : machine.state? visit.state = some state) (given : visit.input.value ≠ .null)
    (unshared : visit.input.shared = []) (tasks : Tasks) (resumed : Int) (again : Nat → Int) :
    Alike (earlier.map fun visit => (visit.state, visit.input)) execution
      ((start machine visit.state visit.input.value resumed).driven tasks again 1) := by
  have found : machine.get (.str visit.state) = .ok state := Machine.get_eq_ok.2 ⟨_, rfl, known⟩
  have input : Data.ofJson (if visit.input.value = .null then .obj [] else visit.input.value) =
      visit.input := by
    rw [if_neg given]
    exact (Data.eq_ofJson_iff.2 ⟨rfl, unshared⟩).symm
  have first : (start machine visit.state visit.input.value resumed).driven tasks again 1 =
      ((start machine visit.state visit.input.value resumed).enter (again 0) (.str visit.state)
        visit.input).1 := by
    simp only [Execution.driven, Execution.follow, advance, step, due, start, input]
  have running : (start machine visit.state visit.input.value resumed).cancelled = false := rfl
  rw [first, enter_of_found running found]
  refine ⟨same, same ▸ keeps, going, rfl, ?_, ?_, ?_⟩
  · rw [phase]
  · rw [phase]
    exact Machine.keepsToData_of_get keeps found
  · rw [entries, trace]
    simp [entries, Execution.trace, start, Machine.name_of_state? known]

end Execution

theorem Definition.begin_of_known {definition : Definition} {name : String} {machine : Machine}
    (known : definition.machine? name = some machine) {startState : String} {state : State}
    (inside : machine.state? startState = some state) (named : startState ≠ "") {now : Int}
    {text : String} (readable : Clock.text now = .ok text) (input : Json) :
    definition.begin now (.str name) input (.str startState) =
      .ok (.start machine startState input now) := by
  have machine_ok : definition.getMachine (.str name) = .ok machine := by
    simp [getMachine, known]
  have found : machine.get (.str startState) = .ok state := Machine.get_eq_ok.2 ⟨_, rfl, inside⟩
  have full : (Json.str startState).isFalsy = false := by simpa [Json.isFalsy] using named
  simp only [begin, machine_ok, found, full, readable, Except.mapError, bind, Except.bind,
    Machine.name_of_state? inside, Bool.false_eq_true, if_false]
  rfl

/-- A run can be restarted at any entry that names a state and has data in which nothing is shared.
The engine starts the same machine there. From the entry on the run that is started enters the
states that the first run enters, with the same data, and has the same end whenever that has one. -/
theorem runs_can_be_restarted {engine : Engine} {name : String} {machine : Machine}
    (known : engine.definition.machine? name = some machine) (keeps : machine.keepsToData = true)
    (tasks : Tasks) {startState : String} {input : Json} {now : Int}
    {clock : Nat → Int} {steps : Nat} {earlier later : List Visit} {visit : Visit}
    (entered : ((Execution.start machine startState input now).driven tasks clock steps).trace =
      earlier ++ visit :: later)
    (named : visit.state ≠ "") (given : visit.input.value ≠ .null)
    (unshared : visit.input.shared = []) {resumed : Int} {text : String}
    (readable : Clock.text resumed = .ok text) (again : Nat → Int) :
    let original := (Execution.start machine startState input now).driven tasks clock
    let restart := Execution.start machine visit.state visit.input.value resumed
    (∃ next,
      engine.start resumed (.str name) visit.input.value (.str visit.state) = .ok next ∧
        next.executions = engine.executions ++ [restart]) ∧
    (∃ lag, ∀ n,
      (original (lag + n)).entries = earlier.map (fun visit => (visit.state, visit.input)) ++
        (restart.driven tasks again (n + 1)).entries ∧
      (original (lag + n)).ending? = (restart.driven tasks again (n + 1)).ending?) ∧
    ∀ ending, (∃ n, (original n).ending? = some ending) ↔
      ∃ n, (restart.driven tasks again n).ending? = some ending := by
  intro original restart
  obtain ⟨lag, state, trace, phase, inside⟩ := Execution.exists_entry rfl entered
  have started := (Execution.alike_start keeps startState input now).driven tasks clock clock lag
  have alike (n : Nat) : Execution.Alike (earlier.map fun visit => (visit.state, visit.input))
      (original (lag + n)) (restart.driven tasks again (n + 1)) := by
    have joined := Execution.alike_restart keeps (Execution.driven_machine _ lag) started.running
      trace phase inside given unshared tasks resumed again
    have onwards := joined.driven tasks (fun step => clock (lag + step))
      (fun step => again (1 + step)) n
    rw [← Execution.driven_add, ← Execution.driven_add, Nat.add_comm 1 n] at onwards
    exact onwards
  refine ⟨⟨engine.enlist restart, ?_, rfl⟩, ⟨lag, fun n => ⟨(alike n).entries, (alike n).ending?⟩⟩,
    fun ending => ⟨?_, ?_⟩⟩
  · rw [Engine.start_eq, Definition.begin_of_known known inside named readable]
    rfl
  · rintro ⟨n, ends⟩
    have later := Execution.ending?_driven_add ends lag
    exact ⟨n + 1, (alike n).ending? ▸ Nat.add_comm n lag ▸ later⟩
  · rintro ⟨n, ends⟩
    have later := Execution.ending?_driven_add ends 1
    exact ⟨lag + n, (alike n).ending?.trans later⟩

def Execution.twoPasses : Machine where
  name := "m"
  comment := .null
  startAt := "A"
  states :=
    [.base "A" (.obj [("Type", .str "Pass"), ("Next", .str "B")]) (.pass (some (.int 1))),
      .base "B" (.obj [("Type", .str "Pass"), ("End", .bool true)]) (.pass none)]

def Engine.twoPasses : Engine where
  definition := ⟨[Execution.twoPasses]⟩
  invoker := ⟨Invoker.usualTimeoutMillis, Invoker.usualRoot, none⟩
  journal := ⟨.disabled, []⟩
  executions := []
  live := []

theorem second_pass_can_be_restarted :
    let tasks : Tasks := fun _ _ => .ok .null
    let run (execution : Execution) := execution.driven tasks fun _ => 0
    let original := Execution.start Execution.twoPasses "A" .null 0
    let restart := Execution.start Execution.twoPasses "B" (.int 1) 0
    Engine.twoPasses.definition.machine? "m" = some Execution.twoPasses ∧
    Execution.twoPasses.keepsToData = true ∧
    (run original 3).trace =
      [⟨"A", Clock.now 0, .ofJson (.obj [])⟩] ++ ⟨"B", Clock.now 0, .ofJson (.int 1)⟩ :: [] ∧
    (∃ text, Clock.text 0 = .ok text) ∧
    ∀ ending, (∃ n, (run original n).ending? = some ending) ↔
      ∃ n, (run restart n).ending? = some ending := by
  intro tasks run original restart
  have keeps : Execution.twoPasses.keepsToData = true := by decide
  have entered : (run original 3).trace =
      [⟨"A", Clock.now 0, .ofJson (.obj [])⟩] ++
        ⟨"B", Clock.now 0, .ofJson (.int 1)⟩ :: [] := rfl
  have readable : ∃ text, Clock.text 0 = .ok text := ⟨_, rfl⟩
  refine ⟨rfl, keeps, entered, readable, ?_⟩
  obtain ⟨text, readable⟩ := readable
  have known : Engine.twoPasses.definition.machine? "m" = some Execution.twoPasses := rfl
  exact (runs_can_be_restarted known keeps tasks entered (by decide) (by simp) rfl readable
    fun _ => 0).2.2

namespace Execution

def findNodesFields : List (String × Json) :=
  [("Type", .str "Pass"), ("InputPath", .str "$..node"), ("Next", .str "B")]

def markSecondFields : List (String × Json) :=
  [("Type", .str "Pass"), ("Result", .bool true), ("ResultPath", .str "$[1].done"),
    ("End", .bool true)]

def findNodes : State := .base "A" (.obj findNodesFields) (.pass none)

def markSecond : State := .base "B" (.obj markSecondFields) (.pass (some (.bool true)))

def nodesDefinition : Json :=
  .obj [("m", .obj [("StartAt", .str "A"),
    ("States", .obj [("A", .obj findNodesFields), ("B", .obj markSecondFields)])])]

def nodesMachine : Machine where
  name := "m"
  comment := .null
  startAt := "A"
  states := [findNodes, markSecond]

theorem load_nodesDefinition : Definition.load nodesDefinition = .ok ⟨[nodesMachine]⟩ := rfl

theorem act_findNodes (context : Json) (now : Int) :
    findNodes.act (.ofJson Data.nested) context now = .ok (.go (.str "B") .nodes) := by
  have input : findNodes.effectiveInput (.ofJson Data.nested) context = .ok .nodes := by
    rw [State.effectiveInput_of_data (by decide) _ context .null]
    exact congrArg (Except.mapError (.ofReported .path)) Data.applyTo_nested
  change (findNodes.effectiveInput (.ofJson Data.nested) context >>= _) = _
  rw [input]
  rfl

theorem act_markSecond {data after : Data}
    (placed : ResultPath.place data (.str "$[1].done") (.ofJson (.bool true)) = .ok after)
    (context : Json) (now : Int) :
    markSecond.act data context now = .ok (.finish after.value) := by
  change (State.merge markSecond data (.ofJson (.bool true)) context) = _
  rw [State.merge, show markSecond.resultPath = .str "$[1].done" from rfl, placed]
  rfl

def doneNode : Json :=
  .arr [.obj [("id", .int 1), ("node", .obj [("id", .int 2)])],
    .obj [("id", .int 2), ("done", .bool true)]]

def noTasks : Tasks := fun _ _ => .ok .null

theorem driven_two {execution : Execution} (running : execution.cancelled = false) {next : Json}
    {data : Data} (phase : execution.phase = .ready next data) {state : State}
    (found : execution.machine.get next = .ok state) {action : Except Failure Action}
    (acts : ∀ context now, state.act data context now = action) (tasks : Tasks)
    (clock : Nat → Int) :
    execution.driven tasks clock 2 =
      { execution with
        newestFirst := ⟨state.name, Clock.now (clock 0), data⟩ :: execution.newestFirst
        phase := .ofAction (clock 1) state data action } := by
  simp only [driven, follow, due, phase, advance, step, enter_of_found running found, proceedIn,
    acts, takeUp_fst]

def betweenNodes : Execution :=
  { start nodesMachine "A" Data.nested 0 with
    newestFirst := [⟨"A", Clock.now 0, .ofJson Data.nested⟩]
    phase := .ready (.str "B") .nodes }

theorem driven_nodesMachine :
    (start nodesMachine "A" Data.nested 0).driven noTasks (fun _ => 0) 4 =
      { betweenNodes with
        newestFirst := ⟨"B", Clock.now 0, .nodes⟩ :: betweenNodes.newestFirst
        phase := .finished (.succeeded Data.doneNodes.value) 0 } := by
  have first : (start nodesMachine "A" Data.nested 0).driven noTasks (fun _ => 0) 2 =
      betweenNodes := @driven_two (start nodesMachine "A" Data.nested 0) rfl _ _ rfl findNodes rfl _
        act_findNodes noTasks fun _ => 0
  rw [driven_add _ 2 2, first]
  exact @driven_two betweenNodes rfl _ _ rfl markSecond rfl _ (act_markSecond Data.place_nodes)
    noTasks fun _ => 0

theorem ending?_restarted_nodesMachine :
    ((start nodesMachine "B" Data.nodes.value 0).driven noTasks (fun _ => 0) 2).ending? =
      some (.succeeded doneNode) := by
  have placed : ResultPath.place (.ofJson Data.nodes.value) (.str "$[1].done")
      (.ofJson (.bool true)) = .ok (.ofJson doneNode) := rfl
  rw [@driven_two (start nodesMachine "B" Data.nodes.value 0) rfl _ _ rfl markSecond rfl _
    (act_markSecond placed)]
  rfl

end Execution

/-- A run cannot be restarted at every entry: what a value tells of its data does not tell which
object is the same as another, and so where a result is placed. -/
theorem shared_node_keeps_runs_from_restarting :
    ¬ ∀ raw definition, Definition.load raw = .ok definition → ∀ machine ∈ definition.machines,
      machine.keepsToData = true → ∀ (tasks : Tasks) startState input now clock steps earlier
        (visit : Visit) later,
        ((Execution.start machine startState input now).driven tasks clock steps).trace =
          earlier ++ visit :: later →
        visit.state ≠ "" → visit.input.value ≠ .null → ∀ resumed again ending,
          (∃ n, ((Execution.start machine startState input now).driven tasks clock n).ending? =
            some ending) ↔
          ∃ n, ((Execution.start machine visit.state visit.input.value resumed).driven tasks again
            n).ending? = some ending := by
  intro always
  have original := Execution.driven_nodesMachine
  have entered : ((Execution.start Execution.nodesMachine "A" Data.nested 0).driven
      Execution.noTasks (fun _ => 0) 4).trace =
        [⟨"A", Clock.now 0, .ofJson Data.nested⟩] ++ ⟨"B", Clock.now 0, .nodes⟩ :: [] := by
    rw [original]
    rfl
  have same := always Execution.nodesDefinition _ Execution.load_nodesDefinition
    Execution.nodesMachine List.mem_cons_self (by decide) _ _ _ _ _ _ _ _ _ entered (by decide)
    nofun 0 (fun _ => 0) (.succeeded Data.doneNodes.value)
  obtain ⟨n, ends⟩ := same.1 ⟨4, by rw [original]; rfl⟩
  have other := Execution.ending?_driven_add Execution.ending?_restarted_nodesMachine n
  rw [Nat.add_comm 2 n, Execution.ending?_driven_add ends 2] at other
  cases other

end StateFlow
