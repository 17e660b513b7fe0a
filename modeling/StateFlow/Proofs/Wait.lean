import StateFlow.Proofs.Run
import StateFlow.Proofs.Sleep

/-!
Waits. `Delay.IsTooLong` tells from the fields of a state and its input which delays no clock counts,
and `Execution.Unwritten` where a text about a wait cannot be written. `wait_ends_as_documented_iff`
says that a wait ends in the ways that are meant for it exactly if it is neither of these, and that
it breaks off with an unexpected failure otherwise.
-/
namespace StateFlow

namespace Delay

/-- Delays that no clock counts: seconds that are too long, and instants that are too far away. -/
inductive IsTooLong (input context : Json) (now : Int) : Delay → Prop
  | seconds {value : Json} {seconds : Number} (number : Number.ofJson? value = some seconds)
    (long : seconds.IsTooLong) : IsTooLong input context now (.seconds value)
  | secondsPath {path value : Json} {seconds : Number}
    (found : Path.first input context path = .ok value)
    (number : Number.ofJson? value = some seconds) (long : seconds.IsTooLong) :
    IsTooLong input context now (.secondsPath path)
  | timestamp {value : Json} {target : Int} (instant : Timestamp.millis value = .ok target)
    (far : Number.farMillis ≤ target - now) :
    IsTooLong input context now (.timestamp value)
  | timestampPath {path value : Json} {target : Int}
    (found : Path.first input context path = .ok value)
    (instant : Timestamp.millis value = .ok target)
    (far : Number.farMillis ≤ target - now) :
    IsTooLong input context now (.timestampPath path)

theorem checkSeconds_eq_ok {state : String} {value : Json} {seconds : Number} :
    checkSeconds state value = .ok seconds ↔
      Number.ofJson? value = some seconds ∧ seconds.isNegative = false := by
  constructor
  · intro checked
    unfold checkSeconds at checked
    split at checked
    · next time number =>
      split at checked
      · cases checked
      · next nonneg =>
        cases checked
        exact ⟨number, by simpa using nonneg⟩
    · cases checked
  · rintro ⟨number, nonneg⟩
    simp [checkSeconds, number, nonneg]

theorem secondsUntil_eq_ok {now : Int} {state : String} {value : Json} {seconds : Number} :
    secondsUntil now state value = .ok seconds ↔
      ∃ target, Timestamp.millis value = .ok target ∧ Number.ofMillis (target - now) = seconds := by
  unfold secondsUntil
  cases Timestamp.millis value with
  | error cause => simp
  | ok target => simp [Number.ofMillis]

theorem resolve_eq_ok {state : String} {input context path value : Json} :
    resolve state input context path = .ok value ↔ Path.first input context path = .ok value := by
  unfold resolve
  split <;> simp_all

theorem isTooLong_iff {delay : Delay} (state : String) {input context : Json} {now : Int} :
    delay.IsTooLong input context now ↔
      ∃ seconds, delay.duration state input context now = .ok seconds ∧ seconds.IsTooLong := by
  constructor
  · intro long
    cases long with
    | seconds number long => exact ⟨_, checkSeconds_eq_ok.2 ⟨number, long.isNegative⟩, long⟩
    | secondsPath found number long =>
      exact ⟨_, bind_eq_ok.2 ⟨_, resolve_eq_ok.2 found,
        checkSeconds_eq_ok.2 ⟨number, long.isNegative⟩⟩, long⟩
    | timestamp instant far =>
      exact ⟨_, secondsUntil_eq_ok.2 ⟨_, instant, rfl⟩, Number.isTooLong_ofMillis_iff.2 far⟩
    | timestampPath found instant far =>
      exact ⟨_, bind_eq_ok.2 ⟨_, resolve_eq_ok.2 found,
        secondsUntil_eq_ok.2 ⟨_, instant, rfl⟩⟩, Number.isTooLong_ofMillis_iff.2 far⟩
  · rintro ⟨seconds, lasts, long⟩
    cases delay with
    | unset => cases lasts
    | seconds value => exact .seconds (checkSeconds_eq_ok.1 lasts).1 long
    | secondsPath path =>
      obtain ⟨value, found, lasts⟩ := bind_eq_ok.1 lasts
      exact .secondsPath (resolve_eq_ok.1 found) (checkSeconds_eq_ok.1 lasts).1 long
    | timestamp value =>
      obtain ⟨target, instant, rfl⟩ := secondsUntil_eq_ok.1 lasts
      exact .timestamp instant (Number.isTooLong_ofMillis_iff.1 long)
    | timestampPath path =>
      obtain ⟨value, found, lasts⟩ := bind_eq_ok.1 lasts
      obtain ⟨target, instant, rfl⟩ := secondsUntil_eq_ok.1 lasts
      exact .timestampPath (resolve_eq_ok.1 found) instant (Number.isTooLong_ofMillis_iff.1 long)

theorem isTooLong_or_isCounted {delay : Delay} {state : String} {input context : Json} {now : Int}
    {seconds : Number} (lasts : delay.duration state input context now = .ok seconds) :
    seconds.IsTooLong ∨ ∃ amount, seconds.IsCounted amount := by
  have of_millis (millis : Int) : (Number.ofMillis millis).IsTooLong ∨
      ∃ amount, (Number.ofMillis millis).IsCounted amount :=
    (lt_or_ge millis Number.farMillis).symm.imp Number.isTooLong_ofMillis Number.isCounted_ofMillis
  cases delay with
  | unset => cases lasts
  | seconds value => exact Number.isTooLong_or_isCounted (checkSeconds_eq_ok.1 lasts).2
  | secondsPath path =>
    obtain ⟨value, -, lasts⟩ := bind_eq_ok.1 lasts
    exact Number.isTooLong_or_isCounted (checkSeconds_eq_ok.1 lasts).2
  | timestamp value =>
    obtain ⟨target, -, rfl⟩ := secondsUntil_eq_ok.1 lasts
    exact of_millis _
  | timestampPath path =>
    obtain ⟨value, -, lasts⟩ := bind_eq_ok.1 lasts
    obtain ⟨target, -, rfl⟩ := secondsUntil_eq_ok.1 lasts
    exact of_millis _

end Delay

namespace Execution

/-- What is meant for a wait that is entered with some data at one time and woken from at another, as
the phases in between and after: it goes on after seconds that are counted, or fails on its input, its
delay or its output. -/
inductive Waits (state : State) (delay : Delay) (data : Data) (context : Json) (now later : Int) :
    Phase → Phase → Prop
  | goesOn {input output : Data} {seconds : Number} {amount : ℚ}
    (read : Path.applyTo data context state.inputPath = .ok input)
    (lasts : delay.duration state.name input.value context now = .ok seconds)
    (counts : seconds.IsCounted amount)
    (written : Path.applyTo input context state.outputPath = .ok output) :
    Waits state delay data context now later (.sleeping state input seconds)
      (.ofAction later state input (.ok (state.transition output)))
  | inputFails {cause : PathError}
    (fails : Path.applyTo data context state.inputPath = .error (.told cause)) :
    Waits state delay data context now later (.finished (.failed (.path cause)) now)
      (.finished (.failed (.path cause)) now)
  | delayFails {input : Data} {cause : WaitError}
    (read : Path.applyTo data context state.inputPath = .ok input)
    (fails : delay.duration state.name input.value context now = .error (.told cause)) :
    Waits state delay data context now later (.finished (.failed (.wait cause)) now)
      (.finished (.failed (.wait cause)) now)
  | outputFails {input : Data} {seconds : Number} {amount : ℚ} {cause : PathError}
    (read : Path.applyTo data context state.inputPath = .ok input)
    (lasts : delay.duration state.name input.value context now = .ok seconds)
    (counts : seconds.IsCounted amount)
    (fails : Path.applyTo input context state.outputPath = .error (.told cause)) :
    Waits state delay data context now later (.sleeping state input seconds)
      (.finished (.failed (.path cause)) later)

def WaitsTooLong (state : State) (delay : Delay) (data : Data) (context : Json) (now : Int) : Prop :=
  ∃ input, Path.applyTo data context state.inputPath = .ok input ∧
    delay.IsTooLong input.value context now

/-- A text about a wait cannot be written: that of an error, or that of a delay in the log. -/
inductive Unwritten (state : State) (delay : Delay) (data : Data) (context : Json) (now : Int) :
    Prop
  | input (fails : Path.applyTo data context state.inputPath = .error .unwritable)
  | delay {input : Data} (read : Path.applyTo data context state.inputPath = .ok input)
    (fails : delay.duration state.name input.value context now = .error .unwritable)
  | seconds {input : Data} {seconds : Number}
    (read : Path.applyTo data context state.inputPath = .ok input)
    (lasts : delay.duration state.name input.value context now = .ok seconds)
    (vast : seconds.toJson.isWritable = false)
  | output {input : Data} {seconds : Number} {amount : ℚ}
    (read : Path.applyTo data context state.inputPath = .ok input)
    (lasts : delay.duration state.name input.value context now = .ok seconds)
    (counts : seconds.IsCounted amount)
    (fails : Path.applyTo input context state.outputPath = .error .unwritable)

def resting (execution : Execution) (now : Int) : Phase :=
  (execution.advance ⟨now, .proceed⟩).phase

def counted : Phase → Except SleepError Unit
  | .sleeping _ _ seconds => seconds.sleepable
  | _ => .ok ()

def waited (execution : Execution) (now later : Int) : Phase :=
  (execution.after [⟨now, .proceed⟩, ⟨later, .wake (counted (execution.resting now))⟩]).phase

theorem advance_proceed {execution : Execution} {state : State} {data : Data}
    (phase : execution.phase = .entered state data) (now : Int) :
    execution.advance ⟨now, .proceed⟩ =
      { execution with phase := .ofAction now state data (state.act data execution.context now) } := by
  simp [advance, step, phase, proceedIn, takeUp_fst]

theorem advance_wake {execution : Execution} {state : State} {input : Data} {seconds : Number}
    (phase : execution.phase = .sleeping state input seconds) (now : Int)
    (counted : Except SleepError Unit) :
    execution.advance ⟨now, .wake counted⟩ =
      { execution with
        phase := .ofAction now state input (execution.wakeIn state input counted) } := by
  simp [advance, step, phase, takeUp_fst]

section waited

variable {execution : Execution} {state : State} {delay : Delay} {data : Data}
  (phase : execution.phase = .entered state data)

include phase

theorem waited_of_fails {now : Int} {failure : Failure}
    (acts : state.act data execution.context now = .error failure) (later : Int) :
    execution.resting now = .finished (.failed failure) now ∧
      execution.waited now later = .finished (.failed failure) now := by
  have rests : execution.resting now = .finished (.failed failure) now := by
    rw [resting, advance_proceed phase, acts]
    rfl
  refine ⟨rests, ?_⟩
  rw [waited, after_cons, after_cons, after_nil, advance_of_isFinished]
  · exact rests
  · exact isFinished_iff.2 ⟨_, ending?_eq_some.2 ⟨now, rests⟩⟩

theorem waited_of_sleeps {input : Data} {seconds : Number} {now : Int}
    (acts : state.act data execution.context now = .ok (.sleep input seconds)) (later : Int) :
    execution.resting now = .sleeping state input seconds ∧ execution.waited now later =
      .ofAction later state input (execution.wakeIn state input seconds.sleepable) := by
  have rests : execution.resting now = .sleeping state input seconds := by
    rw [resting, advance_proceed phase, acts]
    rfl
  refine ⟨rests, ?_⟩
  rw [waited, rests, after_cons, after_cons, after_nil, advance_wake rests, advance_proceed phase]
  rfl

end waited

section ends

variable {execution : Execution} {state : State} {delay : Delay} {data : Data}
  (kind : state.kind = .wait delay) (phase : execution.phase = .entered state data)
  (active : execution.cancelled = false) {now : Int} (later : Int)

include kind phase

theorem waited_of_inputFails {cause : Reported PathError}
    (fails : Path.applyTo data execution.context state.inputPath = .error cause) :
    execution.resting now = .finished (.failed (.ofReported .path cause)) now ∧
      execution.waited now later = .finished (.failed (.ofReported .path cause)) now :=
  waited_of_fails phase (by simp only [State.act, kind, State.effectiveInput, fails]; rfl) later

theorem waited_of_delayFails {input : Data} {cause : Reported WaitError}
    (read : Path.applyTo data execution.context state.inputPath = .ok input)
    (fails : delay.duration state.name input.value execution.context now = .error cause) :
    execution.resting now = .finished (.failed (.ofReported .wait cause)) now ∧
      execution.waited now later = .finished (.failed (.ofReported .wait cause)) now := by
  refine waited_of_fails phase ?_ later
  simp only [State.act, kind, State.effectiveInput, read]
  simp only [Except.mapError, bind, Except.bind, fails]

theorem waited_of_vast {input : Data} {seconds : Number}
    (read : Path.applyTo data execution.context state.inputPath = .ok input)
    (lasts : delay.duration state.name input.value execution.context now = .ok seconds)
    (vast : seconds.toJson.isWritable = false) :
    execution.waited now later = .finished (.failed .unwritable) now := by
  refine (waited_of_fails phase ?_ later).2
  simp only [State.act, kind, State.effectiveInput, read]
  simp [Except.mapError, bind, Except.bind, lasts, State.told, vast]

theorem waited_of_lasts {input : Data} {seconds : Number}
    (read : Path.applyTo data execution.context state.inputPath = .ok input)
    (lasts : delay.duration state.name input.value execution.context now = .ok seconds)
    (told : seconds.toJson.isWritable = true) :
    execution.resting now = .sleeping state input seconds ∧ execution.waited now later =
      .ofAction later state input (execution.wakeIn state input seconds.sleepable) := by
  refine waited_of_sleeps phase ?_ later
  simp only [State.act, kind, State.effectiveInput, read]
  simp [Except.mapError, bind, Except.bind, pure, Except.pure, lasts, State.told, told]

include active

theorem waited_of_isCounted {input : Data} {seconds : Number} {amount : ℚ}
    (read : Path.applyTo data execution.context state.inputPath = .ok input)
    (lasts : delay.duration state.name input.value execution.context now = .ok seconds)
    (counts : seconds.IsCounted amount) :
    execution.resting now = .sleeping state input seconds ∧ execution.waited now later =
      .ofAction later state input
        ((state.outputOf input execution.context).map state.transition) := by
  obtain ⟨rests, woken⟩ := waited_of_lasts kind phase later read lasts counts.isWritable
  refine ⟨rests, ?_⟩
  -- the context object does not change while the execution waits
  have goes : execution.wakeIn state input (.ok ()) =
      (state.outputOf input execution.context).map state.transition := by
    simp only [wakeIn, active]
    cases state.outputOf input execution.context <;> rfl
  rw [woken, counts.sleepable, goes]

theorem waited_of_unwritten (unwritten : Unwritten state delay data execution.context now) :
    ∃ stopped, execution.waited now later = .finished (.failed .unwritable) stopped := by
  cases unwritten with
  | input fails => exact ⟨now, (waited_of_inputFails kind phase later fails).2⟩
  | delay read fails => exact ⟨now, (waited_of_delayFails kind phase later read fails).2⟩
  | seconds read lasts vast => exact ⟨now, waited_of_vast kind phase later read lasts vast⟩
  | output read lasts counts fails =>
    refine ⟨later, ?_⟩
    rw [(waited_of_isCounted kind phase active later read lasts counts).2, State.outputOf, fails]
    rfl

theorem waited_of_waitsTooLong (long : WaitsTooLong state delay data execution.context now)
    (written : ¬ Unwritten state delay data execution.context now) :
    ∃ cause, execution.waited now later = .finished (.failed (.sleep cause)) later := by
  obtain ⟨input, read, long⟩ := long
  obtain ⟨seconds, lasts, long⟩ := (Delay.isTooLong_iff state.name).1 long
  have told : seconds.toJson.isWritable = true := by
    by_contra vast
    exact written (.seconds read lasts (by simpa using vast))
  have woken : execution.wakeIn state input (.error seconds.sleepError) =
      .error (.sleep seconds.sleepError) := by
    simp only [wakeIn, active]
    rfl
  refine ⟨seconds.sleepError, ?_⟩
  rw [(waited_of_lasts kind phase later read lasts told).2, long.sleepable, woken]
  rfl

theorem waits_of_neither (short : ¬ WaitsTooLong state delay data execution.context now)
    (written : ¬ Unwritten state delay data execution.context now) :
    Waits state delay data execution.context now later (execution.resting now)
      (execution.waited now later) := by
  cases read : Path.applyTo data execution.context state.inputPath with
  | error cause =>
    obtain ⟨rests, ends⟩ := waited_of_inputFails kind phase later read
    cases cause with
    | unwritable => exact absurd (.input read) written
    | told cause =>
      rw [rests, ends]
      exact .inputFails read
  | ok input =>
    cases lasts : delay.duration state.name input.value execution.context now with
    | error cause =>
      obtain ⟨rests, ends⟩ := waited_of_delayFails kind phase later read lasts
      cases cause with
      | unwritable => exact absurd (.delay read lasts) written
      | told cause =>
        rw [rests, ends]
        exact .delayFails read lasts
    | ok seconds =>
      obtain ⟨amount, counts⟩ := (Delay.isTooLong_or_isCounted lasts).resolve_left fun long =>
        short ⟨input, read, (Delay.isTooLong_iff state.name).2 ⟨seconds, lasts, long⟩⟩
      obtain ⟨rests, ends⟩ := waited_of_isCounted kind phase active later read lasts counts
      rw [rests, ends, State.outputOf]
      cases output : Path.applyTo input execution.context state.outputPath with
      | ok output => exact .goesOn read lasts counts output
      | error cause =>
        cases cause with
        | unwritable => exact absurd (.output read lasts counts output) written
        | told cause => exact .outputFails read lasts counts output

end ends

theorem Waits.ne_unexpected {state : State} {delay : Delay} {data : Data} {context : Json}
    {now later : Int} {between ended : Phase}
    (waits : Waits state delay data context now later between ended) (stopped : Int) :
    (∀ cause, ended ≠ .finished (.failed (.sleep cause)) stopped) ∧
      ended ≠ .finished (.failed .unwritable) stopped := by
  cases waits with
  | goesOn read lasts counts written =>
    unfold State.transition State.goOn
    split
    · split <;> exact ⟨nofun, nofun⟩
    · exact ⟨nofun, nofun⟩
  | _ => exact ⟨nofun, nofun⟩

/-- A wait that is not cancelled ends as it should exactly if its delay is not too long and all texts
about it can be written. Otherwise it fails unexpectedly: because of a text that cannot be written,
or else because the clock does not count the delay. -/
theorem wait_ends_as_documented_iff {execution : Execution} {state : State} {delay : Delay}
    {data : Data} (kind : state.kind = .wait delay)
    (phase : execution.phase = .entered state data) (active : execution.cancelled = false)
    (now later : Int) :
    let long := WaitsTooLong state delay data execution.context now
    let unwritten := Unwritten state delay data execution.context now
    (Waits state delay data execution.context now later (execution.resting now)
        (execution.waited now later) ↔ ¬ long ∧ ¬ unwritten) ∧
    ((∃ cause, execution.waited now later = .finished (.failed (.sleep cause)) later) ↔
      long ∧ ¬ unwritten) ∧
    ((∃ stopped, execution.waited now later = .finished (.failed .unwritable) stopped) ↔
      unwritten) := by
  intro long unwritten
  have ends_unwritten : unwritten →
      ∃ stopped, execution.waited now later = .finished (.failed .unwritable) stopped :=
    waited_of_unwritten kind phase active later
  have ends_long : long → ¬ unwritten →
      ∃ cause, execution.waited now later = .finished (.failed (.sleep cause)) later :=
    waited_of_waitsTooLong kind phase active later
  have waits : ¬ long → ¬ unwritten → Waits state delay data execution.context now later
      (execution.resting now) (execution.waited now later) :=
    waits_of_neither kind phase active later
  refine ⟨⟨fun waits => ?_, fun ⟨short, written⟩ => waits short written⟩,
    ⟨fun ⟨cause, fails⟩ => ?_, fun ⟨far, written⟩ => ends_long far written⟩,
    ⟨fun ⟨stopped, fails⟩ => ?_, ends_unwritten⟩⟩
  · have written : ¬ unwritten := fun unwritten =>
      have ⟨stopped, fails⟩ := ends_unwritten unwritten
      (waits.ne_unexpected stopped).2 fails
    refine ⟨fun far => ?_, written⟩
    obtain ⟨cause, fails⟩ := ends_long far written
    exact (waits.ne_unexpected later).1 cause fails
  · have written : ¬ unwritten := fun unwritten => by
      obtain ⟨stopped, other⟩ := ends_unwritten unwritten
      cases fails.symm.trans other
    refine ⟨?_, written⟩
    by_contra short
    exact ((waits short written).ne_unexpected later).1 cause fails
  · by_contra written
    by_cases far : long
    · obtain ⟨cause, other⟩ := ends_long far written
      cases fails.symm.trans other
    · exact ((waits far written).ne_unexpected stopped).2 fails

def overlongState : State :=
  .base "A" (.obj [("Type", .str "Wait"), ("Seconds", .int 10000000000), ("End", .bool true)])
    (.wait (.seconds (.int 10000000000)))

def overlongMachine : Machine where
  name := "m"
  comment := .null
  startAt := "A"
  states := [overlongState]

def overlong : Json :=
  .obj [("m", .obj [("StartAt", .str "A"), ("States", .obj [("A", .obj [("Type", .str "Wait"),
    ("Seconds", .int 10000000000), ("End", .bool true)])])])]

theorem load_overlong : Definition.load overlong = .ok ⟨[overlongMachine]⟩ := by
  rfl

def overlongWait : Execution :=
  (start overlongMachine "A" (.obj []) 0).advance ⟨0, .proceed⟩

theorem phase_overlongWait : overlongWait.phase = .entered overlongState (.ofJson (.obj [])) := by
  rfl

theorem waitsTooLong_overlong :
    WaitsTooLong overlongState (.seconds (.int 10000000000)) (.ofJson (.obj []))
      overlongWait.context 0 :=
  ⟨.ofJson (.obj []), rfl, .seconds rfl (.whole (by decide))⟩

theorem not_unwritten_overlong :
    ¬ Unwritten overlongState (.seconds (.int 10000000000)) (.ofJson (.obj []))
      overlongWait.context 0 := by
  have read : Path.applyTo (.ofJson (.obj [])) overlongWait.context overlongState.inputPath =
      .ok (.ofJson (.obj [])) := rfl
  have lasts : (Delay.seconds (.int 10000000000)).duration "A" (.obj []) overlongWait.context 0 =
      .ok (.int 10000000000) := rfl
  rintro (fails | ⟨found, fails⟩ | ⟨found, other, vast⟩ | ⟨found, -, -, fails⟩)
  · cases read.symm.trans fails
  · cases read.symm.trans found
    cases lasts.symm.trans fails
  · cases read.symm.trans found
    cases lasts.symm.trans other
    exact absurd vast (by decide +kernel)
  · cases read.symm.trans found
    cases read.symm.trans fails

theorem wait_ends_as_documented_iff_overlong :
    overlongState.kind = .wait (.seconds (.int 10000000000)) ∧
      overlongWait.phase = .entered overlongState (.ofJson (.obj [])) ∧
      overlongWait.cancelled = false ∧
      ∃ cause, overlongWait.waited 0 0 = .finished (.failed (.sleep cause)) 0 :=
  ⟨rfl, phase_overlongWait, rfl,
    (wait_ends_as_documented_iff rfl phase_overlongWait rfl 0 0).2.1.2
      ⟨waitsTooLong_overlong, not_unwritten_overlong⟩⟩

/-- Not every wait of a machine that loads ends as it should. -/
theorem wait_fails_with_clock :
    ¬ ∀ raw definition, Definition.load raw = .ok definition → ∀ machine ∈ definition.machines,
      ∀ state ∈ machine.states, ∀ delay, state.kind = .wait delay →
        ∀ (execution : Execution) data, execution.machine = machine →
          execution.phase = .entered state data → execution.cancelled = false →
            ∀ now later, 0 ≤ now → now ≤ later → later < 253402300800000 →
              Waits state delay data execution.context now later (execution.resting now)
                (execution.waited now later) := by
  intro never
  have waits := never overlong _ load_overlong overlongMachine List.mem_cons_self overlongState
    List.mem_cons_self _ rfl overlongWait _ rfl phase_overlongWait rfl 0 0 (by decide) (by decide)
    (by decide)
  obtain ⟨cause, fails⟩ := waited_of_waitsTooLong rfl phase_overlongWait rfl 0
    waitsTooLong_overlong not_unwritten_overlong
  exact (waits.ne_unexpected 0).1 cause fails

end Execution

end StateFlow
