import Mathlib.Data.List.Basic
import Mathlib.Data.List.Induction
import StateFlow.Proofs.Cancellation
import StateFlow.Proofs.Operation

/-!
The accounts of executions. `Books.Turn` lists all that an operation does to the executions of an
engine, to those that are live and to their counts; `perform_turn` says that nothing else is done.
`Books.Balanced` is the invariant: the counts of a machine are the numbers of its executions by
their ends, and those without an end are the live ones.
-/
namespace StateFlow

namespace Binary64

theorem exists_ofRatio {n : Nat} (small : Nat.log2 n ≤ 1000) (negative : Bool) :
    ∃ significand exponent, ofRatio negative n 1 = .finite negative significand exponent := by
  have one : Nat.log2 1 = 0 := by decide
  have room : exponentOf n 1 + 1 ≤ greatestExponent := by
    unfold exponentOf
    simp only [one, precision, greatestExponent, leastExponent]
    split <;> omega
  unfold ofRatio
  split
  · exact ⟨_, _, rfl⟩
  · dsimp only
    generalize exponentOf n 1 = e at room ⊢
    generalize (if e < 0 then _ else _) = m
    split <;> exact ⟨_, _, if_neg (by simp only; omega)⟩

end Binary64

theorem exists_toReal {n : Int} (small : Nat.log2 n.natAbs ≤ 1000) :
    ∃ x, (Json.int n).toReal = .ok x := by
  obtain ⟨significand, exponent, finite⟩ := Binary64.exists_ofRatio small (n < 0)
  exact ⟨.finite (n < 0) significand exponent, by
    simp [Json.toReal, Number.toReal, Number.toReal?, Binary64.ofInt?, finite]⟩

structure Books where
  executions : List Execution
  live : List Nat
  counts : Json → Metrics.Counts

namespace Books

inductive Turn (now : Int) (books : Books) : Books → Prop where
  | stay : Turn now books books
  | enlist {execution : Execution} {counts : Json → Metrics.Counts}
      (unfinished : execution.ending? = none) (started : execution.startMillis = now)
      (begun : ∀ label, counts label =
        if .str execution.machine.name = label then (books.counts label).begin
        else books.counts label) :
    Turn now books
      { executions := books.executions ++ [execution]
        live := books.live ++ [books.executions.length]
        counts }
  | keep {index : Nat} {execution next : Execution}
      (found : books.executions[index]? = some execution)
      (machine : next.machine = execution.machine)
      (started : next.startMillis = execution.startMillis)
      (same : next.ending? = execution.ending?) :
    Turn now books { books with executions := books.executions.set index next }
  | close {index : Nat} {execution next : Execution} {ending : Ending}
      {counts : Json → Metrics.Counts}
      (found : books.executions[index]? = some execution)
      (machine : next.machine = execution.machine)
      (started : next.startMillis = execution.startMillis)
      (unfinished : execution.ending? = none) (ends : next.ending? = some ending)
      (ended : ∀ label, counts label =
        { (if .str execution.machine.name = label then
            (books.counts label).endExecution (ending.status = .succeeded)
              (ending.error = .str Metrics.timeoutName)
          else books.counts label) with observed := (counts label).observed })
      (observed : ∀ x, (Json.int (now - execution.startMillis)).toReal = .ok x → ∀ label,
        (counts label).observed = (books.counts label).observed +
          if .str execution.machine.name = label then 1 else 0) :
    Turn now books
      { executions := books.executions.set index next
        live := books.live.erase index
        counts }

end Books

namespace Execution

theorem Move.startMillis {execution next : Execution} {event : Event}
    (move : execution.Move event next) : next.startMillis = execution.startMillis := by
  cases move <;> rfl

end Execution

namespace Engine

def books (engine : Engine) (ledger : Metrics.Ledger) : Books :=
  ⟨engine.executions, engine.live, ledger.ofExecutions⟩

variable {engine : Engine} {ns : String} {ledger : Metrics.Ledger}

theorem enlist_turn (kept : engine.journal.metrics = .enabled ns ledger) {execution : Execution}
    (unfinished : execution.ending? = none) :
    ∃ after, (engine.enlist execution).journal.metrics = .enabled ns after ∧
      (engine.books ledger).Turn execution.startMillis ((engine.enlist execution).books after) := by
  refine ⟨{ ledger with
    executionsStarted := ledger.executionsStarted.increment (.str execution.machine.name) }, ?_, ?_⟩
  · simp only [enlist, Journal.log, Journal.count, Journal.tryCount, kept]
    rfl
  · exact .enlist unfinished rfl fun label => ledger.ofExecutions_started _ label

theorem ending?_advance {execution : Execution} {event : Event}
    (goesOn : execution.ending? = none → (execution.advance event).ending? = none) :
    (execution.advance event).ending? = execution.ending? := by
  cases ends : execution.ending? with
  | none => exact goesOn ends
  | some ending =>
    rw [Execution.advance_of_isFinished (Execution.isFinished_iff.2 ⟨ending, ends⟩), ends]

theorem close_turn (kept : engine.journal.metrics = .enabled ns ledger) {now : Int} {index : Nat}
    {execution next : Execution} {ending : Ending}
    (found : engine.executions[index]? = some execution)
    (machine : next.machine = execution.machine)
    (started : next.startMillis = execution.startMillis)
    (unfinished : execution.ending? = none) (ends : next.ending? = some ending)
    (records : List Log.Record) :
    let closed := { engine with
      executions := engine.executions.set index next
      journal := engine.journal.logAll records }.close now index next ending
    ∃ after, closed.journal.metrics = .enabled ns after ∧
      (engine.books ledger).Turn now (closed.books after) := by
  intro closed
  let event : Metrics.Event := .executionFinished (.str next.machine.name)
    (.str ending.status.name) ending.error (.int (now - next.startMillis))
  refine ⟨(ledger.recordUnder (.str next.machine.name) event).1, ?_, ?_⟩
  · simp only [closed, close, Journal.count, Journal.tryCount, Journal.metrics_logAll, kept]
    rfl
  · have succeeds : decide (Json.str ending.status.name = .str Metrics.succeededStatus) =
        decide (ending.status = .succeeded) := by
      cases ending <;> simp [Ending.status, Status.name, Metrics.succeededStatus]
    refine .close found machine started unfinished ends (fun label => ?_) fun x measured label => ?_
    · rw [Metrics.Ledger.ofExecutions_finished, succeeds, machine]
      rfl
    · rw [← started] at measured
      rw [Metrics.Ledger.ofExecutions_finished, ← machine]
      exact Metrics.Series.observations_observe measured _ label _

theorem step_turn (kept : engine.journal.metrics = .enabled ns ledger) (now : Int) (index : Nat)
    (happening : Happening) :
    ∃ after, (engine.step now index happening).journal.metrics = .enabled ns after ∧
      (engine.books ledger).Turn now ((engine.step now index happening).books after) := by
  unfold step
  split
  · exact ⟨ledger, kept, .stay⟩
  · next execution found =>
    have move := execution.move_advance ⟨now, happening⟩
    dsimp only
    split
    · next ending unfinished ends =>
      exact close_turn kept found move.machine move.startMillis unfinished ends _
    · next goesOn =>
      refine ⟨ledger, (engine.journal.metrics_logAll _).trans kept, ?_⟩
      have same : (execution.advance ⟨now, happening⟩).ending? = execution.ending? := by
        refine ending?_advance fun unfinished => ?_
        cases ends : (execution.advance ⟨now, happening⟩).ending? with
        | none => rfl
        | some ending => exact (goesOn ending unfinished ends).elim
      exact .keep found move.machine move.startMillis same

theorem begin_eq_ok {definition : Definition} {now : Int} {machine input startState : Json}
    {execution : Execution}
    (begins : definition.begin now machine input startState = .ok execution) :
    now = execution.startMillis ∧ execution.ending? = none := by
  obtain ⟨found, -, begins⟩ := bind_eq_ok.1 begins
  obtain ⟨state, -, begins⟩ := bind_eq_ok.1 begins
  obtain ⟨_, -, begins⟩ := bind_eq_ok.1 begins
  cases begins
  exact ⟨rfl, rfl⟩

namespace Operation

def time : Operation → Int
  | .start now _ _ _ => now
  | .happen _ event => event.time
  | .call _ job => job.ended

end Operation

theorem perform_turn (kept : engine.journal.metrics = .enabled ns ledger) (operation : Operation) :
    ∃ after, (engine.perform operation).journal.metrics = .enabled ns after ∧
      (engine.books ledger).Turn operation.time ((engine.perform operation).books after) := by
  cases operation with
  | start now machine input startState =>
    rw [perform, start_eq]
    cases begins : engine.definition.begin now machine input startState with
    | error cause => exact ⟨ledger, kept, .stay⟩
    | ok execution =>
      obtain ⟨rfl, unfinished⟩ := begin_eq_ok begins
      exact enlist_turn kept unfinished
  | happen index event => exact step_turn kept event.time index event.happening
  | call index job =>
    rcases engine.answerCall_cases index job with ⟨same, -⟩ | ⟨execution, call, found, -, same⟩
    · rw [perform, same]
      exact ⟨ledger, kept, .stay⟩
    · rw [perform, same]
      -- the call is counted under its task, which the books do not hold; then it is a step
      obtain ⟨next, counted, counts⟩ := Journal.carryOut_ofExecutions kept
        (job.call engine.invoker call execution.cancelled)
      have books : engine.books ledger = ⟨engine.executions, engine.live, next.ofExecutions⟩ := by
        rw [Engine.books, funext counts]
      rw [books]
      exact step_turn counted job.ended index _

end Engine

namespace Ending

def hasStatus (status : Status) (ending? : Option Ending) : Bool :=
  ending?.map Ending.status = some status

def isTimeout (ending? : Option Ending) : Bool :=
  ending?.map Ending.error = some (.str Metrics.timeoutName)

end Ending

namespace Books

def number (executions : List Execution) (name : String) (ends : Option Ending → Bool) : Nat :=
  executions.countP fun execution => execution.machine.name = name && ends execution.ending?

variable {executions : List Execution} {name : String} {ends : Option Ending → Bool}

theorem number_append (execution : Execution) :
    number (executions ++ [execution]) name ends =
      number executions name ends +
        if execution.machine.name = name ∧ ends execution.ending? then 1 else 0 := by
  simp [number, List.countP_append, List.countP_singleton]

theorem number_set {index : Nat} {execution : Execution}
    (found : executions[index]? = some execution) (next : Execution) (name : String)
    (ends : Option Ending → Bool) :
    number (executions.set index next) name ends +
        (if execution.machine.name = name ∧ ends execution.ending? then 1 else 0) =
      number executions name ends +
        if next.machine.name = name ∧ ends next.ending? then 1 else 0 := by
  obtain ⟨inside, here⟩ := List.getElem?_eq_some_iff.1 found
  unfold number
  induction executions generalizing index with
  | nil => simp at inside
  | cons first rest ih =>
    cases index with
    | zero =>
      obtain rfl : first = execution := here
      simp only [List.set_cons_zero, List.countP_cons, Bool.and_eq_true, decide_eq_true_eq]
      omega
    | succ index =>
      have := ih (by simpa using found) (by simpa using inside) here
      simp only [List.set_cons_succ, List.countP_cons]
      omega

theorem number_set_of_same {index : Nat} {execution next : Execution}
    (found : executions[index]? = some execution) (machine : next.machine = execution.machine)
    (same : next.ending? = execution.ending?) :
    number (executions.set index next) name ends = number executions name ends := by
  have moved := number_set found next name ends
  rw [machine, same] at moved
  omega

def unfinished (executions : List Execution) : List Nat :=
  (List.range executions.length).filter fun index =>
    executions[index]?.any fun execution => execution.ending?.isNone

theorem unfinished_append {execution : Execution} (ends : execution.ending? = none) :
    unfinished (executions ++ [execution]) = unfinished executions ++ [executions.length] := by
  have early : ∀ index ∈ List.range executions.length,
      ((executions ++ [execution])[index]?.any fun e => e.ending?.isNone) =
        executions[index]?.any fun e => e.ending?.isNone := by
    intro index mem
    rw [List.getElem?_append_left (List.mem_range.1 mem)]
  simp [unfinished, List.range_succ, List.filter_append, List.filter_congr early, ends]

theorem unfinished_set_of_same {index : Nat} {execution next : Execution}
    (found : executions[index]? = some execution) (same : next.ending? = execution.ending?) :
    unfinished (executions.set index next) = unfinished executions := by
  unfold unfinished
  rw [List.length_set]
  refine List.filter_congr fun place _ => ?_
  rw [List.getElem?_set']
  split
  · next here => simp [← here, found, same]
  · rfl

theorem unfinished_set_of_ended {index : Nat} {execution next : Execution} {ending : Ending}
    (found : executions[index]? = some execution) (ends : next.ending? = some ending) :
    unfinished (executions.set index next) = (unfinished executions).erase index := by
  have nodup : (unfinished executions).Nodup := List.nodup_range.filter _
  rw [nodup.erase_eq_filter]
  unfold unfinished
  rw [List.filter_filter, List.length_set]
  refine List.filter_congr fun place _ => ?_
  rw [List.getElem?_set']
  by_cases here : index = place
  · simp [← here, found, ends]
  · simp [here, Ne.symm here]

/-- The counts of a machine are the numbers of its executions by their ends. -/
structure Tallies (executions : List Execution) (name : String) (counts : Metrics.Counts) :
    Prop where
  begun : counts.begun = number executions name fun _ => true
  succeeded : counts.succeeded = number executions name (Ending.hasStatus .succeeded)
  failed : counts.failed = number executions name (Ending.hasStatus .failed)
  timedOut : counts.timedOut = number executions name Ending.isTimeout

theorem Tallies.append {counts : Metrics.Counts} (tallies : Tallies executions name counts)
    {execution : Execution} (unfinished : execution.ending? = none) :
    Tallies (executions ++ [execution]) name
      (if execution.machine.name = name then counts.begin else counts) := by
  obtain ⟨begun, succeeded, failed, timedOut⟩ := tallies
  constructor <;> simp only [number_append, unfinished] <;> split <;>
    simp_all [Metrics.Counts.begin, Ending.hasStatus, Ending.isTimeout]

theorem Tallies.set_of_same {counts : Metrics.Counts} (tallies : Tallies executions name counts)
    {index : Nat} {execution next : Execution} (found : executions[index]? = some execution)
    (machine : next.machine = execution.machine) (same : next.ending? = execution.ending?) :
    Tallies (executions.set index next) name counts := by
  obtain ⟨begun, succeeded, failed, timedOut⟩ := tallies
  constructor <;> rw [number_set_of_same found machine same] <;> assumption

theorem Tallies.set_of_ended {counts : Metrics.Counts} (tallies : Tallies executions name counts)
    {index : Nat} {execution next : Execution} {ending : Ending}
    (found : executions[index]? = some execution) (machine : next.machine = execution.machine)
    (unfinished : execution.ending? = none) (ends : next.ending? = some ending) :
    Tallies (executions.set index next) name
      (if execution.machine.name = name then
        counts.endExecution (ending.status = .succeeded) (ending.error = .str Metrics.timeoutName)
      else counts) := by
  obtain ⟨begun, succeeded, failed, timedOut⟩ := tallies
  have moved := number_set found next name
  simp only [machine, unfinished, ends] at moved
  have started := moved fun _ => true
  have succeeds := moved (Ending.hasStatus .succeeded)
  have fails := moved (Ending.hasStatus .failed)
  have late := moved Ending.isTimeout
  split
  · next own =>
    simp only [own, Ending.hasStatus, Ending.isTimeout] at started succeeds fails late
    cases ending with
    | succeeded output =>
      constructor <;>
        simp_all [Metrics.Counts.endExecution, Ending.status, Ending.error, Ending.failure?]
    | failed failure =>
      by_cases timeout : (Ending.failed failure).error = .str Metrics.timeoutName <;>
        constructor <;> simp_all [Metrics.Counts.endExecution, Ending.status]
  · next other =>
    simp only [other, false_and, if_false, Nat.add_zero] at started succeeds fails late
    constructor <;> simp_all

/-- The live executions are those without an end, and the counts are those of all machines. -/
structure Balanced (books : Books) : Prop where
  live : books.live = unfinished books.executions
  tallies (machine : String) : Tallies books.executions machine (books.counts (.str machine))

theorem Turn.balanced {now : Int} {books next : Books} (turn : books.Turn now next)
    (balanced : books.Balanced) : next.Balanced := by
  obtain ⟨live, tallies⟩ := balanced
  cases turn with
  | stay => exact ⟨live, tallies⟩
  | enlist fresh started begun =>
    refine ⟨by simp only [live, unfinished_append fresh], fun machine => ?_⟩
    simpa [begun] using (tallies machine).append fresh
  | keep found machine started same =>
    refine ⟨by simp only [live, unfinished_set_of_same found same], fun name => ?_⟩
    exact (tallies name).set_of_same found machine same
  | close found machine started unfinished ends ended observed =>
    refine ⟨by simp only [live, unfinished_set_of_ended found ends], fun name => ?_⟩
    have kept := (tallies name).set_of_ended found machine unfinished ends
    have counts := ended (.str name)
    simp only [Json.str.injEq] at counts
    dsimp only
    -- the new counts are these but for the durations, of which tallies say nothing
    rw [counts]
    exact ⟨kept.begun, kept.succeeded, kept.failed, kept.timedOut⟩

theorem number_eq (executions : List Execution) (name : String) :
    number executions name (fun _ => true) =
      number executions name (Ending.hasStatus .succeeded) +
        number executions name (Ending.hasStatus .failed) +
        number executions name Option.isNone := by
  unfold number
  induction executions with
  | nil => rfl
  | cons execution rest ih =>
    simp only [List.countP_cons, ih]
    rcases execution.ending? with _ | _ | _ <;> by_cases own : execution.machine.name = name <;>
      simp [own, Ending.hasStatus, Ending.status] <;> omega

theorem number_isTimeout_le (executions : List Execution) (name : String) :
    number executions name Ending.isTimeout ≤
      number executions name (Ending.hasStatus .failed) := by
  refine List.countP_mono_left fun execution _ counted => ?_
  rcases ends : execution.ending? with _ | output | failure
  · simp_all [Ending.isTimeout]
  · simp_all [Ending.isTimeout, Ending.error, Ending.failure?]
  · simp_all [Ending.hasStatus, Ending.status]

/-- Durations between any two of these readings of the clock have a double. -/
def Measured (times : List Int) : Prop :=
  ∀ first ∈ times, ∀ second ∈ times, ∃ x, (Json.int (first - second)).toReal = .ok x

theorem measured_of_lt {times : List Int}
    (bits : ∀ time ∈ times, time.natAbs < 9223372036854775808) :
    Measured times := by
  intro first mem second other
  have less := bits first mem
  have small := bits second other
  refine exists_toReal ?_
  by_cases zero : (first - second).natAbs = 0
  · rw [zero]
    decide
  · have below : (first - second).natAbs < 2 ^ 64 := by omega
    have log := (Nat.log2_lt zero).2 below
    omega

structure Observed (times : List Int) (books : Books) : Prop where
  starts : ∀ execution ∈ books.executions, execution.startMillis ∈ times
  observed (label : Json) : (books.counts label).observed =
    (books.counts label).succeeded + (books.counts label).failed

theorem Turn.observed {times : List Int} (measured : Measured times) {now : Int}
    (here : now ∈ times) {books next : Books} (turn : books.Turn now next)
    (observed : books.Observed times) :
    next.Observed times := by
  obtain ⟨starts, observed⟩ := observed
  have starts_set {index : Nat} {execution next : Execution}
      (found : books.executions[index]? = some execution)
      (started : next.startMillis = execution.startMillis) :
      ∀ execution ∈ books.executions.set index next, execution.startMillis ∈ times := by
    intro other mem
    rcases List.mem_or_eq_of_mem_set mem with mem | rfl
    · exact starts other mem
    · exact started ▸ starts execution (List.mem_of_getElem? found)
  cases turn with
  | stay => exact ⟨starts, observed⟩
  | enlist fresh started begun =>
    refine ⟨fun execution mem => ?_, fun label => ?_⟩
    · rcases List.mem_append.1 mem with mem | mem
      · exact starts execution mem
      · rw [List.mem_singleton.1 mem, started]
        exact here
    · have same := observed label
      simp only [begun]
      split
      · exact same
      · exact same
  | keep found machine started same => exact ⟨starts_set found started, observed⟩
  | @close index execution next ending counts found machine started unfinished ends ended seen =>
    refine ⟨starts_set found started, fun label => ?_⟩
    obtain ⟨x, duration⟩ := measured _ here _ (starts execution (List.mem_of_getElem? found))
    have same := observed label
    change (counts label).observed = (counts label).succeeded + (counts label).failed
    rw [seen x duration label, ended label]
    dsimp only
    split
    · unfold Metrics.Counts.endExecution
      split <;> dsimp only <;> omega
    · exact same

theorem mem_unfinished {index : Nat} :
    index ∈ unfinished executions ↔
      ∃ execution, executions[index]? = some execution ∧ execution.ending? = none := by
  simp only [unfinished, List.mem_filter, List.mem_range, Option.any_eq_true,
    Option.isNone_iff_eq_none, and_iff_right_iff_imp]
  rintro ⟨execution, found, -⟩
  exact (List.getElem?_eq_some_iff.1 found).1

theorem filterMap_range (executions : List Execution) :
    (List.range executions.length).filterMap (executions[·]?) = executions := by
  induction executions using List.reverseRecOn with
  | nil => rfl
  | append_singleton rest last ih =>
    have early : ∀ index ∈ List.range rest.length, (rest ++ [last])[index]? = rest[index]? :=
      fun index mem => List.getElem?_append_left (List.mem_range.1 mem)
    simp [List.range_succ, List.filterMap_append, List.filterMap_congr early, ih]

theorem filterMap_unfinished (executions : List Execution) :
    (unfinished executions).filterMap (executions[·]?) =
      executions.filter (·.ending?.isNone) := by
  have each : ∀ index ∈ List.range executions.length,
      (if executions[index]?.any (·.ending?.isNone) then executions[index]? else none) =
        executions[index]?.filter (·.ending?.isNone) := by
    intro index _
    cases executions[index]? <;> simp [Option.filter]
  rw [unfinished, List.filterMap_filter, List.filterMap_congr each, ← List.filter_filterMap,
    filterMap_range]

end Books

namespace Execution

theorem result?_eq_none {execution : Execution} :
    execution.result? = none ↔ execution.ending? = none := by
  unfold result? ending?
  split <;> simp_all

end Execution

namespace Metrics

theorem ledger_configure {config : Json} {metrics : Metrics}
    (configured : (configure config).2 = .ok metrics) (ns : String) (ledger : Ledger)
    (kept : metrics = .enabled ns ledger) : ledger = .empty := by
  have empty (lead : String) (named : inNamespace lead = .ok metrics) : ledger = .empty := by
    unfold inNamespace at named
    split at named
    · cases named
      cases kept
      rfl
    · cases named
  unfold configure at configured
  split at configured
  · cases configured
  · cases configured
    cases kept
  · split at configured
    · exact empty _ configured
    · split at configured
      · exact empty "" configured
      · cases configured

end Metrics

namespace Engine

variable {engine : Engine} {ns : String} {ledger : Metrics.Ledger}

theorem performAll_books {P : Books → Prop} {operations : List Operation}
    (keeps : ∀ operation ∈ operations, ∀ books next : Books,
      books.Turn operation.time next → P books → P next)
    (kept : engine.journal.metrics = .enabled ns ledger) (holds : P (engine.books ledger)) :
    ∃ after, (engine.performAll operations).journal.metrics = .enabled ns after ∧
      P ((engine.performAll operations).books after) := by
  induction operations generalizing engine ledger with
  | nil => exact ⟨ledger, kept, holds⟩
  | cons operation rest ih =>
    obtain ⟨next, counted, turn⟩ := perform_turn kept operation
    have first := keeps operation List.mem_cons_self _ _ turn holds
    exact ih (fun later mem => keeps later (List.mem_cons_of_mem operation mem)) counted first

theorem configure_books {definition : Definition} {config : Json} {records : List Log.Record}
    (configured : configure definition config = (records, .ok engine))
    (kept : engine.journal.metrics = .enabled ns ledger) :
    engine.books ledger = ⟨[], [], Metrics.Ledger.empty.ofExecutions⟩ := by
  unfold configure at configured
  split at configured
  · simp at configured
  · next wanted =>
    obtain ⟨-, built⟩ := Prod.ext_iff.1 configured
    obtain ⟨metrics, asked, built⟩ := bind_eq_ok.1 built
    obtain ⟨asks, -, built⟩ := bind_eq_ok.1 built
    obtain ⟨invoker, -, built⟩ := bind_eq_ok.1 built
    cases built
    have fresh := Metrics.ledger_configure (mapError_eq_ok.1 asked) ns ledger kept
    rw [books, fresh]

theorem countP_liveExecutions (live : engine.live = Books.unfinished engine.executions)
    (name : String) :
    engine.liveExecutions.countP (·.machine.name = name) =
      Books.number engine.executions name Option.isNone := by
  rw [liveExecutions, live, Books.filterMap_unfinished, List.countP_filter]
  rfl

/-- The accounts of executions are conserved. After any operations on a new engine that keeps them,
every execution of a machine that was started has succeeded, has failed or is live; those that have
ended have a duration, unless no double holds it; and those that have timed out are failed ones, as
many as have that error. The live ones are those that have no result. -/
theorem accounts_are_conserved {definition : Definition} {config : Json}
    {records : List Log.Record} (configured : configure definition config = (records, .ok engine))
    (kept : engine.journal.metrics = .enabled ns ledger) (operations : List Operation) :
    let reached := engine.performAll operations
    ∃ after, reached.journal.metrics = .enabled ns after ∧
      (∀ name : String,
        let counts := after.ofExecutions (.str name)
        counts.begun = counts.succeeded + counts.failed +
          reached.liveExecutions.countP (·.machine.name = name) ∧
        (Books.Measured (operations.map Operation.time) →
          counts.observed = counts.succeeded + counts.failed) ∧
        counts.timedOut ≤ counts.failed ∧
        counts.timedOut = reached.executions.countP fun execution =>
          execution.machine.name = name ∧
            execution.ending?.map Ending.error = some (.str Metrics.timeoutName)) ∧
      reached.live.Nodup ∧
      ∀ index, index ∈ reached.live ↔
        ∃ execution, reached.executions[index]? = some execution ∧ execution.result? = none := by
  intro reached
  have fresh := configure_books configured kept
  -- durations are kept apart: only they depend on the readings of the clock
  obtain ⟨after, counted, balanced, observed⟩ := performAll_books
    (P := fun books => books.Balanced ∧
      (Books.Measured (operations.map Operation.time) →
        books.Observed (operations.map Operation.time)))
    (fun operation mem books next turn holds =>
      ⟨turn.balanced holds.1, fun measured =>
        turn.observed measured (List.mem_map_of_mem mem) (holds.2 measured)⟩)
    kept (by
      rw [fresh]
      exact ⟨⟨rfl, fun _ => ⟨rfl, rfl, rfl, rfl⟩⟩, fun _ => ⟨by simp, fun _ => rfl⟩⟩)
  have live : reached.live = Books.unfinished reached.executions := balanced.live
  refine ⟨after, counted, fun name => ?_, ?_, fun index => ?_⟩
  · have tallies : Books.Tallies reached.executions name (after.ofExecutions (.str name)) :=
      balanced.tallies name
    obtain ⟨begun, succeeded, failed, timedOut⟩ := tallies
    refine ⟨?_, fun measured => (observed measured).observed (.str name), ?_, ?_⟩
    · rw [begun, succeeded, failed, countP_liveExecutions live]
      exact Books.number_eq reached.executions name
    · rw [timedOut, failed]
      exact Books.number_isTimeout_le reached.executions name
    · simp only [timedOut, Books.number, Ending.isTimeout, Bool.decide_and]
  · rw [live]
    exact List.nodup_range.filter _
  · simp only [live, Books.mem_unfinished, Execution.result?_eq_none]

def countingConfig : Json := .obj [("metrics", .obj [("implementation", .str "Prometheus")])]

def countingRecords : List Log.Record := [.info "Enabling Prometheus Metrics"]

def countingEngine : Engine where
  definition := ⟨[Execution.onePass]⟩
  invoker := ⟨Invoker.usualTimeoutMillis, Invoker.usualRoot, none⟩
  journal := ⟨.enabled "" .empty, countingRecords⟩
  executions := []
  live := []

def countedOperations : List Operation :=
  [.start 0 (.str "m") .null .null, .start 0 (.str "n") .null .null, .happen 0 ⟨0, .proceed⟩,
    .start 0 (.str "m") .null .null, .happen 1 ⟨0, .cancel⟩, .happen 0 ⟨0, .proceed⟩]

theorem countedOperations_are_conserved :
    configure ⟨[Execution.onePass]⟩ countingConfig = (countingRecords, .ok countingEngine) ∧
    countingEngine.journal.metrics = .enabled "" .empty ∧
    Books.Measured (countedOperations.map Operation.time) ∧
    ∃ after, (countingEngine.performAll countedOperations).journal.metrics = .enabled "" after ∧
      (after.ofExecutions (.str "m")).begun =
        (after.ofExecutions (.str "m")).succeeded + (after.ofExecutions (.str "m")).failed +
          (countingEngine.performAll countedOperations).liveExecutions.countP
            (·.machine.name = "m") ∧
      (after.ofExecutions (.str "m")).observed =
        (after.ofExecutions (.str "m")).succeeded + (after.ofExecutions (.str "m")).failed := by
  have configured : configure ⟨[Execution.onePass]⟩ countingConfig =
      (countingRecords, .ok countingEngine) := rfl
  have measured : Books.Measured (countedOperations.map Operation.time) :=
    Books.measured_of_lt (by decide)
  obtain ⟨after, counted, accounts, -⟩ := accounts_are_conserved configured rfl countedOperations
  obtain ⟨begun, observed, -⟩ := accounts "m"
  exact ⟨configured, rfl, measured, after, counted, begun, observed measured⟩

end Engine

end StateFlow
