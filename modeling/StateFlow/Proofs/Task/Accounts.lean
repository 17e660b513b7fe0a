import StateFlow.Proofs.Ledger
import StateFlow.Proofs.Transport

/-!
The accounts of task calls. A call that is begun is counted once when it begins and once when it
ends, and its duration is observed once. The end is counted by the name of the error alone, so a
call whose error has no name counts as one with a result: `accounts_tell_truth_iff` says when that
happens, and that it is all that can go wrong.
-/
namespace StateFlow

namespace Journal

theorem metrics_logAll (journal : Journal) (records : List Log.Record) :
    (journal.logAll records).metrics = journal.metrics := by
  induction records generalizing journal with
  | nil => rfl
  | cons record records ih => exact ih (journal.log record)

end Journal

namespace Invocation

/-- What the invoker gets to see of a worker, if there is one; it does not wait for one whose time
no double holds. -/
def awaited (invocation : Invocation) (worker : Except TaskError WorkerBehaviour) :
    Except TaskError WorkerBehaviour := do
  let behaviour ← worker
  let _ ← invocation.patience.mapError .endless
  pure behaviour

def carryOut (invocation : Invocation) (worker : Except TaskError WorkerBehaviour)
    (cancelled : Bool) (started ended : Int) (journal : Journal) :
    Except TaskError Json × Journal :=
  match invocation.opened journal with
  | (journal, .error cause) => (.error cause, journal)
  | (journal, .ok ()) =>
    let (_, result, journal) :=
      invocation.run (invocation.awaited worker) cancelled started ended journal
    (result, journal)

theorem handler_conclude (invocation : Invocation) (worker : WorkerBehaviour) (cancelled : Bool) :
    (invocation.conclude worker cancelled).1.handler = invocation.handler := by
  obtain ⟨message, stdout, newestFirst, read⟩ := invocation.readOutput_frame worker.stdout.toList
  obtain ⟨_, errors⟩ := { invocation with message, stdout, newestFirst }.readErrors_eq
    worker.stderr.toList
  have logged (closed : Invocation) (records : List Log.Record) :
      (records.foldl log closed).handler = closed.handler := by
    induction records generalizing closed with
    | nil => rfl
    | cons record records ih => exact ih (closed.log record)
  rw [conclude, logged, read, errors]

variable {invocation : Invocation} {journal : Journal} {ns : String} {ledger : Metrics.Ledger}

theorem opened_counts (kept : journal.metrics = .enabled ns ledger)
    (begins : (invocation.opened journal).2 = .ok ()) :
    ∃ label, Metrics.Label.canonical invocation.handler = .ok label ∧
      (invocation.opened journal).1.metrics =
        .enabled ns { ledger with tasksScheduled := ledger.tasksScheduled.increment label } := by
  unfold opened at begins ⊢
  split at begins
  · next writable =>
    simp only [if_pos writable, Journal.tryCount, Journal.log, kept, Metrics.record,
      Metrics.Ledger.record, Metrics.Event.label] at begins ⊢
    cases canonical : Metrics.Label.canonical invocation.handler with
    | ok label => exact ⟨label, rfl, rfl⟩
    | error cause =>
      rw [canonical] at begins
      cases begins
  · cases begins

theorem opened_refused (kept : journal.metrics = .enabled ns ledger) {cause : TaskError}
    (refused : (invocation.opened journal).2 = .error cause) :
    (invocation.opened journal).1.metrics = .enabled ns ledger := by
  unfold opened at refused ⊢
  split at refused
  · next writable =>
    simp only [if_pos writable, Journal.tryCount, Journal.log, kept, Metrics.record,
      Metrics.Ledger.record, Metrics.Event.label] at refused ⊢
    cases canonical : Metrics.Label.canonical invocation.handler with
    | ok label =>
      rw [canonical] at refused
      cases refused
    | error cause => rfl
  · next unwritable => rwa [if_neg unwritable]

theorem closed_metrics (kept : journal.metrics = .enabled ns ledger) {label : Json}
    (canonical : Metrics.Label.canonical invocation.handler = .ok label)
    (result : Except TaskError Json) (started ended : Int) :
    (invocation.closed result started ended journal).metrics =
      .enabled ns (ledger.recordUnder label (.taskFinished invocation.handler (errorName result)
        (duration started ended))).1 := by
  simp only [closed, Journal.count, Journal.tryCount, Journal.metrics_logAll, kept,
    Metrics.record, Metrics.Ledger.record, Metrics.Event.label, canonical]

theorem exists_closed (invocation : Invocation) (worker : Except TaskError WorkerBehaviour)
    (cancelled : Bool) (started ended : Int) (journal : Journal) :
    let run := invocation.run worker cancelled started ended journal
    ∃ last : Invocation, last.handler = invocation.handler ∧
      run.2.2 = last.closed run.2.1 started ended journal := by
  cases worker with
  | ok worker => exact ⟨_, invocation.handler_conclude worker cancelled, rfl⟩
  | error cause => exact ⟨invocation, rfl, rfl⟩

theorem carryOut_of_begun (begins : (invocation.opened journal).2 = .ok ())
    (worker : Except TaskError WorkerBehaviour) (cancelled : Bool) (started ended : Int) :
    invocation.carryOut worker cancelled started ended journal =
      (invocation.run (invocation.awaited worker) cancelled started ended
        (invocation.opened journal).1).2 := by
  unfold carryOut
  split
  · next same =>
    rw [same] at begins
    cases begins
  · next same => rw [same]

theorem carryOut_of_refused {cause : TaskError}
    (refused : (invocation.opened journal).2 = .error cause)
    (worker : Except TaskError WorkerBehaviour) (cancelled : Bool) (started ended : Int) :
    invocation.carryOut worker cancelled started ended journal =
      (.error cause, (invocation.opened journal).1) := by
  unfold carryOut
  split
  · next same =>
    rw [same] at refused ⊢
    cases refused
    rfl
  · next same =>
    rw [same] at refused
    cases refused

theorem carryOut_metrics (kept : journal.metrics = .enabled ns ledger)
    (begins : (invocation.opened journal).2 = .ok ())
    (worker : Except TaskError WorkerBehaviour) (cancelled : Bool) (started ended : Int) :
    let call := invocation.carryOut worker cancelled started ended journal
    ∃ label, Metrics.Label.canonical invocation.handler = .ok label ∧
      call.2.metrics = .enabled ns
        ({ ledger with tasksScheduled := ledger.tasksScheduled.increment label }.recordUnder label
          (.taskFinished invocation.handler (errorName call.1) (duration started ended))).1 := by
  intro call
  obtain ⟨label, canonical, opened⟩ := opened_counts kept begins
  obtain ⟨last, handler, closed⟩ := exists_closed invocation (invocation.awaited worker) cancelled
    started ended (invocation.opened journal).1
  have same := carryOut_of_begun begins worker cancelled started ended
  have closed : call.2 = last.closed call.1 started ended (invocation.opened journal).1 := by
    rw [show call = _ from same]
    exact closed
  refine ⟨label, canonical, ?_⟩
  rw [closed, ← handler]
  exact closed_metrics opened (handler.symm ▸ canonical) call.1 started ended

theorem carryOut_counts (kept : journal.metrics = .enabled ns ledger)
    (begins : (invocation.opened journal).2 = .ok ())
    (worker : Except TaskError WorkerBehaviour) (cancelled : Bool) (started ended : Int) :
    let call := invocation.carryOut worker cancelled started ended journal
    ∃ next label, call.2.metrics = .enabled ns next ∧
      Metrics.Label.canonical invocation.handler = .ok label ∧
      ∀ other, next.ofTasks other =
        if label = other then
          (ledger.ofTasks other).addTask (Metrics.Ledger.taskEnd (errorName call.1))
        else ledger.ofTasks other := by
  intro call
  obtain ⟨label, canonical, counted⟩ := carryOut_metrics kept begins worker cancelled started ended
  refine ⟨_, label, counted, canonical, fun other => ?_⟩
  have measured : (duration started ended).toReal = .ok _ := rfl
  rw [Metrics.Ledger.ofTasks_finished measured, Metrics.Ledger.ofTasks_scheduled]
  split <;> rfl

def endOf : Except TaskError Json → Metrics.TaskEnd
  | .ok _ => .succeeded
  | .error error =>
    if error.name? = some (.str Metrics.timeoutName) then .timedOut else .failed

theorem ne_null_of_name? {error : TaskError} {name : Json} (named : error.name? = some name) :
    name ≠ .null := by
  have full := (Failure.task error).isFalsy_name
  rw [Failure.name, Failure.name?, named] at full
  rintro rfl
  simp [Json.isFalsy] at full

/-- A call fails with an error that the state language has no name for. -/
def IsNameless (result : Except TaskError Json) : Prop :=
  ∃ error, result = .error error ∧ error.name? = none

theorem taskEnd_of_isNameless {result : Except TaskError Json} (nameless : IsNameless result) :
    Metrics.Ledger.taskEnd (errorName result) = .succeeded := by
  obtain ⟨error, rfl, name⟩ := nameless
  simp [errorName, name, Metrics.Ledger.taskEnd]

theorem taskEnd_eq_endOf_iff (result : Except TaskError Json) :
    Metrics.Ledger.taskEnd (errorName result) = endOf result ↔ ¬ IsNameless result := by
  constructor
  · intro told nameless
    rw [taskEnd_of_isNameless nameless] at told
    obtain ⟨error, rfl, name⟩ := nameless
    simp [endOf, name] at told
  · intro named
    cases result with
    | ok value => rfl
    | error error =>
      cases name : error.name? with
      | none => exact absurd ⟨error, rfl, name⟩ named
      | some name' =>
        simp [errorName, name, Metrics.Ledger.taskEnd, endOf, ne_null_of_name? name]

theorem name?_reported (report : Json) (errors : List Char) :
    (reported report errors).name? = none ↔
      ∃ cause, traceText (report.field "stackTrace") = .error cause := by
  unfold reported
  split <;> simp_all [TaskError.name?]

def MisreportsIn (fields : List (String × Json)) : Prop :=
  ∃ error cause, Json.lookup "error" fields = some error ∧ error ≠ .null ∧
    traceText ((reportOf error).field "stackTrace") = .error cause

theorem outcome_of_no_report {invocation : Invocation} {fields : List (String × Json)}
    (message : invocation.message = some fields)
    (none : (Json.lookup "error" fields).getD .null = .null) {seen : Outcome}
    (going : seen ≠ .cancelled) :
    invocation.outcome seen = .ok ((Json.lookup "result" fields).getD .null) := by
  cases seen with
  | cancelled => exact absurd rfl going
  | _ => simp [outcome, message, none]

theorem outcome_of_report {invocation : Invocation} {fields : List (String × Json)} {error : Json}
    (message : invocation.message = some fields)
    (report : Json.lookup "error" fields = some error) (given : error ≠ .null) {seen : Outcome}
    (going : seen ≠ .cancelled) :
    ∃ errors, invocation.outcome seen = .error (reported (reportOf error) errors) := by
  cases seen with
  | cancelled => exact absurd rfl going
  | _ =>
    cases error with
    | null => exact absurd rfl given
    | _ => exact ⟨_, by simp [outcome, message, report]; rfl⟩

theorem isNameless_outcome_iff (invocation : Invocation) (seen : Outcome) :
    IsNameless (invocation.outcome seen) ↔
      seen ≠ .cancelled ∧ ∃ fields, invocation.message = some fields ∧ MisreportsIn fields := by
  cases message : invocation.message with
  -- without a message a call fails with a name, whatever is seen of its worker
  | none => cases seen <;> simp [outcome, message, IsNameless, TaskError.name?]
  | some fields =>
    by_cases going : seen = .cancelled
    · subst going
      simp [outcome, IsNameless, TaskError.name?]
    · cases report : Json.lookup "error" fields with
      | none =>
        have result := outcome_of_no_report message (by rw [report]; rfl) going
        simp [result, IsNameless, MisreportsIn, report]
      | some error =>
        by_cases given : error = .null
        · subst given
          have result := outcome_of_no_report message (by rw [report]; rfl) going
          simp [result, IsNameless, MisreportsIn, report]
        · obtain ⟨errors, result⟩ := outcome_of_report message report given going
          simp [result, IsNameless, MisreportsIn, report, name?_reported, going, given]

/-- Whether the call fails without a name, told from what it is given: no double holds its time, or
nobody cancels it and its message misreports an error. -/
def LosesName (invocation : Invocation) (worker : WorkerBehaviour) (cancelled : Bool) : Prop :=
  (∃ cause, invocation.patience = .error cause) ∨
    (cancelled = false ∧ ∃ fields,
      (invocation.readOutput worker.stdout.toList).message = some fields ∧ MisreportsIn fields)

theorem isNameless_conclude_iff (invocation : Invocation) (worker : WorkerBehaviour)
    (cancelled : Bool) : IsNameless (invocation.conclude worker cancelled).2 ↔
      cancelled = false ∧ ∃ fields,
        (invocation.readOutput worker.stdout.toList).message = some fields ∧
        MisreportsIn fields := by
  have seen : (invocation.ended worker).seen worker cancelled ≠ .cancelled ↔
      cancelled = false := by
    cases cancelled with
    | false => simp [seen_ne_cancelled]
    | true => simp [Invocation.seen]
  rw [conclude_snd, isNameless_outcome_iff, seen]
  rfl

theorem isNameless_carryOut_iff (begins : (invocation.opened journal).2 = .ok ())
    (worker : WorkerBehaviour) (cancelled : Bool) (started ended : Int) :
    IsNameless (invocation.carryOut (.ok worker) cancelled started ended journal).1 ↔
      invocation.LosesName worker cancelled := by
  rw [carryOut_of_begun begins, LosesName, ← isNameless_conclude_iff]
  cases patience : invocation.patience with
  | ok seconds =>
    have awaited : invocation.awaited (.ok worker) = .ok worker := by
      rw [Invocation.awaited, patience]
      rfl
    rw [awaited]
    simp [run]
  | error cause =>
    have awaited : invocation.awaited (.ok worker) = .error (.endless cause) := by
      rw [Invocation.awaited, patience]
      rfl
    rw [awaited]
    simp [run, IsNameless, TaskError.name?]

end Invocation

structure Call where
  invocation : Invocation
  worker : Except TaskError WorkerBehaviour
  cancelled : Bool
  started : Int
  ended : Int

def Call.carryOut (call : Call) (journal : Journal) : Except TaskError Json × Journal :=
  call.invocation.carryOut call.worker call.cancelled call.started call.ended journal

namespace Journal

def carryOut (journal : Journal) (call : Call) : Journal := (call.carryOut journal).2

theorem carryOut_settled {journal : Journal} {ns : String} {ledger : Metrics.Ledger}
    (kept : journal.metrics = .enabled ns ledger) (call : Call) :
    ∃ next, (journal.carryOut call).metrics = .enabled ns next ∧
      ∀ label, (ledger.ofTasks label).IsSettled → (next.ofTasks label).IsSettled := by
  unfold carryOut Call.carryOut
  cases begins : (call.invocation.opened journal).2 with
  | error cause =>
    rw [Invocation.carryOut_of_refused begins]
    exact ⟨ledger, Invocation.opened_refused kept begins, fun _ settled => settled⟩
  | ok =>
    obtain ⟨next, own, counted, -, counts⟩ := Invocation.carryOut_counts kept begins call.worker
      call.cancelled call.started call.ended
    refine ⟨next, counted, fun label settled => ?_⟩
    rw [counts]
    split
    · exact settled.addTask _
    · exact settled

theorem carryOut_ofExecutions {journal : Journal} {ns : String} {ledger : Metrics.Ledger}
    (kept : journal.metrics = .enabled ns ledger) (call : Call) :
    ∃ next, (journal.carryOut call).metrics = .enabled ns next ∧
      ∀ label, next.ofExecutions label = ledger.ofExecutions label := by
  unfold carryOut Call.carryOut
  cases begins : (call.invocation.opened journal).2 with
  | error cause =>
    rw [Invocation.carryOut_of_refused begins]
    exact ⟨ledger, Invocation.opened_refused kept begins, fun _ => rfl⟩
  | ok =>
    obtain ⟨own, -, counted⟩ := Invocation.carryOut_metrics kept begins call.worker call.cancelled
      call.started call.ended
    exact ⟨_, counted, fun label => Metrics.Ledger.ofExecutions_taskFinished _ _ _ _ _ _⟩

theorem foldl_carryOut_settled {journal : Journal} {ns : String} {ledger : Metrics.Ledger}
    (kept : journal.metrics = .enabled ns ledger) (calls : List Call) :
    ∃ next, (calls.foldl carryOut journal).metrics = .enabled ns next ∧
      ∀ label, (ledger.ofTasks label).IsSettled → (next.ofTasks label).IsSettled := by
  induction calls generalizing journal ledger with
  | nil => exact ⟨ledger, kept, fun _ settled => settled⟩
  | cons call calls ih =>
    obtain ⟨next, first, keeps⟩ := carryOut_settled kept call
    obtain ⟨last, rest, keepsRest⟩ := ih first
    exact ⟨last, rest, fun label settled => keepsRest label (keeps label settled)⟩

end Journal

namespace Invocation

variable {journal : Journal} {ns : String} {ledger : Metrics.Ledger}

/-- The accounts of a call that is begun tell how it ends, by a result, too late or by another
error, exactly if its error does not lose its name; one that does is counted as a result. No call
touches the accounts of other handlers. After any calls every task that has begun has ended in one
way, and has a duration. -/
theorem accounts_tell_truth_iff (kept : journal.metrics = .enabled ns ledger) :
    (∀ invocation : Invocation, (invocation.opened journal).2 = .ok () →
      ∀ worker cancelled started ended,
        let call := invocation.carryOut (.ok worker) cancelled started ended journal
        ∃ next label, call.2.metrics = .enabled ns next ∧
          Metrics.Label.canonical invocation.handler = .ok label ∧
          (∀ other, other ≠ label → next.ofTasks other = ledger.ofTasks other) ∧
          (next.ofTasks label = (ledger.ofTasks label).addTask (endOf call.1) ↔
            ¬ invocation.LosesName worker cancelled) ∧
          (invocation.LosesName worker cancelled → (∃ error, call.1 = .error error) ∧
            next.ofTasks label = (ledger.ofTasks label).addTask .succeeded)) ∧
    ∀ calls : List Call, ∃ next,
      (calls.foldl Journal.carryOut journal).metrics = .enabled ns next ∧
        ∀ label, (ledger.ofTasks label).IsSettled → (next.ofTasks label).IsSettled := by
  refine ⟨fun invocation begins worker cancelled started ended => ?_,
    Journal.foldl_carryOut_settled kept⟩
  intro call
  obtain ⟨next, label, counted, canonical, counts⟩ :=
    carryOut_counts kept begins (.ok worker) cancelled started ended
  have nameless : IsNameless call.1 ↔ invocation.LosesName worker cancelled :=
    isNameless_carryOut_iff begins worker cancelled started ended
  have own : next.ofTasks label =
      (ledger.ofTasks label).addTask (Metrics.Ledger.taskEnd (errorName call.1)) := by
    rw [counts, if_pos rfl]
  refine ⟨next, label, counted, canonical, fun other foreign => ?_, ?_, fun lost => ?_⟩
  · rw [counts, if_neg (Ne.symm foreign)]
  · rw [own, Metrics.Counts.addTask_inj, taskEnd_eq_endOf_iff, nameless]
  · have unnamed := nameless.2 lost
    refine ⟨?_, by rw [own, taskEnd_of_isNameless unnamed]⟩
    obtain ⟨error, failed, -⟩ := unnamed
    exact ⟨error, failed⟩

def firstCall : Invocation := start (tagOf 1) (.str "handlers.echo") .null .null (.int 6000)

def reporter (report : Json) : WorkerBehaviour where
  stdout := (Json.obj [("tag", .str firstCall.tag), ("error", report)]).encode ++ "\n"
  stderr := ""
  returnCode := 0
  exits := true

def noAccounts : Journal := ⟨.enabled "" .empty, []⟩

theorem begins_firstCall : (firstCall.opened noAccounts).2 = .ok () :=
  opened_ok rfl
    (show firstCall.timeoutMillis.toReal = .ok (.finite false 6597069766656000 (-40)) from rfl) _

def firstCallWith (report : Json) : Except TaskError Json × Journal :=
  firstCall.carryOut (.ok (reporter report)) false 0 0 noAccounts

theorem firstCallWith_fst (report : List (String × Json)) (keys : (report.map Prod.fst).Nodup)
    (values : ∀ field ∈ report, Json.Carried (Json.depthLimit - 2) field.2) :
    ∃ errors, (firstCallWith (.obj report)).1 = .error (reported (.obj report) errors) := by
  have carried : Json.Carried (Json.depthLimit - 2 + 1) (.obj report) := .obj keys values
  have message : (firstCall.readOutput (reporter (.obj report)).stdout.toList).message =
      some [("tag", .str firstCall.tag), ("error", .obj report)] :=
    message_readOutput rfl rfl (by decide) carried
  obtain ⟨closed, seen, same, going, concluded⟩ := conclude_of_message message
  obtain ⟨errors, failed⟩ := outcome_of_error same rfl going
  refine ⟨errors, ?_⟩
  rw [firstCallWith, carryOut_of_begun begins_firstCall]
  exact concluded.trans failed

def timeoutReport : List (String × Json) :=
  [("errorType", .str Metrics.timeoutName), ("errorMessage", .str "m")]

theorem accounts_tell_truth_of_timeoutReport :
    let call := firstCallWith (.obj timeoutReport)
    noAccounts.metrics = .enabled "" .empty ∧ (firstCall.opened noAccounts).2 = .ok () ∧
    (∃ error, call.1 = .error error ∧ error.name? = some (.str Metrics.timeoutName)) ∧
    ∃ next, call.2.metrics = .enabled "" next ∧
      next.ofTasks (.str "handlers.echo") = ⟨1, 0, 0, 1, 1⟩ := by
  obtain ⟨errors, failed⟩ := firstCallWith_fst timeoutReport (by decide) (by
    simpa [timeoutReport] using ⟨.str _, .str _⟩)
  have name : (reported (.obj timeoutReport) errors).name? = some (.str Metrics.timeoutName) := rfl
  refine ⟨rfl, begins_firstCall, ⟨_, failed, name⟩, ?_⟩
  have named : ¬ IsNameless (firstCallWith (.obj timeoutReport)).1 := by
    rintro ⟨error, same, unnamed⟩
    obtain rfl := Except.error.inj (failed.symm.trans same)
    cases name.symm.trans unnamed
  rw [firstCallWith, isNameless_carryOut_iff begins_firstCall] at named
  have kept : noAccounts.metrics = .enabled "" .empty := rfl
  obtain ⟨next, label, counted, canonical, -, told, -⟩ :=
    (accounts_tell_truth_iff kept).1 firstCall begins_firstCall
      (reporter (.obj timeoutReport)) false 0 0
  obtain rfl : Json.str "handlers.echo" = label := Except.ok.inj canonical
  have told := told.2 named
  rw [← firstCallWith] at counted told
  rw [failed, endOf, name] at told
  exact ⟨next, counted, told⟩

def oddReport : List (String × Json) :=
  [("errorType", .str "E"), ("errorMessage", .str "m"), ("stackTrace", .bool true)]

/-- A call that fails and is counted as one with a result. -/
theorem oddReport_counts_as_result :
    (firstCallWith (.obj oddReport)).1 = .error (.badTrace .notList) ∧
    ∃ next, (firstCallWith (.obj oddReport)).2.metrics = .enabled "" next ∧
      next.ofTasks (.str "handlers.echo") = ⟨1, 1, 0, 0, 1⟩ := by
  obtain ⟨errors, failed⟩ := firstCallWith_fst oddReport (by decide) (by
    simpa [oddReport] using ⟨.str _, .str _, .bool true⟩)
  refine ⟨failed, ?_⟩
  have kept : noAccounts.metrics = .enabled "" .empty := rfl
  obtain ⟨next, label, counted, canonical, counts⟩ :=
    carryOut_counts kept begins_firstCall (.ok (reporter (.obj oddReport))) false 0 0
  obtain rfl : Json.str "handlers.echo" = label := Except.ok.inj canonical
  have told := counts (.str "handlers.echo")
  rw [← firstCallWith] at counted told
  rw [if_pos rfl, failed] at told
  exact ⟨next, counted, told⟩

end Invocation

end StateFlow
