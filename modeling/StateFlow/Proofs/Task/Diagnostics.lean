import StateFlow.Proofs.Task.Accounts

/-!
Diagnostics. What a worker writes beside its message, its status and whether it ends by itself reach
the detail of an error only: `verdict` tells the end of a call from its message alone, and by
`diagnostics_decide_nothing` two workers with the same message bring a call to the same end.
-/
namespace StateFlow

namespace TaskError

def withoutDetail : TaskError → TaskError
  | .timedOut handler timeoutMillis _ => .timedOut handler timeoutMillis ""
  | .noResult handler returnCode _ => .noResult handler returnCode ""
  | .failed errorType errorMessage _ => .failed errorType errorMessage ""
  | error => error

@[simp] theorem name?_withoutDetail (error : TaskError) :
    error.withoutDetail.name? = error.name? := by
  cases error <;> rfl

@[simp] theorem cause_withoutDetail (error : TaskError) :
    error.withoutDetail.cause = error.cause := by
  cases error <;> rfl

end TaskError

/-- Two ends of a call that differ at most in the detail of an error: the same value, or errors of
one kind with the same name and the same cause. -/
inductive EndsAlike : Except TaskError Json → Except TaskError Json → Prop
  | value (value : Json) : EndsAlike (.ok value) (.ok value)
  | error {error other : TaskError} (kind : error.withoutDetail = other.withoutDetail)
    (name : error.name? = other.name?) (cause : error.cause = other.cause) :
    EndsAlike (.error error) (.error other)

theorem endsAlike_of_mapError_eq {result other : Except TaskError Json}
    (same : result.mapError TaskError.withoutDetail = other.mapError TaskError.withoutDetail) :
    EndsAlike result other := by
  cases result with
  | ok value =>
    cases other with
    | ok value' =>
      cases same
      exact .value value
    | error cause => cases same
  | error cause =>
    cases other with
    | ok value => cases same
    | error cause' =>
      have kind : cause.withoutDetail = cause'.withoutDetail := Except.error.inj same
      refine .error kind ?_ ?_
      · rw [← cause.name?_withoutDetail, kind, cause'.name?_withoutDetail]
      · rw [← cause.cause_withoutDetail, kind, cause'.cause_withoutDetail]

namespace Invocation

def verdict (fields : List (String × Json)) : Except TaskError Json :=
  match (Json.lookup "error" fields).getD .null with
  | .null => .ok ((Json.lookup "result" fields).getD .null)
  | error => .error (reported (reportOf error) [])

theorem verdict_of_no_report {fields : List (String × Json)}
    (none : (Json.lookup "error" fields).getD .null = .null) :
    verdict fields = .ok ((Json.lookup "result" fields).getD .null) := by
  rw [verdict, none]

theorem verdict_of_report {fields : List (String × Json)} {error : Json}
    (report : Json.lookup "error" fields = some error) (given : error ≠ .null) :
    verdict fields = .error (reported (reportOf error) []) := by
  rw [verdict, report]
  cases error with
  | null => exact absurd rfl given
  | _ => rfl

theorem withoutDetail_reported (report : Json) (errors others : List Char) :
    (reported report errors).withoutDetail = (reported report others).withoutDetail := by
  unfold reported
  split <;> rfl

theorem outcome_of_message {invocation : Invocation} {fields : List (String × Json)}
    (message : invocation.message = some fields) {seen : Outcome} (going : seen ≠ .cancelled) :
    (invocation.outcome seen).mapError TaskError.withoutDetail =
      (verdict fields).mapError TaskError.withoutDetail := by
  by_cases none : (Json.lookup "error" fields).getD .null = .null
  · rw [outcome_of_no_report message none going, verdict_of_no_report none]
  · obtain ⟨error, report⟩ : ∃ error, Json.lookup "error" fields = some error := by
      refine Option.ne_none_iff_exists'.1 fun missing => none ?_
      rw [missing]
      rfl
    have given : error ≠ .null := by simpa [report] using none
    obtain ⟨errors, failed⟩ := outcome_of_report message report given going
    rw [failed, verdict_of_report report given]
    exact congrArg Except.error (withoutDetail_reported _ _ _)

def decided (invocation : Invocation) (fields : List (String × Json)) (journal : Journal) :
    Except TaskError Json := do
  (invocation.opened journal).2
  let _ ← invocation.patience.mapError .endless
  verdict fields

theorem carryOut_of_message {invocation : Invocation} (waiting : invocation.message = none)
    {worker : WorkerBehaviour} {fields : List (String × Json)}
    (first : (Text.lines worker.stdout.toList).findSome? (messageIn? invocation.tag) = some fields)
    (started ended : Int) (journal : Journal) :
    (invocation.carryOut (.ok worker) false started ended journal).1.mapError
        TaskError.withoutDetail =
      (invocation.decided fields journal).mapError TaskError.withoutDetail := by
  cases begins : (invocation.opened journal).2 with
  | error cause =>
    rw [carryOut_of_refused begins, decided, begins]
    rfl
  | ok =>
    rw [carryOut_of_begun begins, decided, begins]
    cases patience : invocation.patience with
    | error cause =>
      rw [awaited, patience]
      rfl
    | ok seconds =>
      rw [awaited, patience]
      have message : (invocation.readOutput worker.stdout.toList).message = some fields := by
        rw [readOutput_eq, (foldl_takeLine_of_waiting waiting _).1, first]
      obtain ⟨closed, seen, message, going, result⟩ := conclude_of_message message
      change (invocation.conclude worker false).2.mapError _ = (verdict fields).mapError _
      rw [result]
      exact outcome_of_message message going

/-- Diagnostics decide nothing: two workers that bring the same first message to a call end it
alike, whatever else they write, and whether they end by themselves or not. -/
theorem diagnostics_decide_nothing {invocation : Invocation} (waiting : invocation.message = none)
    {worker other : WorkerBehaviour} {fields : List (String × Json)}
    (first : (Text.lines worker.stdout.toList).findSome? (messageIn? invocation.tag) = some fields)
    (same : (Text.lines other.stdout.toList).findSome? (messageIn? invocation.tag) = some fields)
    (started ended started' ended' : Int) (journal : Journal) :
    EndsAlike (invocation.carryOut (.ok worker) false started ended journal).1
      (invocation.carryOut (.ok other) false started' ended' journal).1 :=
  endsAlike_of_mapError_eq
    ((carryOut_of_message waiting first started ended journal).trans
      (carryOut_of_message waiting same started' ended' journal).symm)

def complaint : String :=
  (Json.obj [("tag", .str (tagOf 1)), ("error", .str "no such order")]).encode ++ "\n"

def plainWorker : WorkerBehaviour where
  stdout := complaint
  stderr := ""
  returnCode := 0
  exits := true

def noisyWorker : WorkerBehaviour where
  stdout := "loading\n" ++ complaint ++ complaint ++ "done\n"
  stderr := "Traceback\n"
  returnCode := -9
  exits := false

theorem first_complaint (rest : List Char) :
    (Text.lines (complaint.toList ++ rest)).findSome? (messageIn? firstCall.tag) =
      some [("tag", .str (tagOf 1)), ("error", .str "no such order")] := by
  have line : complaint.toList ++ rest =
      Json.encodeChars (.obj [("tag", .str (tagOf 1)), ("error", .str "no such order")]) ++
        '\n' :: rest := by
    simp [complaint, Json.encode]
  have tag : firstCall.tag = tagOf 1 := rfl
  rw [line, tag]
  exact findSome?_message 1 (by decide) (.str _) rest

theorem first_plainWorker :
    (Text.lines plainWorker.stdout.toList).findSome? (messageIn? firstCall.tag) =
      some [("tag", .str (tagOf 1)), ("error", .str "no such order")] := by
  simpa [plainWorker] using first_complaint []

theorem first_noisyWorker :
    (Text.lines noisyWorker.stdout.toList).findSome? (messageIn? firstCall.tag) =
      some [("tag", .str (tagOf 1)), ("error", .str "no such order")] := by
  have text : noisyWorker.stdout.toList =
      "loading".toList ++ '\n' :: (complaint.toList ++ (complaint.toList ++ "done\n".toList)) := by
    simp [noisyWorker]
  have noTag : messageIn? firstCall.tag ("loading".toList ++ ['\n']) = none := by decide
  rw [text, Text.lines_line (by decide), List.findSome?_cons, noTag]
  exact first_complaint _

theorem diagnostics_decide_nothing_noisy :
    firstCall.message = none ∧
    (Text.lines plainWorker.stdout.toList).findSome? (messageIn? firstCall.tag) =
      some [("tag", .str (tagOf 1)), ("error", .str "no such order")] ∧
    (Text.lines noisyWorker.stdout.toList).findSome? (messageIn? firstCall.tag) =
      some [("tag", .str (tagOf 1)), ("error", .str "no such order")] ∧
    EndsAlike (firstCall.carryOut (.ok plainWorker) false 0 10 noAccounts).1
      (firstCall.carryOut (.ok noisyWorker) false 0 6000 noAccounts).1 :=
  ⟨rfl, first_plainWorker, first_noisyWorker,
    diagnostics_decide_nothing rfl first_plainWorker first_noisyWorker 0 10 0 6000 noAccounts⟩

end Invocation

end StateFlow
