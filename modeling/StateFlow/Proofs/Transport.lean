import StateFlow.Proofs.Task.Message
import StateFlow.Simulation
import StateFlow.Worker.Samples

/-!
Calls carried to a worker and back. The envelope brings the handler its input and context, and the
worker's line brings the result or the error back, whatever they hold and however long they are.
-/
namespace StateFlow

theorem WorkerRun.stdout_behaviour {run : WorkerRun} (plain : '\r' ∉ run.stdout.toList) :
    run.behaviour.stdout = run.stdout := by
  simp [behaviour, Text.plainLines_of_not_mem plain]

namespace Binary64

theorem ofRatio_of_large {n : Nat} (large : 1025 ≤ Nat.log2 n) (negative : Bool) :
    ofRatio negative n 1 = .infinite negative := by
  have nonzero : n ≠ 0 := by
    rintro rfl
    exact absurd large (by decide)
  have one : Nat.log2 1 = 0 := by decide
  have exponent : greatestExponent < exponentOf n 1 := by
    unfold exponentOf
    simp only [one, precision, greatestExponent]
    split <;> omega
  unfold ofRatio
  rw [if_neg nonzero]
  dsimp only
  generalize exponentOf n 1 = e at exponent ⊢
  generalize (if e < 0 then _ else _) = m
  refine if_pos ?_
  split
  · exact Int.lt_trans exponent (by omega)
  · exact exponent

end Binary64

theorem le_log2_of_pow_le {n : Nat} (digits : Nat) (le : Nat.pow 10 digits ≤ n) :
    digits ≤ Nat.log2 n := by
  have positive : 0 < Nat.pow 10 digits := Nat.pow_pos (by decide)
  refine (Nat.le_log2 (by omega)).2 (Nat.le_trans ?_ le)
  exact Nat.pow_le_pow_left (by decide) digits

namespace Number

theorem isWritable_of_toReal {timeout : Number} {seconds : Binary64}
    (counts : timeout.toReal = .ok seconds) : timeout.toJson.isWritable = true := by
  cases timeout with
  | real x => rfl
  | int n =>
    change Text.isWritable n = true
    rw [Text.isWritable, decide_eq_true_eq, ← Nat.not_le]
    intro large
    unfold Text.writableBound at large
    have log := le_log2_of_pow_le Text.digitLimit large
    have many : 1025 ≤ Text.digitLimit := by decide
    have infinite := Binary64.ofRatio_of_large (Nat.le_trans many log) (decide (n < 0))
    simp [toReal, toReal?, Binary64.ofInt?, infinite] at counts

end Number

namespace Metrics

theorem record_taskScheduled (metrics : Metrics) (reference : String) :
    (metrics.record (.taskScheduled (.str reference))).2 = .ok () := by
  cases metrics <;> rfl

end Metrics

namespace Invocation

theorem opened_ok {invocation : Invocation} {reference : String}
    (handler : invocation.handler = .str reference) {seconds : Binary64}
    (counts : invocation.timeoutMillis.toReal = .ok seconds) (journal : Journal) :
    (invocation.opened journal).2 = .ok () := by
  have counted := (journal.log invocation.invokingRecord).metrics.record_taskScheduled reference
  rw [opened, if_pos (Number.isWritable_of_toReal counts), handler]
  change Except.mapError TaskError.notCounted
    ((journal.log invocation.invokingRecord).metrics.record
      (.taskScheduled (.str reference))).2 = .ok ()
  rw [counted]
  rfl

theorem patience_of_toReal {invocation : Invocation} {seconds : Binary64}
    (counts : invocation.timeoutMillis.toReal = .ok seconds) :
    invocation.patience = .ok (seconds.div (.ofNat 1000)) := by
  rw [patience, counts]
  rfl

theorem patience_of_large {n : Nat} (large : 1025 ≤ Nat.log2 n) (tag : String)
    (handler input context : Json) :
    (start tag handler input context (.int n)).patience = .error .tooLarge := by
  simp [patience, start, Number.toReal, Number.toReal?, Binary64.ofInt?,
    Binary64.ofRatio_of_large large, Except.map]

def given (context : Json) : Json := if context.isFalsy then .obj [] else context

theorem carried_given {context : Json} (carried : Json.Carried (Json.depthLimit - 1) context) :
    Json.Carried (Json.depthLimit - 1) (given context) := by
  unfold given
  split
  · have room : Json.depthLimit - 1 = Json.depthLimit - 2 + 1 := rfl
    rw [room]
    exact .obj .nil nofun
  · exact carried

theorem decode_envelope (tag reference : String) {input context : Json}
    (carriedInput : Json.Carried (Json.depthLimit - 1) input)
    (carriedContext : Json.Carried (Json.depthLimit - 1) context) (timeout : Number) :
    let invocation := start tag (.str reference) input context timeout
    Json.decode invocation.envelope.encode = .ok invocation.envelope := by
  have keys : ["tag", "handler", "input", "context"].Nodup := by decide
  have whole : Json.Carried (Json.depthLimit - 1 + 1)
      (start tag (.str reference) input context timeout).envelope := by
    refine .obj keys fun field mem => ?_
    simp only [List.mem_cons, List.not_mem_nil, or_false] at mem
    rcases mem with rfl | rfl | rfl | rfl
    · exact .str tag
    · exact .str reference
    · exact carriedInput
    · exact carried_given carriedContext
  exact whole.decode_encode

end Invocation

namespace Worker

theorem answerLine_plain (tag : Json) (ending : HandlerEnd) :
    '\r' ∉ (answerLine tag ending).toList := by
  have line (value : Json) : '\r' ∉ (value.encode ++ "\n").toList := by
    have := Json.not_mem_encodeChars (by decide : ¬ Json.IsPrinting '\r') value
    simpa [Json.encode] using this
  cases ending with
  | returned result => exact line _
  | raised error => exact line _
  | exited status => simp [answerLine]

theorem stdout_run {resolve : Json → Except Raised Handler} {text : String} {envelope tag : Json}
    (decoded : Json.decode text = .ok envelope) (tagged : envelope.get? "tag" = some tag) :
    (run resolve text).stdout = (call resolve envelope).stdout ++
      answerLine tag (answerable (call resolve envelope).ending) := by
  simp [run, answered, decoded, tagged]

end Worker

namespace Invocation

variable {resolve : Json → Except Raised Handler} {reference : String} {handler : Handler}
variable {input context : Json}

theorem call_envelope (resolves : resolve (.str reference) = .ok handler) (tag : String)
    (timeout : Number) :
    Worker.call resolve (start tag (.str reference) input context timeout).envelope =
      handler input (given context) := by
  simp [Worker.call, envelope, start, Json.get?, Json.field, Json.lookup, resolves, given]

theorem stdout_worker (resolves : resolve (.str reference) = .ok handler) (tag : String)
    (carriedInput : Json.Carried (Json.depthLimit - 1) input)
    (carriedContext : Json.Carried (Json.depthLimit - 1) context) (timeout : Number)
    (silent : (handler input (given context)).stdout = "") :
    (Worker.run resolve
        (start tag (.str reference) input context timeout).envelope.encode).stdout =
      Worker.answerLine (.str tag) (Worker.answerable (handler input (given context)).ending) := by
  have decoded := decode_envelope tag reference carriedInput carriedContext timeout
  rw [Worker.stdout_run decoded rfl, call_envelope resolves, silent, String.empty_append]
  rfl

theorem run_of_returned (resolves : resolve (.str reference) = .ok handler) (number : Nat)
    (carriedInput : Json.Carried (Json.depthLimit - 1) input)
    (carriedContext : Json.Carried (Json.depthLimit - 1) context) (timeout : Number)
    (silent : (handler input (given context)).stdout = "") {result : Json}
    (returned : (handler input (given context)).ending = .returned result)
    (carried : Json.Carried (Json.depthLimit - 1) result) (started ended : Int)
    (journal : Journal) :
    let invocation := start (tagOf number) (.str reference) input context timeout
    let worker := Worker.run resolve invocation.envelope.encode
    (invocation.run (.ok worker.behaviour) false started ended journal).2.1 = .ok result := by
  intro invocation worker
  have waiting : invocation.message = none := rfl
  have tagged : invocation.tag = tagOf number := rfl
  have written := stdout_worker resolves (tagOf number) carriedInput carriedContext timeout silent
  have plain : '\r' ∉ worker.stdout.toList := written ▸ Worker.answerLine_plain _ _
  rw [returned, Worker.answerable, if_pos carried.isWritable, Worker.answerLine] at written
  exact run_of_resultLine waiting tagged carried ((WorkerRun.stdout_behaviour plain).trans written)
    started ended journal

theorem run_of_raised (resolves : resolve (.str reference) = .ok handler) (number : Nat)
    (carriedInput : Json.Carried (Json.depthLimit - 1) input)
    (carriedContext : Json.Carried (Json.depthLimit - 1) context) (timeout : Number)
    (silent : (handler input (given context)).stdout = "") {error : Raised}
    (raised : (handler input (given context)).ending = .raised error) (started ended : Int)
    (journal : Journal) :
    let invocation := start (tagOf number) (.str reference) input context timeout
    let worker := Worker.run resolve invocation.envelope.encode
    ∃ detail, (invocation.run (.ok worker.behaviour) false started ended journal).2.1 =
      .error (.failed (.str error.type) (some (.str error.message)) detail) := by
  intro invocation worker
  have waiting : invocation.message = none := rfl
  have tagged : invocation.tag = tagOf number := rfl
  have answer : Worker.answerable (.raised error) = .raised error := rfl
  have written := stdout_worker resolves (tagOf number) carriedInput carriedContext timeout silent
  have plain : '\r' ∉ worker.stdout.toList := written ▸ Worker.answerLine_plain _ _
  rw [raised, answer, Worker.answerLine] at written
  exact run_of_errorLine waiting tagged error ((WorkerRun.stdout_behaviour plain).trans written)
    started ended journal

/-- A call reaches its handler and comes back. The handler is called with the input and the context
of the call, with an empty object for a context that counts as false. What it returns is the result
of the call. What it raises is the error of the call, with the text as the cause and the type as the
name, unless the type has no name. -/
theorem call_is_transported (resolves : resolve (.str reference) = .ok handler) (number : Nat)
    (carriedInput : Json.Carried (Json.depthLimit - 1) input)
    (carriedContext : Json.Carried (Json.depthLimit - 1) context) {timeout : Number}
    {seconds : Binary64} (counts : timeout.toReal = .ok seconds)
    (silent : (handler input (given context)).stdout = "") (started ended : Int)
    (journal : Journal) :
    let invocation := start (tagOf number) (.str reference) input context timeout
    let worker := Worker.run resolve invocation.envelope.encode
    let opened := invocation.opened journal
    let answer := (invocation.run (.ok worker.behaviour) false started ended opened.1).2.1
    opened.2 = .ok () ∧ (∃ patience, invocation.patience = .ok patience) ∧
    (∃ envelope, Json.decode invocation.envelope.encode = .ok envelope ∧
      Worker.call resolve envelope = handler input (given context)) ∧
    (∀ result, (handler input (given context)).ending = .returned result →
      Json.Carried (Json.depthLimit - 1) result → answer = .ok result) ∧
    (∀ error, (handler input (given context)).ending = .raised error →
      ∃ crash detail, answer = .error crash ∧
        crash = .failed (.str error.type) (some (.str error.message)) detail ∧
        crash.name? =
          some (.str (if error.type = "" then "States.TaskFailed" else error.type)) ∧
        crash.cause = .str error.message) := by
  intro invocation worker opened answer
  have opens : opened.2 = .ok () := opened_ok rfl counts journal
  have decoded := decode_envelope (tagOf number) reference carriedInput carriedContext timeout
  have called : Worker.call resolve invocation.envelope = handler input (given context) :=
    call_envelope resolves (tagOf number) timeout
  refine ⟨opens, ⟨_, patience_of_toReal counts⟩, ⟨_, decoded, called⟩,
    fun result returned carried => ?_, fun error raised => ?_⟩
  · exact run_of_returned resolves number carriedInput carriedContext timeout silent returned
      carried started ended opened.1
  · obtain ⟨detail, failed⟩ := run_of_raised resolves number carriedInput carriedContext timeout
      silent raised started ended opened.1
    exact ⟨_, detail, failed, rfl, name?_of_text error.type _ detail, rfl⟩

def misleading : Json := .obj [("error", .str "é"), ("tag", .null)]

theorem carried_misleading : Json.Carried (Json.depthLimit - 1) misleading := by
  have room : Json.depthLimit - 1 = Json.depthLimit - 2 + 1 := rfl
  rw [room]
  refine .obj (by decide) fun field mem => ?_
  simp only [List.mem_cons, List.not_mem_nil, or_false] at mem
  rcases mem with rfl | rfl
  · exact .str _
  · exact .null

theorem misleading_result_is_transported :
    let invocation := start (tagOf 7) (.str "handlers.echo") misleading .null (.int 6000)
    let worker := Worker.run Worker.Samples.resolve invocation.envelope.encode
    let opened := invocation.opened ⟨.disabled, []⟩
    Worker.Samples.resolve (.str "handlers.echo") = .ok Worker.Samples.echo ∧
    Json.Carried (Json.depthLimit - 1) misleading ∧ Json.Carried (Json.depthLimit - 1) .null ∧
    (Number.int 6000).toReal = .ok (.finite false 6597069766656000 (-40)) ∧
    (Worker.Samples.echo misleading (given .null)).stdout = "" ∧
    (invocation.run (.ok worker.behaviour) false 0 0 opened.1).2.1 = .ok misleading :=
  ⟨rfl, carried_misleading, .null, rfl, rfl,
    (call_is_transported rfl 7 carried_misleading .null
      (show (Number.int 6000).toReal = .ok (.finite false 6597069766656000 (-40)) from rfl)
      rfl 0 0 ⟨.disabled, []⟩).2.2.2.1 misleading rfl carried_misleading⟩

def nameless : Handler := fun _ _ => ⟨"", "", .int 0, .raised (.plain "" "m")⟩

def onlyNameless : Json → Except Raised Handler := fun _ => .ok nameless

/-- A context that counts as false is not handed on, even one that is neither null nor empty. The
name of an error is not that of its type if the type has no name. A call whose timeout no double
holds is not waited for. -/
theorem not_every_call_is_transported :
    (¬ ∀ (resolve : Json → Except Raised Handler) (reference : String) (handler : Handler)
        (input context : Json), resolve (.str reference) = .ok handler →
        Json.Carried (Json.depthLimit - 1) input → Json.Carried (Json.depthLimit - 1) context →
        context ∉ [.null, .obj [], .arr [], .str ""] →
        ∀ number timeout, ∃ envelope,
          Json.decode (start (tagOf number) (.str reference) input context
            timeout).envelope.encode = .ok envelope ∧
          Worker.call resolve envelope = handler input context) ∧
    (¬ ∀ (resolve : Json → Except Raised Handler) (reference : String) (handler : Handler)
        (error : Raised), resolve (.str reference) = .ok handler →
        handler .null (.obj []) = ⟨"", "", .int 0, .raised error⟩ →
        ∀ number timeout journal,
          let invocation := start (tagOf number) (.str reference) .null (.obj []) timeout
          let worker := Worker.run resolve invocation.envelope.encode
          ∃ crash, (invocation.run (.ok worker.behaviour) false 0 0 journal).2.1 = .error crash ∧
            crash.name? = some (.str error.type)) ∧
    ¬ ∀ tag handler input context timeout, ∃ patience,
      (start tag handler input context timeout).patience = .ok patience := by
  refine ⟨fun same => ?_, fun named => ?_, fun waits => ?_⟩
  · obtain ⟨envelope, decoded, called⟩ := same
      (fun _ => .ok fun _ context => ⟨"", "", .int 0, .returned context⟩) "m.f" _
      .null (.bool false) rfl .null (.bool false) (by decide) 0 (.int 0)
    rw [decode_envelope _ _ .null (.bool false)] at decoded
    obtain rfl := Except.ok.inj decoded
    rw [call_envelope rfl] at called
    simp [given, Json.isFalsy] at called
  · have empty : Json.Carried (Json.depthLimit - 1) (.obj []) := carried_given .null
    have resolves : onlyNameless (.str "m.f") = .ok nameless := rfl
    obtain ⟨crash, failed, name⟩ := named onlyNameless "m.f" nameless _ resolves rfl 0 (.int 0)
      ⟨.disabled, []⟩
    obtain ⟨detail, same⟩ := run_of_raised resolves 0 .null empty (.int 0) rfl rfl 0 0
      ⟨.disabled, []⟩
    obtain rfl := Except.error.inj (same.symm.trans failed)
    rw [name?_of_text] at name
    simp [Raised.plain] at name
  · obtain ⟨n, large⟩ : ∃ n, 1025 ≤ Nat.log2 n :=
      ⟨_, le_log2_of_pow_le 1025 (Nat.le_refl _)⟩
    obtain ⟨patience, same⟩ := waits "" .null .null .null (.int n)
    rw [patience_of_large large] at same
    cases same

end Invocation

end StateFlow
