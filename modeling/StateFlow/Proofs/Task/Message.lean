import StateFlow.Proofs.Json.Written
import StateFlow.Proofs.Task.Reading
import StateFlow.Task.Invoker
import StateFlow.Worker

/-!
Messages. The line that a worker writes for its call is read as the message of the call, however
long it is, and the message alone decides how a call ends that is not cancelled.
-/
namespace StateFlow

def tagOf (number : Nat) : String := "sf-" ++ String.ofList (Text.hexDigits 32 number)

theorem toList_tagOf (number : Nat) :
    (tagOf number).toList = 's' :: 'f' :: '-' :: Text.hexDigits 32 number := by
  simp [tagOf]

namespace Json

theorem encodeChar_hexDigit {d : Nat} (h : d < 16) :
    encodeChar true (Text.hexDigit d) = [Text.hexDigit d] := by
  have : ∀ d, d < 16 → encodeChar true (Text.hexDigit d) = [Text.hexDigit d] := by decide
  exact this d h

theorem flatMap_hexDigits (width n : Nat) :
    (Text.hexDigits width n).flatMap (encodeChar true) = Text.hexDigits width n := by
  induction width generalizing n with
  | zero => rfl
  | succ width ih =>
    have last := encodeChar_hexDigit (Nat.mod_lt n (by decide : 16 > 0))
    simp [Text.hexDigits, ih, last]

theorem encodeText_tagOf (number : Nat) :
    encodeText true (tagOf number).toList = '"' :: (tagOf number).toList ++ ['"'] := by
  have first : encodeChar true 's' = ['s'] ∧ encodeChar true 'f' = ['f'] ∧
      encodeChar true '-' = ['-'] := by decide
  simp [encodeText, toList_tagOf, flatMap_hexDigits, first]

def messageStart (tag : String) : List Char := '\x7b' :: memberText ("tag", .str tag)

def messageRest (field : String × Json) : List Char := ',' :: memberText field ++ ['\x7d']

theorem encodeChars_message (tag : String) (field : String × Json) :
    encodeChars (.obj [("tag", .str tag), field]) = messageStart tag ++ messageRest field := by
  change '\x7b' :: (memberText ("tag", .str tag) ++
    [memberText field].flatMap ([','] ++ ·)) ++ ['\x7d'] = _
  simp [messageStart, messageRest]

theorem messageStart_tagOf (number : Nat) :
    messageStart (tagOf number) =
      ['\x7b', '"', 't', 'a', 'g', '"', ':', '"'] ++ (tagOf number).toList ++ ['"'] := by
  have key : encodeText true ['t', 'a', 'g'] = ['"', 't', 'a', 'g', '"'] := by decide
  simp [messageStart, memberText, key, encodeChars_str, encodeText_tagOf]

theorem feed_not_mem_tagOf (number : Nat) : '\n' ∉ (tagOf number).toList := by
  have single := not_mem_encodeChars (by decide : ¬ IsPrinting '\n') (.str (tagOf number))
  rw [encodeChars_str, encodeText_tagOf] at single
  exact fun mem => single (by simp [mem])

theorem occursIn_messageStart (number : Nat) :
    Text.occursIn (tagOf number).toList (messageStart (tagOf number)) = true := by
  rw [Text.occursIn_iff, messageStart_tagOf]
  exact ⟨['\x7b', '"', 't', 'a', 'g', '"', ':', '"'], ['"'], rfl⟩

theorem length_messageStart (number : Nat) : (messageStart (tagOf number)).length = 44 := by
  simp [messageStart_tagOf, toList_tagOf, Text.length_hexDigits]

theorem Carried.message {value : Json} (carried : Carried (depthLimit - 1) value) (tag : String)
    {key : String} (other : key ≠ "tag") :
    Carried depthLimit (.obj [("tag", .str tag), (key, value)]) := by
  have room : depthLimit = depthLimit - 1 + 1 := rfl
  rw [room]
  refine .obj (by simpa using Ne.symm other) fun field mem => ?_
  simp only [List.mem_cons, List.not_mem_nil, or_false] at mem
  rcases mem with rfl | rfl
  · exact .str tag
  · exact carried

end Json

namespace Invocation

theorem messageIn?_message (number : Nat) {key : String} {value : Json} (other : key ≠ "tag")
    (carried : Json.Carried (Json.depthLimit - 1) value) :
    let fields := [("tag", .str (tagOf number)), (key, value)]
    messageIn? (tagOf number) (Json.encodeChars (.obj fields) ++ ['\n']) = some fields := by
  intro fields
  have whole := carried.message (tagOf number) other
  have feed : Json.EndsNumber ['\n'] := Json.endsNumber_cons (by decide)
  have short : (Json.messageStart (tagOf number)).length ≤ pieceLimit := by
    rw [Json.length_messageStart]
    decide
  refine messageIn?_eq_some.2 ⟨?_, whole.decode (by decide) feed, by simp [fields, Json.lookup]⟩
  have holds := (Text.occursIn_iff _ _).1 (Json.occursIn_messageStart number)
  have begins : Json.messageStart (tagOf number) <+:
      (Json.encodeChars (.obj fields) ++ ['\n']).take pieceLimit := by
    rw [Json.encodeChars_message, List.append_assoc, List.take_append,
      List.take_of_length_le short]
    exact List.prefix_append _ _
  exact holds.trans begins.isInfix

theorem findSome?_message (number : Nat) {key : String} {value : Json} (other : key ≠ "tag")
    (carried : Json.Carried (Json.depthLimit - 1) value) (rest : List Char) :
    let fields := [("tag", .str (tagOf number)), (key, value)]
    (Text.lines (Json.encodeChars (.obj fields) ++ '\n' :: rest)).findSome?
      (messageIn? (tagOf number)) = some fields := by
  intro fields
  have single := Json.not_mem_encodeChars (by decide : ¬ Json.IsPrinting '\n') (.obj fields)
  rw [Text.lines_line single, List.findSome?_cons, messageIn?_message number other carried]

theorem message_readOutput {invocation : Invocation} (waiting : invocation.message = none)
    {number : Nat} (tagged : invocation.tag = tagOf number) {key : String} {value : Json}
    (other : key ≠ "tag") (carried : Json.Carried (Json.depthLimit - 1) value) :
    (invocation.readOutput
        ((Json.obj [("tag", .str invocation.tag), (key, value)]).encode ++ "\n").toList).message =
      some [("tag", .str invocation.tag), (key, value)] := by
  have text : ((Json.obj [("tag", .str invocation.tag), (key, value)]).encode ++ "\n").toList =
      Json.encodeChars (.obj [("tag", .str invocation.tag), (key, value)]) ++ '\n' :: [] := by
    simp [Json.encode]
  rw [readOutput_eq, (foldl_takeLine_of_waiting waiting _).1, text, tagged]
  exact findSome?_message number other carried []

theorem seen_ne_cancelled (invocation : Invocation) (worker : WorkerBehaviour) :
    invocation.seen worker false ≠ .cancelled := by
  unfold seen
  rw [if_neg Bool.false_ne_true]
  repeat' split
  all_goals decide

def ended (invocation : Invocation) (worker : WorkerBehaviour) : Invocation :=
  { invocation with
    message := (invocation.readOutput worker.stdout.toList).message
    stderr := ((Text.lines worker.stderr.toList).map shortened).foldl OutputTail.push
      invocation.stderr
    returnCode := some worker.returnCode }

theorem conclude_snd (invocation : Invocation) (worker : WorkerBehaviour) (cancelled : Bool) :
    (invocation.conclude worker cancelled).2 =
      (invocation.ended worker).outcome ((invocation.ended worker).seen worker cancelled) := by
  obtain ⟨message, stdout, newestFirst, read⟩ := invocation.readOutput_frame worker.stdout.toList
  obtain ⟨_, errors⟩ := { invocation with message, stdout, newestFirst }.readErrors_eq
    worker.stderr.toList
  rw [conclude, ended, read, errors]
  rfl

theorem run_congr {invocation : Invocation} {worker other : WorkerBehaviour}
    (message : (invocation.readOutput worker.stdout.toList).message =
      (invocation.readOutput other.stdout.toList).message)
    (errors : worker.stderr = other.stderr) (code : worker.returnCode = other.returnCode)
    (exits : worker.exits = other.exits) (cancelled : Bool) (started ended : Int)
    (journal : Journal) :
    (invocation.run (.ok worker) cancelled started ended journal).2.1 =
      (invocation.run (.ok other) cancelled started ended journal).2.1 := by
  have closed : invocation.ended worker = invocation.ended other := by
    rw [Invocation.ended, Invocation.ended, message, errors, code]
  change (invocation.conclude worker cancelled).2 = (invocation.conclude other cancelled).2
  rw [conclude_snd, conclude_snd, closed, seen, seen, exits]

theorem conclude_of_message {invocation : Invocation} {worker : WorkerBehaviour}
    {fields : List (String × Json)}
    (message : (invocation.readOutput worker.stdout.toList).message = some fields) :
    ∃ (closed : Invocation) (seen : Outcome), closed.message = some fields ∧ seen ≠ .cancelled ∧
      (invocation.conclude worker false).2 = closed.outcome seen :=
  ⟨invocation.ended worker, _, message, seen_ne_cancelled _ worker,
    invocation.conclude_snd worker false⟩

theorem run_of_no_message {invocation : Invocation} {worker : WorkerBehaviour}
    (message : (invocation.readOutput worker.stdout.toList).message = none)
    (exits : worker.exits = true) (inTime : invocation.isOverdue = false) (started ended : Int)
    (journal : Journal) :
    ∃ detail, (invocation.run (.ok worker) false started ended journal).2.1 =
      .error (.noResult invocation.handler (some worker.returnCode) detail) := by
  have inTime : (invocation.ended worker).isOverdue = false := inTime
  have message : (invocation.ended worker).message = none := message
  have seen : (invocation.ended worker).seen worker false = .exited := by
    simp [seen, inTime, message, exits]
  have result : (invocation.run (.ok worker) false started ended journal).2.1 =
      (invocation.ended worker).outcome .exited := seen ▸ invocation.conclude_snd worker false
  rw [result]
  simp only [outcome, message]
  exact ⟨_, rfl⟩

theorem outcome_of_result {invocation : Invocation} {fields : List (String × Json)} {value : Json}
    (message : invocation.message = some fields) (noError : Json.lookup "error" fields = none)
    (result : Json.lookup "result" fields = some value) {seen : Outcome}
    (going : seen ≠ .cancelled) : invocation.outcome seen = .ok value := by
  cases seen with
  | cancelled => exact absurd rfl going
  | _ => simp [outcome, message, noError, result]

theorem outcome_of_error {invocation : Invocation} {fields report : List (String × Json)}
    (message : invocation.message = some fields)
    (error : Json.lookup "error" fields = some (.obj report)) {seen : Outcome}
    (going : seen ≠ .cancelled) :
    ∃ errors, invocation.outcome seen = .error (reported (.obj report) errors) := by
  cases seen with
  | cancelled => exact absurd rfl going
  | _ => exact ⟨_, by simp [outcome, message, error, reportOf]; rfl⟩

theorem joinTexts_texts (position : Nat) (lines : List String) :
    joinTexts position (lines.map .str) = .ok (lines.flatMap String.toList) := by
  induction lines generalizing position with
  | nil => rfl
  | cons line lines ih =>
    rw [List.map_cons, joinTexts, ih]
    rfl

theorem traceText_texts (lines : List String) :
    ∃ text, traceText (.arr (lines.map .str)) = .ok text := by
  unfold traceText
  split
  · exact ⟨_, rfl⟩
  · exact ⟨_, joinTexts_texts 0 lines⟩

theorem reported_errorReport (error : Raised) (errors : List Char) :
    ∃ detail, reported (Worker.errorReport error) errors =
      .failed (.str error.type) (some (.str error.message)) detail := by
  obtain ⟨type, message, trace⟩ := error
  cases trace with
  | none => exact ⟨_, rfl⟩
  | some lines =>
    obtain ⟨text, same⟩ := traceText_texts lines
    have told : (Worker.errorReport ⟨type, message, some lines⟩).field "stackTrace" =
      .arr (lines.map .str) := rfl
    rw [reported, told, same]
    exact ⟨_, rfl⟩

theorem name?_of_text (type : String) (message : Option Json) (detail : String) :
    (TaskError.failed (.str type) message detail).name? =
      some (.str (if type = "" then "States.TaskFailed" else type)) := by
  by_cases empty : type = "" <;> simp [TaskError.name?, Json.isFalsy, empty]

theorem carried_errorReport (error : Raised) : Json.Carried 2 (Worker.errorReport error) := by
  obtain ⟨type, message, trace⟩ := error
  have texts (lines : List String) : Json.Carried 1 (.arr (lines.map .str)) := by
    refine .arr fun item mem => ?_
    obtain ⟨line, -, rfl⟩ := List.mem_map.1 mem
    exact .str line
  cases trace with
  | none =>
    have keys : ["errorType", "errorMessage"].Nodup := by decide
    refine .obj keys fun field mem => ?_
    simp only [Option.map_none, Option.toList_none, List.append_nil, List.mem_cons,
      List.not_mem_nil, or_false] at mem
    rcases mem with rfl | rfl <;> exact .str _
  | some lines =>
    have keys : ["errorType", "errorMessage", "stackTrace"].Nodup := by decide
    refine .obj keys fun field mem => ?_
    simp only [Option.map_some, Option.toList_some, List.cons_append, List.nil_append,
      List.mem_cons, List.not_mem_nil, or_false] at mem
    rcases mem with rfl | rfl | rfl
    · exact .str _
    · exact .str _
    · exact texts lines

theorem run_of_resultLine {invocation : Invocation} (waiting : invocation.message = none)
    {number : Nat} (tagged : invocation.tag = tagOf number) {value : Json}
    (carried : Json.Carried (Json.depthLimit - 1) value) {worker : WorkerBehaviour}
    (stdout : worker.stdout =
      (Json.obj [("tag", .str invocation.tag), ("result", value)]).encode ++ "\n")
    (started ended : Int) (journal : Journal) :
    (invocation.run (.ok worker) false started ended journal).2.1 = .ok value := by
  have reads := message_readOutput waiting tagged (by decide : "result" ≠ "tag") carried
  rw [← stdout] at reads
  obtain ⟨closed, seen, message, going, same⟩ := conclude_of_message reads
  have result := outcome_of_result message rfl rfl going
  rw [← same] at result
  exact result

theorem run_of_errorLine {invocation : Invocation} (waiting : invocation.message = none)
    {number : Nat} (tagged : invocation.tag = tagOf number) (error : Raised)
    {worker : WorkerBehaviour}
    (stdout : worker.stdout =
      (Json.obj [("tag", .str invocation.tag), ("error", Worker.errorReport error)]).encode ++ "\n")
    (started ended : Int) (journal : Journal) :
    ∃ detail, (invocation.run (.ok worker) false started ended journal).2.1 =
      .error (.failed (.str error.type) (some (.str error.message)) detail) := by
  have carried := (carried_errorReport error).mono (by decide : 2 ≤ Json.depthLimit - 1)
  have reads := message_readOutput waiting tagged (by decide : "error" ≠ "tag") carried
  rw [← stdout] at reads
  obtain ⟨closed, seen, message, going, same⟩ := conclude_of_message reads
  obtain ⟨errors, failed⟩ := outcome_of_error message rfl going
  obtain ⟨detail, report⟩ := reported_errorReport error errors
  have failed : closed.outcome seen = .error (reported (Worker.errorReport error) errors) := failed
  rw [report, ← same] at failed
  exact ⟨detail, failed⟩

end Invocation

end StateFlow
