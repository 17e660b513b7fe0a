import StateFlow.Proofs.Json.Fuel
import StateFlow.Proofs.Transport

/-!
What a handler prints before its answer. The worker's line is written right behind it, so all that
stands after the last line end of the handler begins the line of the answer. The answer is found if
and only if that is blank and short (`LeavesRoom`).
-/
namespace StateFlow

namespace Text

theorem infix_take_append {lead word : List Char} {n : Nat}
    (fits : lead.length + word.length ≤ n) (back : List Char) :
    word <:+: (lead ++ (word ++ back)).take n := by
  have whole : (lead ++ word).length ≤ n := by simpa using fits
  rw [← List.append_assoc, List.take_append, List.take_of_length_le whole]
  exact ⟨lead, back.take (n - (lead ++ word).length), rfl⟩

theorem length_le_of_infix_take {c : Char} {word lead back : List Char} {n : Nat}
    (absent : c ∉ lead) (occurs : c :: word <:+: (lead ++ (c :: word ++ back)).take n) :
    lead.length + (c :: word).length ≤ n := by
  induction lead generalizing n with
  | nil =>
    have shorter := occurs.length_le
    rw [List.length_take] at shorter
    simp only [List.length_nil]
    omega
  | cons d lead ih =>
    simp only [List.mem_cons, not_or] at absent
    cases n with
    | zero => simp at occurs
    | succ n =>
      rw [List.cons_append, List.take_succ_cons, List.infix_cons_iff] at occurs
      rcases occurs with begins | inside
      · exact absurd (List.cons_prefix_cons.1 begins).1 absent.1
      · have fits := ih absent.2 inside
        rw [List.length_cons (a := d)]
        omega

end Text

namespace Worker

theorem answerLine_cases (tag : Json) (ending : HandlerEnd) :
    answerLine tag ending = "" ∨ ∃ field, (answerLine tag ending).toList =
      Json.encodeChars (.obj [("tag", tag), field]) ++ ['\n'] := by
  cases ending with
  | returned result => exact .inr ⟨("result", result), by simp [answerLine, Json.encode]⟩
  | raised error => exact .inr ⟨("error", errorReport error), by simp [answerLine, Json.encode]⟩
  | exited status => exact .inl rfl

theorem stdout_answered (tag : Json) (handled : HandlerRun) :
    (answered tag handled).behaviour.stdout.toList =
      Text.plainLines handled.stdout.toList ++
        (answerLine tag (answerable handled.ending)).toList := by
  have plain := Text.plainLines_of_not_mem (answerLine_plain tag (answerable handled.ending))
  simp only [answered, WorkerRun.behaviour, String.toList_ofList, String.toList_append]
  rcases answerLine_cases tag (answerable handled.ending) with none | ⟨field, line⟩
  · simp [none]
  · obtain ⟨rest, begins⟩ := Json.encodeChars_tagged tag [field]
    rw [line, begins] at plain ⊢
    rw [List.cons_append, Text.plainLines_append (by decide), ← List.cons_append, plain]

theorem stdout_answered_quiet (tag : Json) {handled : HandlerRun} (quiet : handled.stdout = "") :
    (answered tag handled).behaviour.stdout = answerLine tag (answerable handled.ending) := by
  have plain : '\r' ∉ (answered tag handled).stdout.toList := by
    simpa [answered, quiet] using answerLine_plain tag (answerable handled.ending)
  rw [WorkerRun.stdout_behaviour plain]
  simp [answered, quiet]

end Worker

namespace Invocation

/-- How long the beginning of an answer is, up to the end of its tag. -/
def tagEnd : Nat := 43

/-- What an answer can stand behind on its line: blanks, and so few that the first piece of the line
has the tag. -/
structure LeavesRoom (begun : List Char) : Prop where
  blank : ∀ c ∈ begun, Json.isTextBlank c = true
  short : begun.length + tagEnd ≤ pieceLimit

theorem LeavesRoom.nil : LeavesRoom [] := ⟨List.forall_mem_nil _, by decide⟩

theorem answer_parts (number : Nat) (field : String × Json) :
    ∃ lead back, Json.encodeChars (.obj [("tag", .str (tagOf number)), field]) ++ ['\n'] =
        lead ++ ((tagOf number).toList ++ back) ∧
      's' ∉ lead ∧ lead.length + (tagOf number).toList.length = tagEnd := by
  refine ⟨['\x7b', '"', 't', 'a', 'g', '"', ':', '"'], '"' :: (Json.messageRest field ++ ['\n']),
    ?_, by decide, ?_⟩
  · simp [Json.encodeChars_message, Json.messageStart_tagOf]
  · simp [toList_tagOf, Text.length_hexDigits, tagEnd]

theorem infix_take_answer_iff (number : Nat) (field : String × Json) {begun : List Char}
    (blank : ∀ c ∈ begun, Json.isTextBlank c = true) :
    (tagOf number).toList <:+: (begun ++ (Json.encodeChars (.obj [("tag", .str (tagOf number)),
        field]) ++ ['\n'])).take pieceLimit ↔ LeavesRoom begun := by
  obtain ⟨lead, back, parts, absent, length⟩ := answer_parts number field
  have length' : (begun ++ lead).length + (tagOf number).toList.length = begun.length + tagEnd := by
    rw [List.length_append]
    omega
  rw [parts, ← List.append_assoc]
  constructor
  · intro occurs
    have absent : 's' ∉ begun ++ lead := by
      rw [List.mem_append, not_or]
      exact ⟨fun mem => absurd (blank _ mem) (by decide), absent⟩
    rw [toList_tagOf] at occurs length'
    have fits := Text.length_le_of_infix_take absent occurs
    rw [length'] at fits
    exact ⟨blank, fits⟩
  · intro room
    have fits := room.short
    rw [← length'] at fits
    exact Text.infix_take_append fits back

theorem messageIn?_of_room (number : Nat) (field : String × Json) {begun : List Char}
    (room : LeavesRoom begun) :
    let line := Json.encodeChars (.obj [("tag", .str (tagOf number)), field]) ++ ['\n']
    messageIn? (tagOf number) (begun ++ line) = messageIn? (tagOf number) line := by
  intro line
  have behind := (infix_take_answer_iff number field room.blank).2 room
  have alone := (infix_take_answer_iff number field LeavesRoom.nil.blank).2 .nil
  rw [List.nil_append] at alone
  rw [messageIn?, messageIn?, if_pos ((Text.occursIn_iff _ _).2 behind),
    if_pos ((Text.occursIn_iff _ _).2 alone), Json.decode_blanks room.blank]

theorem messageIn?_of_no_room (number : Nat) (field : String × Json) {begun : List Char}
    (noRoom : ¬ LeavesRoom begun) :
    messageIn? (tagOf number) (begun ++ (Json.encodeChars (.obj [("tag", .str (tagOf number)),
      field]) ++ ['\n'])) = none := by
  refine Option.eq_none_iff_forall_ne_some.2 fun fields found => noRoom ?_
  obtain ⟨occurs, decoded, -⟩ := messageIn?_eq_some.1 found
  exact (infix_take_answer_iff number field (Json.blank_of_decode decoded)).1 occurs

theorem messageIn?_of_untagged {tag : String} {cs line : List Char}
    (untagged : ¬ tag.toList <:+: cs) (inside : line <:+: cs) : messageIn? tag line = none := by
  refine Option.eq_none_iff_forall_ne_some.2 fun fields found => untagged ?_
  have occurs := (messageIn?_eq_some.1 found).1
  exact (occurs.trans (List.take_prefix _ _).isInfix).trans inside

theorem messageIn?_nil (number : Nat) : messageIn? (tagOf number) [] = none :=
  messageIn?_of_untagged (by simp [toList_tagOf]) List.infix_rfl

theorem message_readOutput_untagged {invocation : Invocation}
    (waiting : invocation.message = none) {printed : List Char}
    (untagged : ¬ invocation.tag.toList <:+: printed) :
    (invocation.readOutput printed).message = none := by
  rw [readOutput_eq, (foldl_takeLine_of_waiting waiting _).1, List.findSome?_eq_none_iff]
  exact fun line mem => messageIn?_of_untagged untagged (Text.mem_lines mem)

theorem message_readOutput_append {invocation : Invocation} (waiting : invocation.message = none)
    {printed body : List Char} (untagged : ¬ invocation.tag.toList <:+: printed)
    (single : '\n' ∉ body) :
    (invocation.readOutput (printed ++ (body ++ ['\n']))).message =
      messageIn? invocation.tag (Text.begun printed ++ (body ++ ['\n'])) := by
  obtain ⟨front, same, inside⟩ := Text.lines_append_end single printed
  have passed : front.findSome? (messageIn? invocation.tag) = none :=
    List.findSome?_eq_none_iff.2 fun line mem => messageIn?_of_untagged untagged (inside line mem)
  rw [readOutput_eq, (foldl_takeLine_of_waiting waiting _).1, same, List.findSome?_append, passed,
    List.findSome?_singleton]
  rfl

section answer

variable {invocation : Invocation} {number : Nat} {handled : HandlerRun}

theorem untagged_plainLines (tagged : invocation.tag = tagOf number) {cs : List Char}
    (untagged : ¬ (tagOf number).toList <:+: cs) :
    ¬ invocation.tag.toList <:+: Text.plainLines cs := by
  rw [tagged]
  exact fun occurs => untagged (Text.infix_of_plainLines (Json.feed_not_mem_tagOf number) occurs)

theorem message_of_room (waiting : invocation.message = none)
    (tagged : invocation.tag = tagOf number)
    (untagged : ¬ (tagOf number).toList <:+: handled.stdout.toList)
    (room : LeavesRoom (Text.begun (Text.plainLines handled.stdout.toList))) :
    (invocation.readOutput
        (Worker.answered (.str (tagOf number)) handled).behaviour.stdout.toList).message =
      messageIn? (tagOf number)
        (Worker.answerLine (.str (tagOf number)) (Worker.answerable handled.ending)).toList := by
  have untagged := untagged_plainLines tagged untagged
  rw [Worker.stdout_answered]
  rcases Worker.answerLine_cases (.str (tagOf number)) (Worker.answerable handled.ending) with
    none | ⟨field, line⟩
  · rw [none, String.toList_empty, List.append_nil, message_readOutput_untagged waiting untagged,
      messageIn?_nil]
  · have single := Json.not_mem_encodeChars (by decide : ¬ Json.IsPrinting '\n')
      (.obj [("tag", .str (tagOf number)), field])
    rw [line, message_readOutput_append waiting untagged single, tagged]
    exact messageIn?_of_room number field room

theorem message_of_no_room (waiting : invocation.message = none)
    (tagged : invocation.tag = tagOf number)
    (untagged : ¬ (tagOf number).toList <:+: handled.stdout.toList)
    (noRoom : ¬ LeavesRoom (Text.begun (Text.plainLines handled.stdout.toList))) :
    (invocation.readOutput
        (Worker.answered (.str (tagOf number)) handled).behaviour.stdout.toList).message =
      none := by
  have untagged := untagged_plainLines tagged untagged
  rw [Worker.stdout_answered]
  rcases Worker.answerLine_cases (.str (tagOf number)) (Worker.answerable handled.ending) with
    none | ⟨field, line⟩
  · rw [none, String.toList_empty, List.append_nil, message_readOutput_untagged waiting untagged]
  · have single := Json.not_mem_encodeChars (by decide : ¬ Json.IsPrinting '\n')
      (.obj [("tag", .str (tagOf number)), field])
    rw [line, message_readOutput_append waiting untagged single, tagged]
    exact messageIn?_of_no_room number field noRoom

theorem run_quiet_of_returned (waiting : invocation.message = none)
    (tagged : invocation.tag = tagOf number) (quiet : handled.stdout = "") {result : Json}
    (returned : handled.ending = .returned result)
    (carried : Json.Carried (Json.depthLimit - 1) result) (started ended : Int)
    (journal : Journal) :
    (invocation.run (.ok (Worker.answered (.str invocation.tag) handled).behaviour) false started
      ended journal).2.1 = .ok result := by
  have written := Worker.stdout_answered_quiet (.str invocation.tag) quiet
  rw [returned, Worker.answerable, if_pos carried.isWritable, Worker.answerLine] at written
  exact run_of_resultLine waiting tagged carried written started ended journal

theorem run_quiet_of_raised (waiting : invocation.message = none)
    (tagged : invocation.tag = tagOf number) (quiet : handled.stdout = "") {error : Raised}
    (raised : handled.ending = .raised error) (started ended : Int) (journal : Journal) :
    ∃ detail, (invocation.run (.ok (Worker.answered (.str invocation.tag) handled).behaviour) false
      started ended journal).2.1 =
        .error (.failed (.str error.type) (some (.str error.message)) detail) := by
  have written := Worker.stdout_answered_quiet (.str invocation.tag) quiet
  have answer : Worker.answerable (.raised error) = .raised error := rfl
  rw [raised, answer, Worker.answerLine] at written
  exact run_of_errorLine waiting tagged error written started ended journal

end answer

/-- What a handler prints, without the tag of its call, hides its answer if and only if something
other than a few blanks is left behind its last line end. If there is room, the call ends as if
nothing had been printed: with the result, or with the error that was raised. If there is none, it
ends as if the worker had ended in the same way without an answer. -/
theorem answer_after_printing (number : Nat) (handler input context : Json) (timeout : Number)
    {handled : HandlerRun} (untagged : ¬ (tagOf number).toList <:+: handled.stdout.toList)
    (cancelled : Bool) (started ended : Int) (journal : Journal) :
    let fresh := start (tagOf number) handler input context timeout
    let worker (run : HandlerRun) := (Worker.answered (.str fresh.tag) run).behaviour
    let message (run : HandlerRun) := (fresh.readOutput (worker run).stdout.toList).message
    let answer (run : HandlerRun) :=
      (fresh.run (.ok (worker run)) cancelled started ended journal).2.1
    let quiet := { handled with stdout := "" }
    let status := Worker.statusOf (Worker.answerable handled.ending)
    let room := LeavesRoom (Text.begun (Text.plainLines handled.stdout.toList))
    (room → message handled = message quiet ∧ answer handled = answer quiet ∧
      (cancelled = false →
        (∀ result, handled.ending = .returned result →
          Json.Carried (Json.depthLimit - 1) result → answer handled = .ok result) ∧
        ∀ error, handled.ending = .raised error → ∃ detail, answer handled =
          .error (.failed (.str error.type) (some (.str error.message)) detail))) ∧
    (¬ room → message handled = none ∧
      answer handled = answer { quiet with ending := .exited status } ∧
      (cancelled = false → fresh.isOverdue = false →
        ∃ detail, answer handled = .error (.noResult handler (some status) detail))) := by
  intro fresh worker message answer quiet status room
  have waiting : fresh.message = none := rfl
  have tagged : fresh.tag = tagOf number := rfl
  have silent (run : HandlerRun) (quiet : run.stdout = "") :
      ¬ (tagOf number).toList <:+: run.stdout.toList := by
    simp [quiet, toList_tagOf]
  have atOnce (run : HandlerRun) (quiet : run.stdout = "") :
      LeavesRoom (Text.begun (Text.plainLines run.stdout.toList)) := by
    rw [quiet]
    exact .nil
  have nothing : quiet.stdout = "" := rfl
  refine ⟨fun room => ?_, fun noRoom => ?_⟩
  · have same : message handled = message quiet :=
      (message_of_room waiting tagged untagged room).trans
        (message_of_room waiting tagged (silent quiet nothing) (atOnce quiet nothing)).symm
    have asQuiet : answer handled = answer quiet :=
      run_congr same rfl rfl rfl cancelled started ended journal
    refine ⟨same, asQuiet, ?_⟩
    rintro rfl
    rw [asQuiet]
    refine ⟨fun result returned carried => ?_, fun error raised => ?_⟩
    · exact run_quiet_of_returned waiting tagged nothing returned carried started ended journal
    · exact run_quiet_of_raised waiting tagged nothing raised started ended journal
  · have lost : message handled = none := message_of_no_room waiting tagged untagged noRoom
    have unanswered : message { quiet with ending := .exited status } = none := by
      have noLine : (Worker.answerLine (.str (tagOf number))
          (Worker.answerable (.exited status))).toList = [] := String.toList_empty
      refine (message_of_room waiting tagged (silent _ rfl) (atOnce _ rfl)).trans ?_
      rw [noLine, messageIn?_nil]
    have asLost : answer handled = answer { quiet with ending := .exited status } :=
      run_congr (lost.trans unanswered.symm) rfl rfl rfl cancelled started ended journal
    refine ⟨lost, asLost, ?_⟩
    rintro rfl inTime
    exact run_of_no_message lost rfl inTime started ended journal

theorem answer_after_printing_of_blanks :
    let fresh := start (tagOf 7) (.str "handlers.echo") .null .null (.int 6000)
    let handled : HandlerRun := ⟨"done\n  ", "", .int 0, .returned (.str "é")⟩
    ¬ (tagOf 7).toList <:+: handled.stdout.toList ∧
    LeavesRoom (Text.begun (Text.plainLines handled.stdout.toList)) ∧
    (fresh.run (.ok (Worker.answered (.str fresh.tag) handled).behaviour) false 0 0
      ⟨.disabled, []⟩).2.1 = .ok (.str "é") := by
  intro fresh handled
  have untagged : ¬ (tagOf 7).toList <:+: handled.stdout.toList := by
    rw [← Text.occursIn_iff]
    decide
  have room : LeavesRoom (Text.begun (Text.plainLines handled.stdout.toList)) :=
    ⟨List.all_eq_true.1 (by decide), by decide⟩
  have answered := (answer_after_printing 7 (.str "handlers.echo") .null .null (.int 6000) untagged
    false 0 0 ⟨.disabled, []⟩).1 room
  exact ⟨untagged, room, (answered.2.2 rfl).1 (.str "é") rfl (.str "é")⟩

/-- A text without a line end is enough to hide a result. -/
theorem answer_hidden_by_open_line :
    let fresh := start (tagOf 7) (.str "handlers.echo") .null .null (.int 6000)
    let handled : HandlerRun := ⟨"x", "", .int 0, .returned (.str "é")⟩
    let answer (run : HandlerRun) :=
      (fresh.run (.ok (Worker.answered (.str fresh.tag) run).behaviour) false 0 0
        ⟨.disabled, []⟩).2.1
    ¬ (tagOf 7).toList <:+: handled.stdout.toList ∧
    (∃ detail, answer handled = .error (.noResult (.str "handlers.echo") (some 0) detail)) ∧
    answer { handled with stdout := "" } = .ok (.str "é") := by
  intro fresh handled answer
  have waiting : fresh.message = none := rfl
  have tagged : fresh.tag = tagOf 7 := rfl
  have untagged : ¬ (tagOf 7).toList <:+: handled.stdout.toList := by
    rw [← Text.occursIn_iff]
    decide
  have noRoom : ¬ LeavesRoom (Text.begun (Text.plainLines handled.stdout.toList)) :=
    fun room => absurd (room.blank 'x' (by decide)) (by decide)
  have lost := message_of_no_room waiting tagged untagged noRoom
  have inTime : fresh.isOverdue = false := by decide
  have nothing : { handled with stdout := "" }.stdout = "" := rfl
  exact ⟨untagged, run_of_no_message lost rfl inTime 0 0 ⟨.disabled, []⟩,
    run_quiet_of_returned waiting tagged nothing rfl (.str "é") 0 0 ⟨.disabled, []⟩⟩

end Invocation

end StateFlow
