import StateFlow.Json.Decode
import StateFlow.Json.Encode
import StateFlow.Json.Writable
import StateFlow.Number
import StateFlow.Worker.Reference

/-!
The worker. It reads one envelope, calls the handler that the envelope refers to, and writes one
line with the tag of the envelope and the handler's result or error. An envelope that it cannot use
is reported on the error output alone.
-/
namespace StateFlow

/-- An error that a handler raises: the name of its type, its text, and the lines of its stack trace
if that is told. -/
structure Raised where
  type : String
  message : String
  stackTrace : Option (List String)

namespace Raised

def plain (type message : String) : Raised := ⟨type, message, none⟩

def ofKind (error : KindError) : Raised := plain error.typeName error.message

def ofReference (error : ReferenceError) : Raised := plain error.typeName error.message

end Raised

/-- How a handler ends; one that ends its worker leaves no answer. -/
inductive HandlerEnd where
  | returned (result : Json)
  | raised (error : Raised)
  | exited (status : Int)

structure HandlerRun where
  stdout : String
  stderr : String
  seconds : Number
  ending : HandlerEnd

abbrev Handler := Json → Json → HandlerRun

structure WorkerRun where
  stdout : String
  stderr : String
  seconds : Number
  status : Int

namespace Worker

def errorReport (error : Raised) : Json :=
  .obj ([("errorType", .str error.type), ("errorMessage", .str error.message)] ++
    (error.stackTrace.map fun lines => ("stackTrace", .arr (lines.map .str))).toList)

def answerable : HandlerEnd → HandlerEnd
  | .returned result =>
    if result.isWritable then .returned result
    else .raised (.plain "ValueError" Text.unwritableMessage)
  | ending => ending

def answerLine (tag : Json) : HandlerEnd → String
  | .returned result => (Json.obj [("tag", tag), ("result", result)]).encode ++ "\n"
  | .raised error => (Json.obj [("tag", tag), ("error", errorReport error)]).encode ++ "\n"
  | .exited _ => ""

def statusOf : HandlerEnd → Int
  | .returned _ => 0
  | .raised _ => 1
  | .exited status => status

def call (resolve : Json → Except Raised Handler) (envelope : Json) : HandlerRun :=
  match resolve ((envelope.get? "handler").getD (.str "")) with
  | .error error => ⟨"", "", .int 0, .raised error⟩
  | .ok handler => handler (envelope.field "input") ((envelope.get? "context").getD (.obj []))

private def refused (reason : String) : WorkerRun := ⟨"", reason, .int 0, 2⟩

def answered (tag : Json) (handled : HandlerRun) : WorkerRun :=
  let ending := answerable handled.ending
  { stdout := handled.stdout ++ answerLine tag ending
    stderr := handled.stderr
    seconds := handled.seconds
    status := statusOf ending }

def run (resolve : Json → Except Raised Handler) (text : String) : WorkerRun :=
  match Json.decode text with
  | .error cause => refused ("Unable to parse task envelope: " ++ cause.message ++ "\n")
  | .ok envelope =>
    match envelope.get? "tag" with
    | none => refused "Task envelope has no tag\n"
    | some tag => answered tag (call resolve envelope)

end Worker

end StateFlow
