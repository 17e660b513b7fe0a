import StateFlow.Metrics
import StateFlow.Task.Invocation
import StateFlow.Text.Blank

/-!
How a call of a handler ends. A cancelled call is aborted whatever the worker wrote; otherwise the
message decides, and a call without one has timed out or crashed. What the worker wrote on its error
output is only a detail.
-/
namespace StateFlow

inductive Outcome where
  | result
  | exited
  | timedOut
  | cancelled
  deriving DecidableEq

inductive TraceError where
  | notList
  | notText (position : Nat) (item : Json)

def TraceError.message : TraceError → String
  | .notList => "can only join an iterable"
  | .notText position item =>
    "sequence item " ++ String.ofList (Decimal.digits position) ++
      ": expected str instance, " ++ item.kindName ++ " found"

/-- Why a call has no result. One whose timeout has too many digits cannot even be announced, one
that cannot be counted is not begun, and one whose timeout is beyond all doubles is not waited for;
such calls, and reports that cannot be read, have no error in the state language. -/
inductive TaskError where
  | cancelled (handler : Json)
  | timedOut (handler : Json) (timeoutMillis : Number) (detail : String)
  | noResult (handler : Json) (returnCode : Option Int) (detail : String)
  | failed (errorType : Json) (errorMessage : Option Json) (detail : String)
  | notStarted (handler : Json) (reason : String)
  | badTrace (cause : TraceError)
  | unwritableTimeout
  | notCounted (cause : Metrics.RecordError)
  | endless (cause : RealError)

namespace TaskError

/-- The name of the error in the state language, if it has one. A handler's own name for its error
counts unless it is empty in some way. -/
def name? : TaskError → Option Json
  | .cancelled _ => some (.str "States.Aborted")
  | .timedOut _ _ _ => some (.str "States.Timeout")
  | .noResult _ _ _ | .notStarted _ _ => some (.str "States.TaskFailed")
  | .failed errorType _ _ =>
    some (if errorType.isFalsy then .str "States.TaskFailed" else errorType)
  | .badTrace _ | .unwritableTimeout | .notCounted _ | .endless _ => none

def cause : TaskError → Json
  | .cancelled handler => .str ("Handler " ++ handler.display ++ " was cancelled")
  | .timedOut handler timeoutMillis _ =>
    .str ("Handler " ++ handler.display ++ " timed out after " ++ timeoutMillis.toJson.display ++
      "ms")
  | .noResult handler returnCode _ =>
    .str ("Handler " ++ handler.display ++ " exited with code " ++
      (match returnCode with
        | some code => Json.displayInt code
        | none => Json.null.display) ++ " without producing a result")
  | .failed _ errorMessage _ => errorMessage.getD (.str "")
  | .notStarted handler reason =>
    .str ("Unable to start worker for handler " ++ handler.display ++ ": " ++ reason)
  | .badTrace cause => .str cause.message
  | .unwritableTimeout => .str Text.unwritableMessage
  | .notCounted cause => .str cause.message
  | .endless cause => .str cause.message

def detail? : TaskError → Option String
  | .timedOut _ _ detail | .noResult _ _ detail | .failed _ _ detail => some detail
  | .notStarted _ _ => some ""
  | .cancelled _ | .badTrace _ | .unwritableTimeout | .notCounted _ | .endless _ => none

end TaskError

namespace Invocation

def joinTexts : Nat → List Json → Except TraceError (List Char)
  | _, [] => .ok []
  | position, .str s :: rest => do pure (s.toList ++ (← joinTexts (position + 1) rest))
  | position, item :: _ => .error (.notText position item)

/-- The text of a stack trace; an object stands for its keys. -/
def traceText (trace : Json) : Except TraceError (List Char) :=
  if trace.isFalsy then .ok []
  else match trace with
    | .str s => .ok s.toList
    | .arr items => joinTexts 0 items
    | .obj fields => .ok (fields.flatMap fun field => field.1.toList)
    | _ => .error .notList

def reportOf (error : Json) : Json :=
  match error with
  | .obj _ => error
  | value => .obj [("errorMessage", .str value.display)]

private def detailText (trace : List Char) (errors : List Char) : String :=
  String.ofList (if trace = [] then errors else if errors = [] then trace
    else trace ++ '\n' :: errors)

def reported (report : Json) (errors : List Char) : TaskError :=
  match traceText (report.field "stackTrace") with
  | .error cause => .badTrace cause
  | .ok trace =>
    .failed (report.field "errorType") (report.get? "errorMessage") (detailText trace errors)

def outcome (invocation : Invocation) (outcome : Outcome) : Except TaskError Json :=
  let errors := Text.strip invocation.stderr.text.toList
  match outcome, invocation.message with
  | .cancelled, _ => .error (.cancelled invocation.handler)
  | .timedOut, none =>
    .error (.timedOut invocation.handler invocation.timeoutMillis (String.ofList errors))
  | _, none => .error (.noResult invocation.handler invocation.returnCode (String.ofList errors))
  | _, some fields =>
    match (Json.lookup "error" fields).getD .null with
    | .null => .ok ((Json.lookup "result" fields).getD .null)
    | error => .error (reported (reportOf error) errors)

def closing (invocation : Invocation) : Except TaskError Json → List Log.Record
  | .ok _ => [.info ("Handler " ++ invocation.handler.display ++ " succeeded")]
  | .error error =>
    match error with
    | .timedOut _ _ _ | .noResult _ _ _ => [.error error.cause.display]
    | .failed errorType errorMessage _ =>
      [.error ("Handler " ++ invocation.handler.display ++ " failed: " ++ errorType.display ++
        ": " ++ (errorMessage.getD .null).display)]
    | .cancelled _ | .notStarted _ _ | .badTrace _ | .unwritableTimeout | .notCounted _
    | .endless _ => []

end Invocation

end StateFlow
