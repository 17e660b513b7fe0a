import StateFlow.Execution
import StateFlow.Json.Encode

/-!
What can be told about an execution from outside: its status, its description and its result.
-/
namespace StateFlow

inductive Status where
  | running
  | succeeded
  | failed
  deriving DecidableEq

def Status.name : Status → String
  | .running => "RUNNING"
  | .succeeded => "SUCCEEDED"
  | .failed => "FAILED"

namespace Ending

def status : Ending → Status
  | .succeeded _ => .succeeded
  | .failed _ => .failed

def output : Ending → Json
  | .succeeded output => output
  | .failed _ => .null

def failure? : Ending → Option Failure
  | .succeeded _ => none
  | .failed failure => some failure

def error (ending : Ending) : Json := (ending.failure?.map Failure.name).getD .null

def cause (ending : Ending) : Json := (ending.failure?.map Failure.cause).getD .null

end Ending

structure Result where
  executionId : String
  ending : Ending
  startTime : String
  stopTime : String

def Result.summary (result : Result) : String :=
  "ExecutionResult(" ++ result.executionId ++ " " ++ result.ending.status.name ++ " error=" ++
    result.ending.error.display ++ ")"

namespace Execution

def status (execution : Execution) : Status :=
  (execution.ending?.map Ending.status).getD .running

def result? (execution : Execution) : Option Result :=
  match execution.phase with
  | .finished ending stopMillis =>
    some ⟨execution.id, ending, execution.startTime, Clock.now stopMillis⟩
  | _ => none

def unfinishedMessage (execution : Execution) (timeout : Json) : String :=
  "Execution " ++ execution.id ++ " did not finish within " ++ timeout.display ++ "s"

private def endingFields (result : Result) : List (String × Json) :=
  ("stopDate", .str result.stopTime) ::
    match result.ending with
    | .succeeded output => [("output", .str output.encode)]
    | .failed failure => [("error", failure.name), ("cause", failure.cause)]

def description (execution : Execution) : Json :=
  .obj ([("executionId", .str execution.id),
    ("stateMachineName", .str execution.machine.name),
    ("status", .str execution.status.name), ("startDate", .str execution.startTime),
    ("input", .str execution.input.encode)] ++ (execution.result?.map endingFields).getD [])

end Execution

end StateFlow
