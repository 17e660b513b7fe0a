import StateFlow.Execution.Wait
import StateFlow.Number.Whole
import StateFlow.Path.Result
import StateFlow.Rule.Evaluate
import StateFlow.Task.Outcome

/-!
Why an execution fails. A failure that the state language knows has a name and a cause; any other
one is unexpected and is reported under the name for errors at run time, with its text as the cause.
A text that cannot be written is such a failure.
-/
namespace StateFlow

/-- What a cancelled execution was doing: nothing, or waiting in a state. -/
inductive AbortPoint where
  | betweenStates
  | waiting (state : String)

inductive Failure where
  | path (cause : PathError)
  | resultPath (cause : ResultPathError)
  | noMatch (state : String)
  | wait (cause : WaitError)
  | unsupported (typeName state : String)
  | aborted (execution : String) (point : AbortPoint)
  | failState (error cause : Json)
  | task (cause : TaskError)
  | lookup (cause : LookupError)
  | timeout (cause : WholeError)
  | sleep (cause : SleepError)
  | unwritable

namespace Failure

def ofReported {ε : Type} (failure : ε → Failure) : Reported ε → Failure
  | .told cause => failure cause
  | .unwritable => .unwritable

def ofChoice : ChoiceError → Failure
  | .path cause => .path cause
  | .noMatch state => .noMatch state

private def orElse (value fallback : Json) : Json := if value.isFalsy then fallback else value

def name? : Failure → Option Json
  | .path _ | .wait _ | .unsupported _ _ => some (.str "States.Runtime")
  | .resultPath _ => some (.str "States.ResultPathMatchFailure")
  | .noMatch _ => some (.str "States.NoChoiceMatched")
  | .aborted _ _ => some (.str "States.Aborted")
  | .failState error _ => some (orElse error (.str "States.Fail"))
  | .task cause => cause.name?
  | .lookup (.noMachine _) | .lookup (.noState _ _) => some (.str "States.NotFound")
  | .lookup (.unhashable _) | .timeout _ | .sleep _ | .unwritable => none

def unexpectedName : Json := .str "States.Runtime"

def name (failure : Failure) : Json := failure.name?.getD unexpectedName

private theorem isFalsy_orElse {value fallback : Json} (given : fallback.isFalsy = false) :
    (orElse value fallback).isFalsy = false := by
  unfold orElse
  split
  · exact given
  · next full => simpa using full

theorem isFalsy_name (failure : Failure) : failure.name.isFalsy = false := by
  cases failure with
  | failState error cause => exact isFalsy_orElse (by simp [Json.isFalsy])
  | task error =>
    cases error with
    | failed errorType errorMessage detail =>
      simp only [name, name?, TaskError.name?]
      split
      · simp [Json.isFalsy]
      · next full => simpa using full
    | _ => simp [name, name?, TaskError.name?, unexpectedName, Json.isFalsy]
  | lookup error => cases error <;> simp [name, name?, unexpectedName, Json.isFalsy]
  | _ => simp [name, name?, unexpectedName, Json.isFalsy]

def cause : Failure → Json
  | .path cause => .str cause.message
  | .resultPath cause => .str cause.message
  | .noMatch state => .str (ChoiceError.noMatch state).message
  | .wait cause => .str cause.message
  | .unsupported typeName state =>
    .str (typeName ++ " state \"" ++ state ++ "\" is not supported")
  | .aborted execution .betweenStates => .str ("Execution " ++ execution ++ " was cancelled")
  | .aborted execution (.waiting state) =>
    .str ("Execution " ++ execution ++ " was cancelled in Wait state \"" ++ state ++ "\"")
  | .failState _ cause => orElse cause (.str "")
  | .task cause => cause.cause
  | .lookup cause => .str cause.message
  | .timeout cause => .str cause.message
  | .sleep cause => .str cause.message
  | .unwritable => .str Text.unwritableMessage

end Failure

end StateFlow
