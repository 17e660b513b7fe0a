import StateFlow.CommandLine
import StateFlow.Log.Output
import Std.Time.DateTime.Timestamp

/-!
The program. It reads the files and the environment variables that a run can look at, runs the
command line on them, and writes what that prints; log records go to the error output.
-/
open StateFlow

private def readIfThere (name : String) : IO Files := do
  try
    pure [(name, ← IO.FS.readFile name)]
  catch _ => pure []

private def environmentNames : List String :=
  ["STATE_ENGINE_DEFINITION_FILE", "TASK_INVOKER_TIMEOUT_MILLIS", "TASK_INVOKER_HANDLER_ROOT",
    "TASK_INVOKER_PYTHON", "METRICS_IMPLEMENTATION", "METRICS_NAMESPACE", "LOG_LEVEL",
    "USE_STRUCTURED_LOGGING"]

private def readEnvironment : IO (List (String × String)) :=
  environmentNames.filterMapM fun name => do
    pure ((← IO.getEnv name).map fun value => (name, value))

private def readFiles (environment : List (String × String)) : IO Files := do
  let configuration ← readIfThere CommandLine.configurationFile
  let surroundings : Surroundings := ⟨configuration, environment, ""⟩
  let file := (configuration.head?.map fun file => Json.str file.1).getD .null
  match Workflow.definitionFile? surroundings file with
  | some name => pure (configuration ++ (← readIfThere name))
  | none => pure configuration

def main (arguments : List String) : IO UInt32 := do
  let environment ← readEnvironment
  let surroundings : Surroundings := ⟨← readFiles environment, environment, ""⟩
  let now := (← Std.Time.Timestamp.now).toMillisecondsSinceUnixEpoch.val
  let world : World := ⟨now, Number.sleepable, [], Worker.Samples.resolve, [], []⟩
  let report := CommandLine.run surroundings world arguments
  let output := Log.Output.ofEnvironment "offline_step_functions" environment
  for record in Log.Output.opening :: report.records do
    if let some line := output.write? (Clock.now now) [] record then IO.eprintln line
  IO.eprint report.stderr
  IO.print report.stdout
  match report.status with
  | .ok status => pure status.toUInt32
  | .error cause =>
    IO.eprintln cause.message
    pure 1
