import StateFlow.Worker.Samples
import StateFlow.Workflow

/-!
The command line: the name of a state machine, and its input as JSON text if it is not an empty
object. The description of the execution is printed, and the exit status says whether it succeeded.
-/
namespace StateFlow.CommandLine

inductive CommandError where
  | input (cause : Json.DecodeError)
  | workflow (cause : WorkflowError)
  | start (cause : StartError)

def CommandError.message : CommandError → String
  | .input cause => cause.message
  | .workflow cause => cause.message
  | .start cause => cause.message

structure Report where
  stdout : String
  stderr : String
  records : List Log.Record
  status : Except CommandError Nat

def usage : String :=
  "Usage: python3 -m offline_step_functions.workflow_engine <state machine> ['<input JSON>']\n"

def configurationFile : String := "config.json"

private def failed (records : List Log.Record) (cause : CommandError) : Report :=
  ⟨"", "", records, .error cause⟩

private def described (records : List Log.Record) (description : Json) : Report where
  stdout := description.encodeIndented ++ "\n"
  stderr := ""
  records
  status := .ok (if description.field "status" = .str Status.succeeded.name then 0 else 1)

private def execute (surroundings : Surroundings) (world : World) (machine : String)
    (input : Json) : Report :=
  let file := if surroundings.files.isFile configurationFile then .str configurationFile else .null
  match Workflow.create surroundings file with
  | (records, .error cause) => failed records (.workflow cause)
  | (records, .ok workflow) =>
    match Workflow.run ⟨workflow.engine, world⟩ (.str machine) input with
    | .error cause => failed records (.start cause)
    | .ok (simulation, description) =>
      described simulation.engine.journal.records description

def run (surroundings : Surroundings) (world : World) (arguments : List String) : Report :=
  match arguments with
  | [] => ⟨"", usage, [], .ok 2⟩
  | [machine] => execute surroundings world machine (.obj [])
  | machine :: input :: _ =>
    match Json.decode input with
    | .ok input => execute surroundings world machine input
    | .error cause => failed [] (.input cause)

end StateFlow.CommandLine
