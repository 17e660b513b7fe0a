import StateFlow.Json.Decode
import StateFlow.Json.Encode
import StateFlow.Log
import StateFlow.Number
import StateFlow.Task.OutputTail
import StateFlow.Text.Infix

/-!
One call of a task's handler by a worker. The worker is sent an envelope with the call and a tag,
and answers with a line that is an object with the same tag: the first such line is the message. All
else that the worker writes is logged, and the tails of it are kept.
-/
namespace StateFlow

structure Invocation where
  tag : String
  handler : Json
  input : Json
  context : Json
  timeoutMillis : Number
  returnCode : Option Int
  message : Option (List (String × Json))
  stdout : OutputTail
  stderr : OutputTail
  newestFirst : List Log.Record

namespace Invocation

def outputLimit : Nat := 65536

/-- A new call; an empty context of any kind is an empty object. -/
def start (tag : String) (handler input context : Json) (timeoutMillis : Number) : Invocation where
  tag
  handler
  input
  context := if context.isFalsy then .obj [] else context
  timeoutMillis
  returnCode := none
  message := none
  stdout := .empty outputLimit
  stderr := .empty outputLimit
  newestFirst := []

def envelope (invocation : Invocation) : Json :=
  .obj [("tag", .str invocation.tag), ("handler", invocation.handler),
    ("input", invocation.input), ("context", invocation.context)]

def summary (invocation : Invocation) : String :=
  "TaskInvocation(" ++ invocation.handler.display ++ " " ++ invocation.tag ++ ")"

def tagged? (tag : String) (line : List Char) : Option (List (String × Json)) :=
  if Text.occursIn tag.toList line then
    match Json.decode (String.ofList line) with
    | .ok (.obj fields) => if Json.lookup "tag" fields = some (.str tag) then some fields else none
    | _ => none
  else none

def receive (invocation : Invocation) (line : List Char) : Option Invocation :=
  if invocation.message.isSome then none
  else (tagged? invocation.tag line).map fun fields => { invocation with message := some fields }

def log (invocation : Invocation) (record : Log.Record) : Invocation :=
  { invocation with newestFirst := record :: invocation.newestFirst }

def records (invocation : Invocation) : List Log.Record := invocation.newestFirst.reverse

end Invocation

end StateFlow
