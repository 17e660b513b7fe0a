import StateFlow.Json.Encode
import StateFlow.Log
import StateFlow.Text.Lowercase

/-!
Log output. The environment says from which level on records are written, and whether as plain lines
or as JSON objects; the latter also hold the values bound to the running execution. The time of a
record is given as a text.
-/
namespace StateFlow.Log

structure Output where
  name : String
  threshold : Level
  structured : Bool

namespace Output

def thresholds : List (String × Level) :=
  [("DEBUG", .debug), ("INFO", .info), ("WARN", .warning), ("ERROR", .error),
    ("CRITICAL", .critical)]

private def capital (c : Char) : Char :=
  if c = 'ı' then 'I' else if c = 'ſ' then 'S' else c.toUpper

def thresholdNamed (name : String) : Level :=
  (thresholds.lookup (String.ofList (name.toList.map capital))).getD .info

/-- The output without a name is the root of all. -/
def ofEnvironment (name : String) (environment : List (String × String)) : Output where
  name := if name = "" then "root" else name
  threshold := thresholdNamed ((environment.lookup "LOG_LEVEL").getD "INFO")
  structured :=
    Text.lower ((environment.lookup "USE_STRUCTURED_LOGGING").getD "false").toList ==
      "true".toList

private def padded (width : Nat) (s : String) : String :=
  s ++ String.ofList (List.replicate (width - s.length) ' ')

def plainText (output : Output) (time : String) (record : Record) : String :=
  "[" ++ time ++ "] " ++ padded 8 record.level.name ++ " - " ++ padded 15 output.name ++ " : " ++
    record.message

/-- Bound values of these names are about the record itself and are not written. -/
def hiddenNames : List String := ["exc_info", "stack_info", "_record", "_from_structlog"]

def argumentsName : String := "positional_args"

/-- What a list or an object fills the places of a message with: itself, or the members of the only
item of the list. -/
private def filling (arguments : Json) : Json :=
  match arguments with
  | .arr [.obj (field :: fields)] => .obj (field :: fields)
  | arguments => arguments

/-- The message with its places filled: `%s` and `%r` by the whole value, `%(key)s` and `%(key)r` by
a member of it, and `%%` by a percent sign. Other places stay. -/
def filled (value : Json) : Nat → List Char → List Char
  | _, [] => []
  | skip + 1, _ :: rest => filled value skip rest
  | 0, c :: rest =>
    if c ≠ '%' then c :: filled value 0 rest
    else match rest with
      | '%' :: _ => '%' :: filled value 1 rest
      | 's' :: _ => value.display.toList ++ filled value 1 rest
      | 'r' :: _ => value.quoted.toList ++ filled value 1 rest
      | '(' :: keyed =>
        let key := keyed.takeWhile (· ≠ ')')
        match value.get? (String.ofList key), keyed.drop (key.length + 1) with
        | some member, 's' :: _ => member.display.toList ++ filled value (key.length + 3) rest
        | some member, 'r' :: _ => member.quoted.toList ++ filled value (key.length + 3) rest
        | _, _ => c :: filled value 0 rest
      | _ => c :: filled value 0 rest

/-- Empty arguments of any kind fill nothing. -/
def eventText (arguments : Json) (message : String) : String :=
  if arguments.isFalsy then message
  else String.ofList (filled (filling arguments) 0 message.toList)

/-- Bound values stand after the message, in the order of their names' first use; the name, the
level and the time of the record replace bound values of those names. -/
def objectText (output : Output) (time : String) (bound : List (String × Json))
    (record : Record) : String :=
  let arguments := (Json.lookup argumentsName bound).getD .null
  let shown := bound.filter fun (k, v) =>
    !hiddenNames.contains k && (k ≠ argumentsName || v = .null)
  let start := shown.foldl
    (fun fields (k, v) => if (Json.lookup k fields).isSome then fields else fields ++ [(k, v)])
    [("event", .str (eventText arguments record.message))]
  let fields := [("logger", output.name),
      ("level", String.ofList (Text.lower record.level.name.toList)), ("@timestamp", time)].foldl
    (fun fields (k, v) => Json.insert k (.str v) fields) start
  (Json.obj fields).encode

def write? (output : Output) (time : String) (bound : List (String × Json)) (record : Record) :
    Option String :=
  if record.level.rank < output.threshold.rank then none
  else some (if output.structured then output.objectText time bound record
    else output.plainText time record)

def opening : Record := .debug "DEBUG enabled"

end Output

end StateFlow.Log
