import StateFlow.Json.Kind
import StateFlow.Log
import StateFlow.Metrics

/-!
Metrics as a configuration asks for them. They are kept if the implementation named is the one there
is, under a namespace if one is given; with the namespace in front the names must be metric names.
-/
namespace StateFlow

inductive MetricsError where
  | kind (cause : KindError)
  | invalidName (name : String)

def MetricsError.message : MetricsError → String
  | .kind cause => cause.message
  | .invalidName name => "Invalid metric name: " ++ name

namespace Metrics

def lead (ns : String) : String := if ns = "" then "" else ns ++ "_"

def isNameStart (c : Char) : Bool :=
  ('a' ≤ c && c ≤ 'z') || ('A' ≤ c && c ≤ 'Z') || c == '_' || c == ':'

def isNameRest (c : Char) : Bool := isNameStart c || ('0' ≤ c && c ≤ '9')

def isName : List Char → Bool
  | [] => false
  | c :: rest => isNameStart c && rest.all isNameRest

def namesIn (ns : String) : List String :=
  (Ledger.names.map (lead ns ++ ·)).mergeSort

private def firstName (ns : String) : String := lead ns ++ "ExecutionTime"

def inNamespace (ns : String) : Except MetricsError Metrics :=
  if isName (firstName ns).toList then .ok (.enabled ns .empty)
  else .error (.invalidName (firstName ns))

def enabledMessage (ns : String) : String :=
  if ns = "" then "Enabling Prometheus Metrics"
  else "Enabling Prometheus Metrics in namespace: " ++ ns

private def wanted (config : Json) : Except KindError Bool := do
  if config.isFalsy then pure false
  else pure ((← config.memberOr .null "implementation") == .str "Prometheus")

def configure (config : Json) : List Log.Record × Except MetricsError Metrics :=
  match wanted config with
  | .error cause => ([], .error (.kind cause))
  | .ok false => ([], .ok .disabled)
  | .ok true =>
    match (config.get? "namespace").getD (.str "") with
    | .str ns => ([.info (enabledMessage ns)], inNamespace ns)
    | ns =>
      if ns.isFalsy then ([.info (enabledMessage "")], inNamespace "")
      else ([], .error (.kind (.notJoined ns "str")))

end Metrics

end StateFlow
