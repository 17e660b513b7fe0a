import StateFlow.Machine
import StateFlow.Number.Whole
import StateFlow.Path
import StateFlow.Timestamp

/-!
How long a waiting state waits: seconds or an instant, each given by the state or found in its
input. An instant in the past is no wait.
-/
namespace StateFlow

inductive WaitError where
  | unresolved (state : String) (path : Json) (cause : PathError)
  | notSeconds (state : String) (value : Json)
  | notTimestamp (state : String) (value : Json)
  | unset (state : String)

def WaitError.message : WaitError → String
  | .unresolved state path cause =>
    "Wait state \"" ++ state ++ "\" could not resolve " ++ path.display ++ ": " ++ cause.message
  | .notSeconds state value =>
    "Wait state \"" ++ state ++ "\" requires a non-negative number of seconds, got " ++ value.quoted
  | .notTimestamp state value =>
    "Wait state \"" ++ state ++ "\" has an invalid timestamp " ++ value.quoted
  | .unset state =>
    "Wait state \"" ++ state ++ "\" has none of Seconds, SecondsPath, Timestamp or TimestampPath"

def WaitError.isWritable : WaitError → Bool
  | .unresolved _ path _ => path.isWritable
  | .notSeconds _ value | .notTimestamp _ value => value.isWritable
  | .unset _ => true

def WaitError.reported (error : WaitError) : Reported WaitError := .report error.isWritable error

/-- Why a clock does not count the seconds of a wait. A simulated clock may refuse a NaN as well. -/
inductive SleepError where
  | tooLarge
  | outOfRange
  | notANumber

def SleepError.message : SleepError → String
  | .tooLarge => "timestamp too large to convert to C _PyTime_t"
  | .outOfRange => "timestamp out of range for platform time_t"
  | .notANumber => "Invalid value NaN (not a number)"

namespace Delay

def checkSeconds (state : String) (value : Json) : Except (Reported WaitError) Number :=
  match Number.ofJson? value with
  | some time =>
    if time.isNegative then .error (WaitError.notSeconds state value).reported else .ok time
  | none => .error (WaitError.notSeconds state value).reported

def secondsUntil (now : Int) (state : String) (value : Json) : Except (Reported WaitError) Number :=
  match Timestamp.millis value with
  | .ok target =>
    let millis := (Binary64.ofInt? (max 0 (target - now))).getD (.infinite false)
    .ok (.real (millis.div (.ofNat 1000)))
  | .error _ => .error (WaitError.notTimestamp state value).reported

def resolve (state : String) (input context path : Json) : Except (Reported WaitError) Json :=
  match Path.first input context path with
  | .ok value => .ok value
  | .error (.told cause) => .error (WaitError.unresolved state path cause).reported
  | .error .unwritable => .error .unwritable

def duration (delay : Delay) (state : String) (input context : Json) (now : Int) :
    Except (Reported WaitError) Number :=
  match delay with
  | .unset => .error (WaitError.unset state).reported
  | .seconds value => checkSeconds state value
  | .secondsPath path => resolve state input context path >>= checkSeconds state
  | .timestamp value => secondsUntil now state value
  | .timestampPath path => resolve state input context path >>= secondsUntil now state

end Delay

namespace Number

/-- Time is counted in nanoseconds of 63 bits. -/
def nanosLimit : Int := 9223372036854775808

def isCounted (nanos : Number) : Bool := nanos.compare? (.int nanosLimit) == some .lt

/-- Whether a clock counts the seconds of a wait. A number that is not above zero is not looked at
any further, and neither is a NaN; the nanoseconds of a double are rounded. -/
def sleepable (seconds : Number) : Except SleepError Unit :=
  if seconds.compare? (.int 0) ≠ some .gt then .ok ()
  else match seconds with
    | .int n => if isCounted (.int (1000000000 * n)) then .ok () else .error .tooLarge
    | .real x =>
      if isCounted (.real (x.mul (.ofNat 1000000000))) then .ok () else .error .outOfRange

def millis (seconds : Number) : Int := seconds.thousandfold.whole.toOption.getD 0

end Number

end StateFlow
