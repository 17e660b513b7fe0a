import StateFlow.Timestamp

/-!
Clock readings, in milliseconds since 1970, and their texts. Up to 2^33 seconds from 1970 a double
number of seconds is fine enough to tell all milliseconds apart, so a whole reading is written
exactly; beyond, and for a reading with a fraction, the text is that of the nearest double.
-/
namespace StateFlow

inductive ClockError where
  | notNumber (value : Json)
  | tooLargeForDouble
  | notANumber
  | secondsOutOfRange
  | yearsOutOfRange
  | yearOutOfRange (year : Int)

def ClockError.message : ClockError → String
  | .notNumber value => "unsupported operand type(s) for /: '" ++ value.kindName ++ "' and 'float'"
  | .tooLargeForDouble => "int too large to convert to float"
  | .notANumber => "Invalid value NaN (not a number)"
  | .secondsOutOfRange => "timestamp out of range for platform time_t"
  | .yearsOutOfRange => "[Errno 75] Value too large for defined data type"
  | .yearOutOfRange year => "year " ++ Json.displayInt year ++ " is out of range"

namespace Clock

def exactLimit : Nat := 8589934592000

def thousand : Binary64 := Binary64.ofNat 1000

/-- The microseconds nearest to a number of seconds; the fraction is scaled as a double. -/
def microsOf? (seconds : Binary64) : Option Int := do
  let whole ← seconds.truncate?
  let start ← Binary64.ofInt? whole
  let micros ← ((seconds.sub start).mul (Binary64.ofNat 1000000)).round?
  pure (1000000 * whole + micros)

private def secondsOf (value : Json) : Except ClockError Binary64 :=
  match value with
  | .int n => match Binary64.ofInt? n with
    | some x => .ok (x.div thousand)
    | none => .error .tooLargeForDouble
  | .bool b => .ok ((Binary64.ofNat b.toNat).div thousand)
  | .real x => .ok (x.div thousand)
  | value => .error (.notNumber value)

/-- A day has a year of four digits, and a year is counted from 1900 in 32 bits. -/
def checkedText (micros : Int) : Except ClockError String :=
  let t := Timestamp.ofEpochMicros micros
  let sinceEpoch := t.date.year - 1900
  if sinceEpoch < -2147483648 ∨ 2147483647 < sinceEpoch then .error .yearsOutOfRange
  else if t.date.year < 1 ∨ 9999 < t.date.year then
    .error (.yearOutOfRange (t.date.year.bmod 4294967296))
  else .ok (String.ofList t.text)

def textOfNearest (value : Json) : Except ClockError String := do
  let seconds ← secondsOf value
  match microsOf? seconds with
  | none => .error (if seconds = .nan then .notANumber else .secondsOutOfRange)
  | some micros =>
    let whole := micros.fdiv 1000000
    if whole < -9223372036854775808 ∨ 9223372036854775808 < whole then .error .secondsOutOfRange
    else checkedText micros

def text (millis : Int) : Except ClockError String :=
  if millis.natAbs ≤ exactLimit then checkedText (1000 * millis) else textOfNearest (.int millis)

def textOf (value : Json) : Except ClockError String :=
  match value with
  | .int n => text n
  | value => textOfNearest value

/-- The text of a running clock, empty where a year has more than four digits. -/
def now (millis : Int) : String := (text millis).toOption.getD ""

end Clock

end StateFlow
