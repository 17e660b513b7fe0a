import StateFlow.Calendar
import StateFlow.Json.Display
import StateFlow.Text.Blank
import StateFlow.Text.Digit

/-!
Timestamps with an explicit offset, as RFC 3339 writes them. A year may use the digits of any
script, and so may the second digit of a day, an hour, a minute or a second where the first one
allows every digit. Of a fraction six digits count.
-/
namespace StateFlow

structure Timestamp where
  date : Date
  hour : Nat
  minute : Nat
  second : Nat
  micros : Nat
  offsetMinutes : Int
  deriving DecidableEq

inductive TimestampError where
  | notText (value : Json)
  | malformed (text : String)
  | fieldOutOfRange (text : String)
  | leftOver (digits : List Char)
  | yearZero
  | noSuchDay
  | leapSecond
  | offsetTooLarge (minutes : Int)

namespace Timestamp

private def spanText (minutes : Int) : String :=
  let days := minutes.fdiv 1440
  let seconds := 60 * minutes.fmod 1440
  "datetime.timedelta(days=" ++ Json.displayInt days ++
    (if seconds = 0 then "" else ", seconds=" ++ Json.displayInt seconds) ++ ")"

end Timestamp

def TimestampError.message : TimestampError → String
  | .notText value => value.display ++ " is not an RFC3339 timestamp string"
  | .malformed text => text ++ " is not a valid RFC3339 timestamp"
  | .fieldOutOfRange text =>
    "time data " ++ (Json.str text).quoted ++ " does not match format '%Y-%m-%dT%H:%M:%S.%f'"
  | .leftOver digits => "unconverted data remains: " ++ String.ofList digits
  | .yearZero => "year 0 is out of range"
  | .noSuchDay => "day is out of range for month"
  | .leapSecond => "second must be in 0..59"
  | .offsetTooLarge minutes =>
    "offset must be a timedelta strictly between -timedelta(hours=24) and timedelta(hours=24), " ++
      "not " ++ Timestamp.spanText minutes ++ "."

namespace Timestamp

/-- Each `d` of the shape is a decimal digit, any other character stands for itself. -/
def hasShape : List Char → List Char → Bool
  | [], [] => true
  | s :: shape, c :: cs => (if s = 'd' then Text.isDecimal c else s == c) && hasShape shape cs
  | _, _ => false

structure Parts where
  date : List Char
  clock : List Char
  fraction : List Char
  zone : List Char

def zoneFits (zone : List Char) : Bool :=
  zone == ['Z'] || zone == ['z'] || hasShape "+dd:dd".toList zone || hasShape "-dd:dd".toList zone

/-- The fraction keeps its point and six digits, and is `.0` where there is none. -/
def parts? (cs : List Char) : Option Parts :=
  let date := cs.take 10
  let clock := (cs.drop 11).take 8
  let rest := cs.drop 19
  let (digits, zone) := match rest with
    | '.' :: rest => rest.span Text.isDecimal
    | _ => ([], rest)
  let pointless := rest.head? == some '.' && digits.isEmpty
  if hasShape "dddd-dd-dd".toList date && (cs[10]? == some 'T' || cs[10]? == some 't') &&
      hasShape "dd:dd:dd".toList clock && zoneFits zone && !pointless then
    some ⟨date, clock, '.' :: (if digits.isEmpty then ['0'] else digits.take 6), zone⟩
  else none

def number (cs : List Char) : Nat :=
  cs.foldl (fun v c => 10 * v + (Text.digit? c).getD 0) 0

private def oneOf (low high c : Char) : Bool := low ≤ c && c ≤ high

def monthFits : List Char → Bool
  | [a, b] => (a == '1' && oneOf '0' '2' b) || (a == '0' && oneOf '1' '9' b)
  | _ => false

def dayFits : List Char → Bool
  | [a, b] => (a == '3' && oneOf '0' '1' b) || (oneOf '1' '2' a && Text.isDecimal b) ||
      (a == '0' && oneOf '1' '9' b)
  | _ => false

def hourFits : List Char → Bool
  | [a, b] => (a == '2' && oneOf '0' '3' b) || (oneOf '0' '1' a && Text.isDecimal b)
  | _ => false

def minuteFits : List Char → Bool
  | [a, b] => oneOf '0' '5' a && Text.isDecimal b
  | _ => false

def secondFits : List Char → Bool
  | [a, b] => (a == '6' && oneOf '0' '1' b) || minuteFits [a, b]
  | _ => false

private def cut (start length : Nat) (cs : List Char) : List Char := (cs.drop start).take length

def fieldsFit (parts : Parts) : Bool :=
  monthFits (cut 5 2 parts.date) && dayFits (cut 8 2 parts.date) &&
    hourFits (cut 0 2 parts.clock) && minuteFits (cut 3 2 parts.clock) &&
    secondFits (cut 6 2 parts.clock) && (parts.fraction[1]?).any (oneOf '0' '9')

def foreignDigits (parts : Parts) : List Char :=
  (parts.fraction.drop 1).dropWhile (oneOf '0' '9')

def offsetOf (zone : List Char) : Int :=
  let minutes : Int := 60 * number (cut 1 2 zone) + number (cut 4 2 zone)
  match zone.head? with
  | some '-' => -minutes
  | some '+' => minutes
  | _ => 0

/-- The checks in order: the fields' ranges, the fraction's digits, the year, the day of the month,
the leap second and the offset. -/
def ofParts (parts : Parts) : Except TimestampError Timestamp :=
  let year := number (cut 0 4 parts.date)
  let month := number (cut 5 2 parts.date)
  let day := number (cut 8 2 parts.date)
  let second := number (cut 6 2 parts.clock)
  let fraction := parts.fraction.drop 1
  let offset := offsetOf parts.zone
  if !fieldsFit parts then
    .error (.fieldOutOfRange
      (String.ofList (parts.date ++ 'T' :: parts.clock ++ parts.fraction)))
  else if !(foreignDigits parts).isEmpty then .error (.leftOver (foreignDigits parts))
  else if year = 0 then .error .yearZero
  else if Date.daysInMonth year month < day then .error .noSuchDay
  else if 59 < second then .error .leapSecond
  else if offset ≤ -1440 ∨ 1440 ≤ offset then .error (.offsetTooLarge offset)
  else .ok {
    date := ⟨year, month, day⟩
    hour := number (cut 0 2 parts.clock)
    minute := number (cut 3 2 parts.clock)
    second
    micros := number fraction * Nat.pow 10 (6 - fraction.length)
    offsetMinutes := offset }

def parse (value : Json) : Except TimestampError Timestamp :=
  match value with
  | .str text =>
    match parts? (Text.strip text.toList) with
    | some parts => ofParts parts
    | none => .error (.malformed text)
  | value => .error (.notText value)

def isTimestamp (value : Json) : Bool := (parse value).isOk

def secondOfDay (t : Timestamp) : Nat := 3600 * t.hour + 60 * t.minute + t.second

def epochMicros (t : Timestamp) : Int :=
  (86400 * t.date.days + t.secondOfDay - 60 * t.offsetMinutes) * 1000000 + t.micros

def epochMillis (t : Timestamp) : Int := t.epochMicros / 1000

def millis (value : Json) : Except TimestampError Int := (parse value).map epochMillis

def ofEpochMicros (n : Int) : Timestamp :=
  let seconds := n / 1000000
  let ofDay := (seconds % 86400).toNat
  { date := Date.ofDays (seconds / 86400)
    hour := ofDay / 3600
    minute := ofDay / 60 % 60
    second := ofDay % 60
    micros := (n % 1000000).toNat
    offsetMinutes := 0 }

theorem epochMicros_ofEpochMicros (n : Int) : (ofEpochMicros n).epochMicros = n := by
  simp only [ofEpochMicros, epochMicros, secondOfDay, Date.days_ofDays]
  have low := Int.emod_nonneg (n / 1000000) (b := 86400) (by decide)
  have high := Int.emod_lt_of_pos (n / 1000000) (b := 86400) (by decide)
  have whole := Int.emod_add_mul_ediv (n / 1000000) 86400
  generalize n / 1000000 / 86400 = day at *
  generalize hs : n / 1000000 % 86400 = s at *
  omega

/-- The fraction is written with six digits, and only if it is not zero. -/
def text (t : Timestamp) : List Char :=
  Decimal.padded 4 t.date.year.toNat ++ '-' :: Decimal.padded 2 t.date.month ++
    '-' :: Decimal.padded 2 t.date.day ++
    'T' :: Decimal.padded 2 t.hour ++ ':' :: Decimal.padded 2 t.minute ++
    ':' :: Decimal.padded 2 t.second ++
    (if t.micros = 0 then [] else '.' :: Decimal.padded 6 t.micros) ++
    (if t.offsetMinutes < 0 then '-' else '+') ::
      Decimal.padded 2 (t.offsetMinutes.natAbs / 60) ++
      ':' :: Decimal.padded 2 (t.offsetMinutes.natAbs % 60)

end Timestamp

end StateFlow
