import StateFlow.Binary64.Text
import StateFlow.Text.Blank
import StateFlow.Text.Digit
import StateFlow.Text.Escape

/-!
Numbers read from text: blanks at both ends are skipped, digits of any script count with their
value, and single underscores may stand between digits. A whole number has at most 4300 digits.
-/
namespace StateFlow.Text

def plainChar (c : Char) : Char :=
  if c.toNat < 128 then c
  else if isBlank c then ' '
  else match digit? c with
    | some d => Decimal.digitChar d
    | none => '?'

def isPlainBlank (c : Char) : Bool := c == ' ' || ('\t' ≤ c && c ≤ '\r')

def isAsciiDigit (c : Char) : Bool := '0' ≤ c && c ≤ '9'

def plainNumeral (s : String) : List Char :=
  let skip := List.dropWhile isPlainBlank
  (skip (skip (s.toList.map plainChar)).reverse).reverse

def splitSign : List Char → Bool × List Char
  | '-' :: rest => (true, rest)
  | '+' :: rest => (false, rest)
  | cs => (false, cs)

/-- The digits before the first other character. A separator has a digit on both sides. -/
def separated? (isDigit : Char → Bool) (needDigit : Bool) :
    List Char → Option (List Char × List Char)
  | [] => if needDigit then none else some ([], [])
  | c :: rest =>
    if isDigit c then (separated? isDigit false rest).map fun (ds, r) => (c :: ds, r)
    else if needDigit then none
    else if c = '_' then separated? isDigit true rest
    else some ([], c :: rest)

def separatedDigits? (needDigit : Bool) (cs : List Char) : Option (List Char × List Char) :=
  separated? isAsciiDigit needDigit cs

inductive IntegerError where
  | malformed
  | tooLong (digits : Nat)
  deriving DecidableEq

def digitLimit : Nat := 4300

private def limitMessage (found : String) : String :=
  "Exceeds the limit (" ++ String.ofList (Decimal.digits digitLimit) ++
    " digits) for integer string conversion" ++ found ++
    "; use sys.set_int_max_str_digits() to increase the limit"

def tooLongMessage (digits : Nat) : String :=
  limitMessage (": value has " ++ String.ofList (Decimal.digits digits) ++ " digits")

def writableBound : Nat := Nat.pow 10 digitLimit

def isWritable (n : Int) : Bool := n.natAbs < writableBound

def unwritableMessage : String := limitMessage ""

/-- The quoted text in this message is cut to 200 characters. -/
def IntegerError.message (s : String) : IntegerError → String
  | .malformed =>
    "invalid literal for int() with base 10: " ++ String.ofList ((quoted s.toList).take 200)
  | .tooLong digits => tooLongMessage digits

def realMessage (s : String) : String :=
  "could not convert string to float: " ++ String.ofList (quoted s.toList)

def readInteger (s : String) : Except IntegerError Int :=
  let (negative, cs) := splitSign (plainNumeral s)
  match separatedDigits? true cs with
  | none => .error .malformed
  | some (ds, rest) =>
    if digitLimit < ds.length then .error (.tooLong ds.length)
    else if rest ≠ [] then .error .malformed
    else .ok (if negative then -(Decimal.value ds : Int) else Decimal.value ds)

def dropSeparators? (afterDigit : Bool) : List Char → Option (List Char)
  | [] => some []
  | c :: rest =>
    if c = '_' then
      if afterDigit && (rest.head?.map isAsciiDigit).getD false then dropSeparators? false rest
      else none
    else (dropSeparators? (isAsciiDigit c) rest).map (c :: ·)

private def readExponent? : List Char → Option Int
  | [] => some 0
  | c :: rest =>
    if c ≠ 'e' ∧ c ≠ 'E' then none
    else
      let (negative, ds) := splitSign rest
      if ds = [] ∨ !ds.all isAsciiDigit then none
      else some (if negative then -(Decimal.value ds : Int) else Decimal.value ds)

private def readDecimal? (negative : Bool) (cs : List Char) : Option Binary64 :=
  let (whole, rest) := cs.span isAsciiDigit
  let (fraction, rest) := match rest with
    | '.' :: rest => rest.span isAsciiDigit
    | rest => ([], rest)
  if whole = [] ∧ fraction = [] then none
  else (readExponent? rest).map fun e =>
    Binary64.ofDecimal negative (Decimal.value (whole ++ fraction)) (e - fraction.length)

def readReal? (s : String) : Option Binary64 := do
  let cs ← dropSeparators? false (plainNumeral s)
  let (negative, cs) := splitSign cs
  let word := String.ofList (cs.map Char.toLower)
  if word = "inf" ∨ word = "infinity" then some (.infinite negative)
  else if word = "nan" then some .nan
  else readDecimal? negative cs

end StateFlow.Text
