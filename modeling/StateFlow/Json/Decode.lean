import StateFlow.Json
import StateFlow.Text.Numeral

/-!
Reading JSON text. The reader is lenient: strings may hold raw control characters, numbers may have
leading zeros or end in a point, a lone minus sign is zero, and the words for infinity and no number
are doubles. A number with a point or an exponent is a double, any other is a whole number.
-/
namespace StateFlow.Json

inductive DecodeError where
  | expectedValue
  | keyNotString
  | missingColon
  | badMember
  | trailingComma
  | badItem
  | badWord (word : String)
  | unmatchedQuote
  | unknownEscape
  | unfinishedEscape
  | unfinishedUnit
  | badUnit
  | tooDeep
  | integerTooLong (digits : Nat)
  | trailingData
  deriving DecidableEq

def DecodeError.message : DecodeError → String
  | .expectedValue => "Expected object or value"
  | .keyNotString => "Key name of object must be 'string' when decoding 'object'"
  | .missingColon => "No ':' found when decoding object value"
  | .badMember => "Unexpected character in found when decoding object value"
  | .trailingComma => "Unexpected character found when decoding array value (1)"
  | .badItem => "Unexpected character found when decoding array value (2)"
  | .badWord word => "Unexpected character found when decoding '" ++ word ++ "'"
  | .unmatchedQuote => "Unmatched '\"' when decoding 'string'"
  | .unknownEscape => "Unrecognized escape sequence when decoding 'string'"
  | .unfinishedEscape => "Unterminated escape sequence when decoding 'string'"
  | .unfinishedUnit => "Unterminated unicode escape sequence when decoding 'string'"
  | .badUnit => "Unexpected character in unicode escape sequence when decoding 'string'"
  | .tooDeep => "Reached object decoding depth limit"
  | .integerTooLong digits => Text.tooLongMessage digits
  | .trailingData => "Trailing data"

def depthLimit : Nat := 1024

def isTextBlank (c : Char) : Bool := c == ' ' || c == '\t' || c == '\r' || c == '\n'

def skipBlanks (cs : List Char) : List Char := cs.dropWhile isTextBlank

theorem length_skipBlanks_le (cs : List Char) : (skipBlanks cs).length ≤ cs.length :=
  (List.dropWhile_suffix _).length_le

def hexValue? (c : Char) : Option Nat :=
  if '0' ≤ c ∧ c ≤ '9' then some (c.toNat - '0'.toNat)
  else if 'a' ≤ c ∧ c ≤ 'f' then some (c.toNat - 'a'.toNat + 10)
  else if 'A' ≤ c ∧ c ≤ 'F' then some (c.toNat - 'A'.toNat + 10)
  else none

theorem hexValue?_hexDigit {d : Nat} (h : d < 16) : hexValue? (Text.hexDigit d) = some d := by
  have : ∀ d, d < 16 → hexValue? (Text.hexDigit d) = some d := by decide
  exact this d h

def readUnit : Nat → Nat → List Char → Except DecodeError (Nat × List Char)
  | 0, v, cs => .ok (v, cs)
  | _ + 1, _, [] => .error .unfinishedUnit
  | width + 1, v, c :: cs =>
    match hexValue? c with
    | some d => readUnit width (16 * v + d) cs
    | none => .error (if c = '\x00' then .unfinishedUnit else .badUnit)

theorem length_of_readUnit {width v : Nat} {cs : List Char} {u : Nat} {rest : List Char}
    (h : readUnit width v cs = .ok (u, rest)) : rest.length ≤ cs.length := by
  induction width generalizing v cs with
  | zero => simp only [readUnit, Except.ok.injEq, Prod.mk.injEq] at h; simp [h.2]
  | succ width ih =>
    cases cs with
    | nil => simp [readUnit] at h
    | cons c cs =>
      simp only [readUnit] at h
      split at h
      · exact Nat.le_succ_of_le (ih h)
      · cases h

def lowUnit? (high : Nat) (cs : List Char) : Option (Nat × List Char) :=
  match cs with
  | '\\' :: 'u' :: rest =>
    match readUnit 4 0 rest with
    | .ok (low, more) =>
      if 0xd800 ≤ high ∧ high < 0xdc00 ∧ 0xdc00 ≤ low ∧ low < 0xe000 then some (low, more) else none
    | .error _ => none
  | _ => none

theorem length_of_lowUnit? {high : Nat} {cs : List Char} {low : Nat} {rest : List Char}
    (h : lowUnit? high cs = some (low, rest)) : rest.length ≤ cs.length := by
  unfold lowUnit? at h
  split at h
  · next more =>
    split at h
    · next hu =>
      split at h
      · simp only [Option.some.injEq, Prod.mk.injEq] at h
        have := length_of_readUnit hu
        rw [← h.2]
        exact Nat.le_trans this (by simp only [List.length_cons]; omega)
      · cases h
    · cases h
  · cases h

/-- A half of a pair that stands alone is no character and becomes the replacement character. -/
def unitChar (unit : Nat) : Char :=
  if 0xd800 ≤ unit ∧ unit < 0xe000 then Char.ofNat 0xfffd else Char.ofNat unit

def readUnicode (cs : List Char) : Except DecodeError (Char × List Char) :=
  match readUnit 4 0 cs with
  | .error e => .error e
  | .ok (unit, rest) =>
    match lowUnit? unit rest with
    | some (low, rest) =>
      .ok (Char.ofNat (0x10000 + (unit - 0xd800) * 0x400 + (low - 0xdc00)), rest)
    | none => .ok (unitChar unit, rest)

def readEscape : List Char → Except DecodeError (Char × List Char)
  | [] => .error .unfinishedEscape
  | c :: rest =>
    if c = 'u' then readUnicode rest
    else if c = '"' ∨ c = '\\' ∨ c = '/' then .ok (c, rest)
    else if c = 'b' then .ok ('\x08', rest)
    else if c = 'f' then .ok ('\x0c', rest)
    else if c = 'n' then .ok ('\n', rest)
    else if c = 'r' then .ok ('\r', rest)
    else if c = 't' then .ok ('\t', rest)
    else .error (if c = '\x00' then .unfinishedEscape else .unknownEscape)

theorem length_of_readEscape {cs : List Char} {c : Char} {rest : List Char}
    (h : readEscape cs = .ok (c, rest)) : rest.length ≤ cs.length := by
  cases cs with
  | nil => simp [readEscape] at h
  | cons d cs =>
    have direct {x : Char} (g : (Except.ok (x, cs) : Except DecodeError _) = .ok (c, rest)) :
        rest.length ≤ (d :: cs).length := by
      simp only [Except.ok.injEq, Prod.mk.injEq] at g
      simp [g.2]
    unfold readEscape at h
    by_cases hu : d = 'u'
    · simp only [hu, if_true, readUnicode] at h
      split at h
      · cases h
      · next unit more hm =>
        have first := length_of_readUnit hm
        split at h
        · next low last hl =>
          have second := length_of_lowUnit? hl
          simp only [Except.ok.injEq, Prod.mk.injEq] at h
          rw [← h.2, List.length_cons]
          omega
        · simp only [Except.ok.injEq, Prod.mk.injEq] at h
          rw [← h.2, List.length_cons]
          omega
    · simp only [hu, if_false] at h
      repeat' split at h
      all_goals first | exact direct h | cases h

/-- The text up to the closing quote; what is read so far is kept backwards. -/
def readText (read cs : List Char) : Except DecodeError (String × List Char) :=
  match cs with
  | [] => .error .unmatchedQuote
  | c :: rest =>
    if c = '"' then .ok (String.ofList read.reverse, rest)
    else if c = '\x00' then .error .unmatchedQuote
    else if c = '\\' then
      match h : readEscape rest with
      | .error e => .error e
      | .ok (d, more) =>
        have : more.length ≤ rest.length := length_of_readEscape h
        readText (d :: read) more
    else readText (c :: read) rest
termination_by cs.length
decreasing_by all_goals simp only [List.length_cons]; omega

def readWord (word : String) (value : Json) (cs : List Char) :
    Except DecodeError (Json × List Char) :=
  if word.toList.isPrefixOf cs then .ok (value, cs.drop word.length) else .error (.badWord word)

/-- The exponent at the head of the text; a sign or the letter alone is none. -/
def readPower (cs : List Char) : Int × List Char :=
  match cs with
  | [] => (0, [])
  | c :: rest =>
    if c = 'e' ∨ c = 'E' then
      let (negative, digits) := Text.splitSign rest
      let (ds, more) := digits.span Text.isAsciiDigit
      if ds = [] then (0, cs)
      else (if negative then -(Decimal.value ds : Int) else Decimal.value ds, more)
    else (0, cs)

def wordBound (negative : Bool) : Nat :=
  if negative then 9223372036854775808 else 18446744073709551615

/-- Whole numbers that fit 64 bits may have any number of leading zeros; the digits of other ones
are limited. -/
def readWhole (negative : Bool) (digits : List Char) : Except DecodeError Json :=
  let n := Decimal.value digits
  if n ≤ wordBound negative ∨ digits.length ≤ Text.digitLimit then
    .ok (.int (if negative then -(n : Int) else n))
  else .error (.integerTooLong digits.length)

/-- A number after its sign; `start` is the text with the sign. -/
def readNumber (negative : Bool) (start cs : List Char) : Except DecodeError (Json × List Char) :=
  let (whole, rest) := cs.span Text.isAsciiDigit
  match rest.head? with
  | some '.' | some 'e' | some 'E' =>
    let (fraction, rest) := match rest with
      | '.' :: rest => rest.span Text.isAsciiDigit
      | rest => ([], rest)
    if whole = [] ∧ fraction = [] then .ok (.real (Binary64.zero false), start)
    else
      let (power, rest) := readPower rest
      .ok (.real (Binary64.ofDecimal negative (Decimal.value (whole ++ fraction))
        (power - fraction.length)), rest)
  | _ => (readWhole negative whole).map fun value => (value, rest)

def readScalar (cs : List Char) : Except DecodeError (Json × List Char) :=
  match cs with
  | 't' :: _ => readWord "true" (.bool true) cs
  | 'f' :: _ => readWord "false" (.bool false) cs
  | 'n' :: _ => readWord "null" .null cs
  | 'N' :: _ => readWord "NaN" (.real .nan) cs
  | 'I' :: _ => readWord "Infinity" (.real (.infinite false)) cs
  | '-' :: 'I' :: _ => readWord "-Infinity" (.real (.infinite true)) cs
  | '-' :: rest => readNumber true cs rest
  | c :: _ => if Text.isAsciiDigit c then readNumber false cs cs else .error .expectedValue
  | [] => .error .expectedValue

mutual
/-- A value; `depth` objects and lists are open around it. -/
def readValue : Nat → Nat → List Char → Except DecodeError (Json × List Char)
  | 0, _, _ => .error .expectedValue
  | fuel + 1, depth, cs =>
    match skipBlanks cs with
    | '"' :: rest => do
      let (s, rest) ← readText [] rest
      pure (.str s, rest)
    | '[' :: rest =>
      if depthLimit ≤ depth then .error .tooDeep else readItems fuel (depth + 1) [] rest
    | '\x7b' :: rest =>
      if depthLimit ≤ depth then .error .tooDeep else readMembers fuel (depth + 1) [] rest
    | cs => readScalar cs
/-- The items from here to the closing bracket, after those already read backwards. -/
def readItems : Nat → Nat → List Json → List Char → Except DecodeError (Json × List Char)
  | 0, _, _, _ => .error .expectedValue
  | fuel + 1, depth, items, cs =>
    match skipBlanks cs with
    | ']' :: rest => if items.isEmpty then .ok (.arr [], rest) else .error .trailingComma
    | cs => do
      let (item, rest) ← readValue fuel depth cs
      match skipBlanks rest with
      | ']' :: rest => pure (.arr (item :: items).reverse, rest)
      | ',' :: rest => readItems fuel depth (item :: items) rest
      | _ => .error .badItem
def readMembers :
    Nat → Nat → List (String × Json) → List Char → Except DecodeError (Json × List Char)
  | 0, _, _, _ => .error .expectedValue
  | fuel + 1, depth, fields, cs =>
    match skipBlanks cs with
    | '\x7d' :: rest => if fields.isEmpty then .ok (.obj [], rest) else .error .badMember
    | cs => do
      let (key, rest) ← readValue fuel depth cs
      match key with
      | .str key =>
        match skipBlanks rest with
        | ':' :: rest => do
          let (value, rest) ← readValue fuel depth rest
          let fields := insert key value fields
          match skipBlanks rest with
          | '\x7d' :: rest => pure (.obj fields, rest)
          | ',' :: rest => readMembers fuel depth fields rest
          | _ => .error .badMember
        | _ => .error .missingColon
      | _ => .error .keyNotString
end

def decode (text : String) : Except DecodeError Json := do
  let cs := text.toList
  let (value, rest) ← readValue (2 * cs.length + 2) 0 cs
  if skipBlanks rest = [] then pure value else .error .trailingData

end StateFlow.Json
