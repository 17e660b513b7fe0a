import StateFlow.Json.Decode

/-!
The literals of expressions in paths: decimal numbers, whole numbers with a base, and texts in
single or triple quotes, with or without escapes. A word may follow a number without a blank if an
operator is spelled so.
-/
namespace StateFlow.Path.Filter

def isNameStart (c : Char) : Bool :=
  ('a' ≤ c && c ≤ 'z') || ('A' ≤ c && c ≤ 'Z') || c == '_' || 128 ≤ c.toNat

def isNameRest (c : Char) : Bool := isNameStart c || Text.isAsciiDigit c

def mayFollowNumber (cs : List Char) : Bool :=
  !(cs.head?.map isNameStart).getD false ||
    ["and", "else", "for", "if", "in", "is", "or", "not"].any fun word =>
      word.toList.isPrefixOf cs

def startsDigit (cs : List Char) : Bool := (cs.head?.map Text.isAsciiDigit).getD false

private def digitsHere? (cs : List Char) : Option (List Char × List Char) :=
  if startsDigit cs then Text.separatedDigits? true cs else some ([], cs)

private def powerHere? (cs : List Char) : Option (Option Int × List Char) :=
  match cs with
  | c :: rest =>
    let (negative, digits) := Text.splitSign rest
    if (c = 'e' ∨ c = 'E') ∧ startsDigit digits then do
      let (ds, rest) ← Text.separatedDigits? true digits
      let n : Int := Decimal.value ds
      pure (some (if negative then -n else n), rest)
    else some (none, cs)
  | [] => some (none, cs)

def baseNamed? (c : Char) : Option Nat :=
  if c = 'x' ∨ c = 'X' then some 16
  else if c = 'o' ∨ c = 'O' then some 8
  else if c = 'b' ∨ c = 'B' then some 2
  else none

def isDigitIn (base : Nat) (c : Char) : Bool :=
  match Json.hexValue? c with
  | some d => d < base
  | none => false

def valueIn (base : Nat) (digits : List Char) : Nat :=
  digits.foldl (fun v d => base * v + (Json.hexValue? d).getD 0) 0

def readBased? (base : Nat) (cs : List Char) : Option (Json × List Char) := do
  let (ds, rest) ← Text.separated? (isDigitIn base) true
    (if cs.head? = some '_' then cs.drop 1 else cs)
  if startsDigit rest ∨ !mayFollowNumber rest then none else some (.int (valueIn base ds), rest)

/-- A number in decimal notation. A whole number starts with a zero only if all its digits are
zeros; the digits of any other one are limited. -/
def readDecimal? (cs : List Char) : Option (Json × List Char) := do
  let (whole, rest) ← digitsHere? cs
  let (point, fraction, rest) ← match rest with
    | '.' :: rest => (digitsHere? rest).map fun (ds, rest) => (true, ds, rest)
    | _ => some (false, [], rest)
  let (power, rest) ← powerHere? rest
  if (whole = [] ∧ fraction = []) ∨ !mayFollowNumber rest then none
  else if point ∨ power.isSome then
    some (.real (Binary64.ofDecimal false (Decimal.value (whole ++ fraction))
      (power.getD 0 - fraction.length)), rest)
  else if whole.all (· == '0') then some (.int 0, rest)
  else if whole.head? = some '0' ∨ Text.digitLimit < whole.length then none
  else some (.int (Decimal.value whole), rest)

def readNumeral? (cs : List Char) : Option (Json × List Char) :=
  match cs with
  | '0' :: c :: rest => match baseNamed? c with
    | some base => readBased? base rest
    | none => readDecimal? cs
  | cs => readDecimal? cs

private def unitHere? (width : Nat) (cs : List Char) : Option (Char × Nat) :=
  match Json.readUnit width 0 cs with
  | .ok (unit, _) => if unit < 0x110000 then some (Json.unitChar unit, width) else none
  | .error _ => none

/-- The characters of an escape and how many were read after the backslash. A line end with a
backslash before it is none, and a backslash before any other character stands for itself. -/
def readEscape? : List Char → Option (List Char × Nat)
  | [] => none
  | c :: rest =>
    if c = '\n' then some ([], 1)
    else if c = 'n' then some (['\n'], 1)
    else if c = 't' then some (['\t'], 1)
    else if c = 'r' then some (['\r'], 1)
    else if c = 'a' then some (['\x07'], 1)
    else if c = 'b' then some (['\x08'], 1)
    else if c = 'f' then some (['\x0c'], 1)
    else if c = 'v' then some (['\x0b'], 1)
    else if c = '\\' ∨ c = '\'' ∨ c = '"' then some ([c], 1)
    else if c = 'x' then (unitHere? 2 rest).map fun (d, n) => ([d], n + 1)
    else if c = 'u' then (unitHere? 4 rest).map fun (d, n) => ([d], n + 1)
    else if c = 'U' then (unitHere? 8 rest).map fun (d, n) => ([d], n + 1)
    else if c = 'N' then none
    else if '0' ≤ c ∧ c ≤ '7' then
      let ds := ((c :: rest).take 3).takeWhile fun d => '0' ≤ d && d ≤ '7'
      some ([Char.ofNat (ds.foldl (fun v d => 8 * v + (d.toNat - '0'.toNat)) 0)], ds.length)
    else some (['\\', c], 1)

def unescaped? : Nat → List Char → Option (List Char)
  | _, [] => some []
  | skip + 1, _ :: rest => unescaped? skip rest
  | 0, c :: rest =>
    if c = '\\' then do
      let (text, used) ← readEscape? rest
      pure (text ++ (← unescaped? used rest))
    else (unescaped? 0 rest).map (c :: ·)

/-- The text up to the closing quote or the three closing quotes, as it is written, and what
follows. A quote after a backslash closes nothing, and a text in single quotes has one line. -/
def content? (quote : Char) (long : Bool) : List Char → Option (List Char × List Char)
  | [] => none
  | '\\' :: c :: rest =>
    (content? quote long rest).map fun (text, rest) => ('\\' :: c :: text, rest)
  | c :: rest =>
    if c = '\\' ∨ (c = '\n' ∧ !long) then none
    else if c = quote ∧ !long then some ([], rest)
    else if long ∧ [quote, quote, quote].isPrefixOf (c :: rest) then some ([], rest.drop 2)
    else (content? quote long rest).map fun (text, rest) => (c :: text, rest)

/-- What the letters before a quote say of a text: backslashes stand for themselves, it is one of
bytes, or it has places in braces. -/
structure TextStyle where
  raw : Bool
  bytes : Bool
  places : Bool

def TextStyle.ofLetters? (letters : List Char) : Option TextStyle :=
  let small := letters.map Char.toLower
  if ["", "r", "u", "b", "f", "br", "rb", "fr", "rf"].any (·.toList == small) then
    some ⟨small.contains 'r', small.contains 'b', small.contains 'f'⟩
  else none

/-- The text of a literal, read after its first quote; one of bytes is no text. Texts with places
are not read. -/
def readText? (style : TextStyle) (quote : Char) (cs : List Char) :
    Option (Option (List Char) × List Char) := do
  let long := [quote, quote].isPrefixOf cs
  let (written, rest) ← content? quote long (if long then cs.drop 2 else cs)
  if style.bytes then
    if written.all fun c => c.toNat < 128 then some (none, rest) else none
  else if style.places && written.any fun c => c == '\x7b' || c == '\x7d' then none
  else do
    let text ← if style.raw then some written else unescaped? 0 written
    some (some text, rest)

def textStart? (cs : List Char) : Option (TextStyle × Char × List Char) :=
  let (letters, rest) := cs.span Char.isAlpha
  match rest with
  | c :: rest =>
    if c = '\'' ∨ c = '"' then (TextStyle.ofLetters? letters).map fun style => (style, c, rest)
    else none
  | [] => none

end StateFlow.Path.Filter
