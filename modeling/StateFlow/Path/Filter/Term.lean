import StateFlow.Path.Filter.Lexeme

/-!
Expressions in paths: the terms and the reader. Terms with commas between them are a tuple, also
without parentheses around them; a text that does not read as a term has none.
-/
namespace StateFlow.Path.Filter

inductive Comparison where
  | equal
  | unequal
  | less
  | lessEqual
  | greater
  | greaterEqual
  | member
  | notMember
  deriving DecidableEq

inductive Operation where
  | plus
  | minus
  | times
  deriving DecidableEq

/-- `subject` is the value at hand, and `unknown` a name or a call that has no value. A bound that a
slice leaves out is null. -/
inductive Term where
  | literal (value : Json)
  | subject
  | unknown
  | list (items : List Term)
  | tuple (items : List Term)
  | index (term key : Term)
  | slice (term start stop step : Term)
  | length (term : Term)
  | negative (term : Term)
  | positive (term : Term)
  | operation (op : Operation) (left right : Term)
  | comparison (op : Comparison) (left right : Term)
  | negation (term : Term)
  | conjunction (left right : Term)
  | disjunction (left right : Term)

def word (text : String) : Lexeme := .name text.toList

def sign (text : String) : Lexeme := .sign text.toList

def reserved : List String :=
  ["and", "or", "not", "in", "is", "if", "else", "lambda", "for", "await", "async", "yield",
    "assert", "break", "class", "continue", "def", "del", "elif", "except", "finally", "from",
    "global", "import", "nonlocal", "pass", "raise", "return", "try", "while", "with", "as"]

def comparison? : List Lexeme → Option (Comparison × List Lexeme)
  | .name n :: rest =>
    if n = "in".toList then some (.member, rest)
    else if n = "not".toList ∧ rest.head? = some (word "in") then some (.notMember, rest.drop 1)
    else none
  | .sign s :: rest =>
    if s = "==".toList then some (.equal, rest)
    else if s = "!=".toList then some (.unequal, rest)
    else if s = "<=".toList then some (.lessEqual, rest)
    else if s = ">=".toList then some (.greaterEqual, rest)
    else if s = ['<'] then some (.less, rest)
    else if s = ['>'] then some (.greater, rest)
    else none
  | _ => none

mutual
def readOr : Nat → List Lexeme → Option (Term × List Lexeme)
  | 0, _ => none
  | fuel + 1, ts => do
    let (left, rest) ← readAnd fuel ts
    if rest.head? = some (word "or") then
      let (right, rest) ← readOr fuel (rest.drop 1)
      pure (.disjunction left right, rest)
    else pure (left, rest)
def readAnd : Nat → List Lexeme → Option (Term × List Lexeme)
  | 0, _ => none
  | fuel + 1, ts => do
    let (left, rest) ← readNot fuel ts
    if rest.head? = some (word "and") then
      let (right, rest) ← readAnd fuel (rest.drop 1)
      pure (.conjunction left right, rest)
    else pure (left, rest)
def readNot : Nat → List Lexeme → Option (Term × List Lexeme)
  | 0, _ => none
  | fuel + 1, ts =>
    if ts.head? = some (word "not") then do
      let (term, rest) ← readNot fuel (ts.drop 1)
      pure (.negation term, rest)
    else do
      let (left, rest) ← readSum fuel none ts
      match comparison? rest with
      | some (op, rest) => readComparisons fuel left op rest
      | none => pure (left, rest)
/-- In a chain each operand but the ends is compared with both its neighbours. -/
def readComparisons : Nat → Term → Comparison → List Lexeme → Option (Term × List Lexeme)
  | 0, _, _, _ => none
  | fuel + 1, left, op, ts => do
    let (right, rest) ← readSum fuel none ts
    let first := Term.comparison op left right
    match comparison? rest with
    | some (next, rest) => do
      let (others, rest) ← readComparisons fuel right next rest
      pure (.conjunction first others, rest)
    | none => pure (first, rest)
def readSum : Nat → Option (Term × Operation) → List Lexeme → Option (Term × List Lexeme)
  | 0, _, _ => none
  | fuel + 1, before, ts => do
    let (term, rest) ← readProduct fuel none ts
    let sum := match before with
      | some (left, op) => Term.operation op left term
      | none => term
    match rest with
    | .sign ['+'] :: rest => readSum fuel (some (sum, .plus)) rest
    | .sign ['-'] :: rest => readSum fuel (some (sum, .minus)) rest
    | _ => pure (sum, rest)
def readProduct : Nat → Option Term → List Lexeme → Option (Term × List Lexeme)
  | 0, _, _ => none
  | fuel + 1, before, ts => do
    let (term, rest) ← readSigned fuel ts
    let product := match before with
      | some left => Term.operation .times left term
      | none => term
    match rest with
    | .sign ['*'] :: rest => readProduct fuel (some product) rest
    | _ => pure (product, rest)
def readSigned : Nat → List Lexeme → Option (Term × List Lexeme)
  | 0, _ => none
  | fuel + 1, ts =>
    match ts with
    | .sign ['-'] :: rest => do
      let (term, rest) ← readSigned fuel rest
      pure (.negative term, rest)
    | .sign ['+'] :: rest => do
      let (term, rest) ← readSigned fuel rest
      pure (.positive term, rest)
    | _ => do
      let (term, rest) ← readAtom fuel ts
      readParts fuel term rest
def readParts : Nat → Term → List Lexeme → Option (Term × List Lexeme)
  | 0, _, _ => none
  | fuel + 1, term, ts =>
    match ts with
    | .sign ['['] :: rest => do
      let (part, rest) ← readKeys fuel false term rest
      readParts fuel part rest
    | .sign ['.'] :: .name _ :: rest => readParts fuel .unknown rest
    | .sign ['('] :: rest => do
      let (_, _, rest) ← readItems fuel [] [')'] rest
      readParts fuel .unknown rest
    | _ => pure (term, ts)
def readKeys : Nat → Bool → Term → List Lexeme → Option (Term × List Lexeme)
  | 0, _, _, _ => none
  | fuel + 1, several, term, ts => do
    let (part, rest) ← readKey fuel term ts
    match rest with
    | .sign [']'] :: rest => pure (if several then .unknown else part, rest)
    | .sign [','] :: .sign [']'] :: rest => pure (.unknown, rest)
    | .sign [','] :: rest => readKeys fuel true term rest
    | _ => none
/-- An index of a term, or a slice with a bound on one side of each colon or on none. -/
def readKey : Nat → Term → List Lexeme → Option (Term × List Lexeme)
  | 0, _, _ => none
  | fuel + 1, term, ts => do
    let (start, rest) ← readBound fuel ts
    match rest, start with
    | .sign [':'] :: rest, _ => do
      let (stop, rest) ← readBound fuel rest
      let slice (step : Option Term) := Term.slice term (start.getD (.literal .null))
        (stop.getD (.literal .null)) (step.getD (.literal .null))
      match rest with
      | .sign [':'] :: rest => do
        let (step, rest) ← readBound fuel rest
        pure (slice step, rest)
      | rest => pure (slice none, rest)
    | rest, some key => pure (.index term key, rest)
    | _, none => none
def readBound : Nat → List Lexeme → Option (Option Term × List Lexeme)
  | 0, _ => none
  | fuel + 1, ts =>
    match ts with
    | .sign [':'] :: _ | .sign [']'] :: _ | .sign [','] :: _ => some (none, ts)
    | ts => (readOr fuel ts).map fun (term, rest) => (some term, rest)
def readItems : Nat → List Term → List Char → List Lexeme → Option (List Term × Bool × List Lexeme)
  | 0, _, _, _ => none
  | fuel + 1, items, close, ts =>
    if ts.head? = some (.sign close) then some (items.reverse, !items.isEmpty, ts.drop 1)
    else do
      let (item, rest) ← readOr fuel ts
      match rest with
      | .sign s :: rest =>
        if s = close then some ((item :: items).reverse, false, rest)
        else if s = [','] then readItems fuel (item :: items) close rest
        else none
      | _ => none
def readAtom : Nat → List Lexeme → Option (Term × List Lexeme)
  | 0, _ => none
  | fuel + 1, ts =>
    match ts with
    | .literal (.str s) :: .literal (.str t) :: rest =>
      readAtom fuel (.literal (.str (s ++ t)) :: rest)
    | .literal (.str _) :: .bytes :: _ | .bytes :: .literal (.str _) :: _ => none
    | .literal value :: rest => some (.literal value, rest)
    | .bytes :: .bytes :: rest => readAtom fuel (.bytes :: rest)
    | .bytes :: rest => some (.unknown, rest)
    | .sign ['('] :: rest => do
      let (items, trailing, rest) ← readItems fuel [] [')'] rest
      match items, trailing with
      | [item], false => pure (item, rest)
      | items, _ => pure (.tuple items, rest)
    | .sign ['['] :: rest => do
      let (items, _, rest) ← readItems fuel [] [']'] rest
      pure (.list items, rest)
    | .name n :: rest =>
      if n = "len".toList ∧ rest.head? = some (sign "(") then do
        let (items, _, rest) ← readItems fuel [] [')'] (rest.drop 1)
        match items with
        | [item] => pure (.length item, rest)
        | _ => pure (.unknown, rest)
      else if n = "__obj".toList then some (.subject, rest)
      else if n = "True".toList then some (.literal (.bool true), rest)
      else if n = "False".toList then some (.literal (.bool false), rest)
      else if n = "None".toList then some (.literal .null, rest)
      else if reserved.contains (String.ofList n) then none
      else some (.unknown, rest)
    | _ => none
end

def readAll : Nat → List Term → List Lexeme → Option Term
  | 0, _, _ => none
  | fuel + 1, items, ts => do
    let (item, rest) ← readOr fuel ts
    match rest, items with
    | [], [] => pure item
    | [], items => pure (.tuple (item :: items).reverse)
    | [.sign [',']], items => pure (.tuple (item :: items).reverse)
    | .sign [','] :: rest, items => readAll fuel (item :: items) rest
    | _, _ => none

mutual
/-- How deep terms stand inside one another. A row of conditions is no deeper than its deepest one.
-/
def Term.depth : Term → Nat
  | .literal _ | .subject | .unknown => 1
  | .list items | .tuple items => depthOfAll items + 1
  | .index term key => max term.depth key.depth + 1
  | .slice term start stop step =>
    max (max term.depth start.depth) (max stop.depth step.depth) + 1
  | .length term | .negative term | .positive term | .negation term => term.depth + 1
  | .operation _ left right | .comparison _ left right => max left.depth right.depth + 1
  | .conjunction left right | .disjunction left right => max (left.depth + 1) right.depth
def depthOfAll : List Term → Nat
  | [] => 0
  | term :: rest => max term.depth (depthOfAll rest)
end

def depthLimit : Nat := 2960

def Term.read? (cs : List Char) : Option Term := do
  let ts ← Lexeme.read? cs
  let term ← readAll (16 * ts.length + 16) [] ts
  if depthLimit < term.depth then none else some term

end StateFlow.Path.Filter
