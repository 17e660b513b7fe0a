import StateFlow.Decimal
import StateFlow.Text.Numeral
import StateFlow.Text.Replace

/-!
The steps of a path. Dots and opening brackets become separators, closing brackets and quotes are
dropped, a doubled separator is a descent, and expressions in parentheses are set aside while this
happens. A step is the text between two separators.
-/
namespace StateFlow.Path

inductive QueryError where
  | noSuchExpression
  | badNumber (text : String) (cause : Text.IntegerError)
  | zeroStep
  | unwritable
  | tooDeep

def QueryError.message : QueryError → String
  | .noSuchExpression => "list index out of range"
  | .badNumber text cause => cause.message text
  | .zeroStep => "range() arg 3 must not be zero"
  | .unwritable => Text.unwritableMessage
  | .tooDeep => "maximum recursion depth exceeded"

def isClosing (c : Char) : Bool := c == ']' || c == '\''

def upToClosing? : List Char → Option (List Char)
  | [] => none
  | [_] => none
  | c :: d :: rest =>
    if c = ')' ∧ isClosing d then some [')']
    else if c = '\n' then none
    else (upToClosing? (d :: rest)).map (c :: ·)

/-- An expression in parentheses, after a question mark or not, that a bracket or a quote closes. -/
def expression? : List Char → Option (List Char)
  | '?' :: '(' :: rest => (upToClosing? rest).map ('?' :: '(' :: ·)
  | '(' :: rest => (upToClosing? rest).map ('(' :: ·)
  | _ => none

def setAside : Nat → Nat → List Char → List Char × List (List Char)
  | _, _, [] => ([], [])
  | count, skip + 1, _ :: rest => setAside count skip rest
  | count, 0, c :: rest =>
    match if c = '[' ∨ c = '\'' then expression? rest else none with
    | some expression =>
      let (text, expressions) := setAside (count + 1) (expression.length + 1) rest
      ('[' :: '#' :: Decimal.digits count ++ ']' :: text, expression :: expressions)
    | none =>
      let (text, expressions) := setAside count 0 rest
      (c :: text, expressions)

/-- A dot, with the quotes beside it, and an opening bracket, with the quote after it. A dot after
an at sign is none. -/
def opening : Text.Replacement := fun before cs =>
  match cs with
  | '\'' :: '.' :: '\'' :: _ => some ([';'], 3)
  | '\'' :: '.' :: _ => some ([';'], 2)
  | '.' :: rest =>
    if before = some '@' then none
    else some ([';'], if rest.head? = some '\'' then 2 else 1)
  | '[' :: rest => some ([';'], if rest.head? = some '\'' then 2 else 1)
  | _ => none

def descent : Text.Replacement := fun _ cs =>
  match cs with
  | ';' :: ';' :: ';' :: _ => some ([';', '.', '.', ';'], 3)
  | ';' :: ';' :: _ => some ([';', '.', '.', ';'], 2)
  | _ => none

/-- Nothing is left, or only a line feed. -/
def isEnd (cs : List Char) : Bool := cs == [] || cs == ['\n']

def closing : Text.Replacement := fun _ cs =>
  match cs with
  | '\'' :: ']' :: _ => some ([], 2)
  | ']' :: _ => some ([], 1)
  | c :: rest => if (c = ';' ∨ c = '\'') ∧ isEnd rest then some ([], 1) else none
  | [] => none

def putBack (expressions : List (List Char)) : Nat → List Char → Except QueryError (List Char)
  | _, [] => .ok []
  | skip + 1, _ :: rest => putBack expressions skip rest
  | 0, c :: rest =>
    let digits := if c = '#' then rest.takeWhile Text.isAsciiDigit else []
    if digits = [] then (putBack expressions 0 rest).map (c :: ·)
    else match expressions[Decimal.value digits]? with
      | some expression => (putBack expressions digits.length rest).map (expression ++ ·)
      | none => .error .noSuchExpression

def steps : List Char → List (List Char)
  | [] => [[]]
  | c :: rest =>
    if c = ';' then [] :: steps rest
    else match steps rest with
      | step :: more => (c :: step) :: more
      | [] => [[c]]

theorem steps_ne_nil (cs : List Char) : steps cs ≠ [] := by
  cases cs with
  | nil => simp [steps]
  | cons c rest =>
    rw [steps]
    split
    · simp
    · split <;> simp

theorem steps_append_separator (cs rest : List Char) (h : ';' ∉ cs) :
    steps (cs ++ ';' :: rest) = cs :: steps rest := by
  induction cs with
  | nil => simp [steps]
  | cons c cs ih =>
    have hc : c ≠ ';' := fun e => h (by simp [e])
    simp [steps, hc, ih fun m => h (by simp [m])]

theorem steps_of_not_mem (cs : List Char) (h : ';' ∉ cs) : steps cs = [cs] := by
  induction cs with
  | nil => rfl
  | cons c cs ih =>
    have hc : c ≠ ';' := fun e => h (by simp [e])
    simp [steps, hc, ih fun m => h (by simp [m])]

def normalText (path : List Char) : Except QueryError (List Char) := do
  let (text, expressions) := setAside 0 0 path
  let marked := Text.replace closing (Text.replace descent (Text.replace opening text))
  let whole ← putBack expressions 0 marked
  pure (if ['$', ';'].isPrefixOf whole then whole.drop 2 else whole)

def normalSteps (path : String) : Except QueryError (List (List Char)) :=
  (normalText path.toList).map steps

end StateFlow.Path
