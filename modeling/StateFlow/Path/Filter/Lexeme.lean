import StateFlow.Path.Filter.Literal
import StateFlow.Text.Lines

/-!
The lexemes of expressions in paths. An expression stands on one line; inside brackets, after a
backslash and in a text in triple quotes it goes on in the next one. Other lines are blank, and the
line of the expression is not indented.
-/
namespace StateFlow.Path.Filter

inductive Lexeme where
  | name (text : List Char)
  | literal (value : Json)
  | bytes
  | sign (text : List Char)
  deriving DecidableEq

namespace Lexeme

def bracketLimit : Nat := 200

def isBlank (c : Char) : Bool := c == ' ' || c == '\t' || c == '\x0c'

private def isSign (c : Char) : Bool := ",+-*<>.:".toList.contains c

def closing? (c : Char) : Option Char :=
  if c = '(' then some ')' else if c = '[' then some ']' else none

/-- A line without its indentation, unless it is indented and not blank. The column is counted up to
the first backslash, if there is one; a form feed goes back to the margin. -/
def unindented? : Nat → Nat → List Char → Option (List Char)
  | kept, column, [] => if kept = 0 ∧ column = 0 then some [] else none
  | kept, column, '\\' :: '\n' :: c :: rest =>
    unindented? (if kept = 0 then column else kept) column (c :: rest)
  | kept, column, c :: rest =>
    if c = ' ' ∨ c = '\t' then unindented? kept (column + 1) rest
    else if c = '\x0c' then unindented? kept 0 rest
    else if c = '#' ∨ c = '\n' ∨ (kept = 0 ∧ column = 0 ∧ c ≠ '\\') then some (c :: rest)
    else none

def afterComment (cs : List Char) : List Char := cs.dropWhile (· ≠ '\n')

def areBlank : Nat → List Char → Bool
  | 0, _ => false
  | lines + 1, cs => match unindented? 0 0 cs with
    | none => false
    | some [] => true
    | some ('#' :: rest) => match afterComment rest with
      | [] => true
      | _ :: rest => areBlank lines rest
    | some ('\n' :: rest) => areBlank lines rest
    | some _ => false

/-- The lexemes of a text, of which the first number bounds the steps. The signs that close the open
brackets are awaited, and some lexemes may have been read before. -/
def ofChars? : Nat → List Char → Bool → List Char → Option (List Lexeme)
  | 0, _, _, _ => none
  | _ + 1, awaited, _, [] => if awaited = [] then some [] else none
  | steps + 1, awaited, begun, c :: rest =>
    let before (x : Lexeme) (rest : List Char) := (ofChars? steps awaited true rest).map (x :: ·)
    if isBlank c then ofChars? steps awaited begun rest
    else if c = '#' then ofChars? steps awaited begun (afterComment rest)
    else if c = '\n' then
      if awaited ≠ [] then ofChars? steps awaited begun rest
      else if begun then (if areBlank steps rest then some [] else none)
      else (unindented? 0 0 rest).bind (ofChars? steps awaited begun)
    else if c = '\\' then match rest with
      | '\n' :: d :: rest => ofChars? steps awaited begun (d :: rest)
      | _ => none
    else match textStart? (c :: rest) with
    | some (style, quote, rest) => do
      let (text, rest) ← readText? style quote rest
      match text with
      | some text => before (.literal (.str (String.ofList text))) rest
      | none => before .bytes rest
    | none =>
      if Text.isAsciiDigit c ∨ (c = '.' ∧ startsDigit rest) then do
        let (value, rest) ← readNumeral? (c :: rest)
        before (.literal value) rest
      else if isNameStart c then
        let (word, rest) := (c :: rest).span isNameRest
        before (.name word) rest
      else if (c = '=' ∨ c = '!' ∨ c = '<' ∨ c = '>') ∧ rest.head? = some '=' then
        before (.sign [c, '=']) (rest.drop 1)
      else if isSign c then before (.sign [c]) rest
      else match closing? c with
      | some close =>
        if bracketLimit ≤ awaited.length then none
        else (ofChars? steps (close :: awaited) true rest).map (.sign [c] :: ·)
      | none => match awaited with
        | close :: awaited =>
          if c = close then (ofChars? steps awaited true rest).map (.sign [c] :: ·) else none
        | [] => none

/-- The lexemes of an expression. The null character stands in none, and blanks before the whole
text are no indentation. -/
def read? (cs : List Char) : Option (List Lexeme) :=
  if cs.contains '\x00' then none
  else do
    let cs := (Text.plainLines cs).dropWhile fun c => c == ' ' || c == '\t'
    ofChars? (cs.length + 1) [] false (← unindented? 0 0 cs)

end Lexeme

end StateFlow.Path.Filter
