import StateFlow.Text.Digit
import StateFlow.Text.Numeral
import StateFlow.Text.Replace

/-!
The short notation of expressions in paths, written out. `@` is the value at hand, `@.a.b` a member
of a member of it, `!@.a` says that a member is missing, a last part `length` asks for a length, and
`&&` and `||` join conditions.
-/
namespace StateFlow.Path.Filter

def subject : List Char := "__obj".toList

def isNameChar (c : Char) : Bool :=
  ('a' ≤ c && c ≤ 'z') || ('A' ≤ c && c ≤ 'Z') || Text.isAsciiDigit c || c == '@' || c == '_'

def missingMember : Text.Replacement := fun _ cs =>
  match cs with
  | '!' :: '@' :: '.' :: rest =>
    let name := rest.takeWhile fun c => isNameChar c || c == '-'
    some ('\'' :: name ++ "' not in ".toList ++ subject, 3 + name.length)
  | _ => none

def dotted : List Char → List (List Char)
  | [] => [[]]
  | c :: rest =>
    if c = '.' then [] :: dotted rest
    else match dotted rest with
      | part :: more => (c :: part) :: more
      | [] => [[c]]

def bracketed (parts : List (List Char)) : List Char :=
  subject ++ parts.flatMap fun part =>
    if part ≠ [] ∧ part.all Text.isAsciiDigit then '[' :: part ++ [']']
    else '[' :: '\'' :: part ++ ['\'', ']']

def memberText (name : List Char) : List Char :=
  let parts := dotted name
  if parts.getLast? = some "length".toList then
    "len(".toList ++ bracketed parts.dropLast ++ [')']
  else bracketed parts

def member : Text.Replacement := fun before cs =>
  match cs with
  | '@' :: '.' :: rest =>
    let name := rest.takeWhile fun c => isNameChar c || c == '.'
    if before = some '\\' ∨ name = [] then none else some (memberText name, 2 + name.length)
  | _ => none

def wholeSubject : Text.Replacement := fun before cs =>
  match cs with
  | '@' :: _ => if before = some '\\' then none else some (subject, 1)
  | _ => none

def writtenOut (cs : List Char) : List Char :=
  let cs := Text.replace (Text.verbatim "@.length".toList ("len(".toList ++ subject ++ [')'])) cs
  let cs := Text.replace (Text.verbatim "&&".toList " and ".toList) cs
  let cs := Text.replace (Text.verbatim "||".toList " or ".toList) cs
  let cs := Text.replace member (Text.replace missingMember cs)
  Text.replace (Text.verbatim "\\@".toList "@".toList) (Text.replace wholeSubject cs)

end StateFlow.Path.Filter
