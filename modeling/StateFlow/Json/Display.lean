import StateFlow.Binary64.Text
import StateFlow.Json
import StateFlow.Text.Escape

/-!
The text of a value inside messages: `None`, `True` and `False`, quoted strings, and lists and
objects in brackets with a blank after each comma. A string by itself is shown as it is.
-/
namespace StateFlow.Json

def displayLayout : Binary64.Layout where
  exponentWidth := 2
  infinity := "inf"
  nan := "nan"

def separated (separator : List Char) : List (List Char) → List Char
  | [] => []
  | part :: rest => part ++ rest.flatMap (separator ++ ·)

mutual
def shown : Json → List Char
  | .null => "None".toList
  | .bool b => if b then "True".toList else "False".toList
  | .int n => Decimal.ofInt n
  | .real x => displayLayout.write x
  | .str s => Text.quoted s.toList
  | .arr xs => '[' :: separated [',', ' '] (shownItems xs) ++ [']']
  | .obj fs => '\x7b' :: separated [',', ' '] (shownFields fs) ++ ['\x7d']
def shownItems : List Json → List (List Char)
  | [] => []
  | x :: xs => shown x :: shownItems xs
def shownFields : List (String × Json) → List (List Char)
  | [] => []
  | (k, v) :: fs => (Text.quoted k.toList ++ ':' :: ' ' :: shown v) :: shownFields fs
end

def quoted (value : Json) : String := String.ofList value.shown

def display : Json → String
  | .str s => s
  | value => value.quoted

def displayInt (n : Int) : String := String.ofList (Decimal.ofInt n)

end StateFlow.Json
