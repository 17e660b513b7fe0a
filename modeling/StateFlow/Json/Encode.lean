import StateFlow.Json.Display

/-!
JSON text of a value, in ASCII. The compact form has no blanks and escapes the slash; the indented
form puts each member on a line of its own. Characters beyond ASCII are written as their units of
sixteen bits.
-/
namespace StateFlow.Json

def textLayout : Binary64.Layout where
  exponentWidth := 1
  infinity := "Infinity"
  nan := "NaN"

def unitEscape (unit : Nat) : List Char := '\\' :: 'u' :: Text.hexDigits 4 unit

def charUnits (c : Char) : List Nat :=
  if c.toNat < 0x10000 then [c.toNat]
  else [0xd800 + (c.toNat - 0x10000) / 0x400, 0xdc00 + (c.toNat - 0x10000) % 0x400]

def encodeChar (slash : Bool) (c : Char) : List Char :=
  if c = '"' ∨ c = '\\' then ['\\', c]
  else if c = '/' then (if slash then ['\\', '/'] else ['/'])
  else if c = '\x08' then ['\\', 'b']
  else if c = '\x0c' then ['\\', 'f']
  else if c = '\n' then ['\\', 'n']
  else if c = '\r' then ['\\', 'r']
  else if c = '\t' then ['\\', 't']
  else if 0x20 ≤ c.toNat ∧ c.toNat < 0x80 then [c]
  else (charUnits c).flatMap unitEscape

def encodeText (slash : Bool) (cs : List Char) : List Char :=
  '"' :: cs.flatMap (encodeChar slash) ++ ['"']

def encodeScalar (slash : Bool) : Json → List Char
  | .null => "null".toList
  | .bool b => if b then "true".toList else "false".toList
  | .int n => Decimal.ofInt n
  | .real x => textLayout.write x
  | .str s => encodeText slash s.toList
  | .arr _ => ['[', ']']
  | .obj _ => ['\x7b', '\x7d']

mutual
def encodeChars : Json → List Char
  | .arr xs => '[' :: separated [','] (encodeItems xs) ++ [']']
  | .obj fs => '\x7b' :: separated [','] (encodeFields fs) ++ ['\x7d']
  | scalar => encodeScalar true scalar
def encodeItems : List Json → List (List Char)
  | [] => []
  | x :: xs => encodeChars x :: encodeItems xs
def encodeFields : List (String × Json) → List (List Char)
  | [] => []
  | (k, v) :: fs => (encodeText true k.toList ++ ':' :: encodeChars v) :: encodeFields fs
end

def encode (value : Json) : String := String.ofList value.encodeChars

private def newLine (level : Nat) : List Char := '\n' :: List.replicate (4 * level) ' '

private def block (opening closing : Char) (level : Nat) (lines : List (List Char)) : List Char :=
  opening :: newLine (level + 1) ++ separated (',' :: newLine (level + 1)) lines ++
    newLine level ++ [closing]

mutual
def indentedChars (level : Nat) : Json → List Char
  | .arr (x :: xs) => block '[' ']' level (indentedItems (level + 1) (x :: xs))
  | .obj (f :: fs) => block '\x7b' '\x7d' level (indentedFields (level + 1) (f :: fs))
  | scalar => encodeScalar false scalar
def indentedItems (level : Nat) : List Json → List (List Char)
  | [] => []
  | x :: xs => indentedChars level x :: indentedItems level xs
def indentedFields (level : Nat) : List (String × Json) → List (List Char)
  | [] => []
  | (k, v) :: fs =>
    (encodeText false k.toList ++ ':' :: ' ' :: indentedChars level v) :: indentedFields level fs
end

def encodeIndented (value : Json) : String := String.ofList (value.indentedChars 0)

end StateFlow.Json
