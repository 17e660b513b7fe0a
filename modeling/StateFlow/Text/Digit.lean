/-!
Decimal digits of all scripts. Each script has its ten digits in a row, from zero to nine; the
further digit characters, superscripts and circled ones among them, have no decimal value.
-/
namespace StateFlow.Text

def zeroDigits : List Nat :=
  [48, 1632, 1776, 1984, 2406, 2534, 2662, 2790, 2918, 3046, 3174, 3302, 3430, 3558, 3664, 3792,
   3872, 4160, 4240, 6112, 6160, 6470, 6608, 6784, 6800, 6992, 7088, 7232, 7248, 42528, 43216,
   43264, 43472, 43504, 43600, 44016, 65296, 66720, 68912, 69734, 69872, 69942, 70096, 70384,
   70736, 70864, 71248, 71360, 71472, 71904, 72016, 72784, 73040, 73120, 92768, 92864, 93008,
   120782, 120792, 120802, 120812, 120822, 123200, 123632, 125264, 130032]

def otherDigits : List (Nat × Nat) :=
  [(178, 179), (185, 185), (4969, 4977), (6618, 6618), (8304, 8304), (8308, 8313), (8320, 8329),
   (9312, 9320), (9332, 9340), (9352, 9360), (9450, 9450), (9461, 9469), (9471, 9471),
   (10102, 10110), (10112, 10120), (10122, 10130), (68160, 68163), (69216, 69224), (69714, 69722),
   (127232, 127242)]

def digit? (c : Char) : Option Nat :=
  if c.toNat < 128 then (if '0' ≤ c ∧ c ≤ '9' then some (c.toNat - 48) else none)
  else (zeroDigits.find? fun z => z ≤ c.toNat && c.toNat < z + 10).map (c.toNat - ·)

def isDecimal (c : Char) : Bool := (digit? c).isSome

def isDigit (c : Char) : Bool :=
  isDecimal c || otherDigits.any fun (first, last) => first ≤ c.toNat && c.toNat ≤ last

theorem digit?_ascii {c : Char} (h : '0' ≤ c ∧ c ≤ '9') : digit? c = some (c.toNat - 48) := by
  have : c.toNat < 128 := by
    have := h.2
    simp only [Char.le_def, UInt32.le_iff_toNat_le] at this
    simp only [Char.toNat]
    exact Nat.lt_of_le_of_lt this (by decide)
  simp [digit?, this, h]

end StateFlow.Text
