import Mathlib.Data.List.TakeDrop
import StateFlow.Json.Decode
import StateFlow.Json.Encode
import StateFlow.Json.Writable
import StateFlow.Proofs.Decimal

/-!
Texts, whole numbers and words in JSON text, read back. Escapes give their characters back, in pairs
of units where a character takes two, and a number gives its digits back where it ends.
-/
namespace StateFlow

namespace Json

theorem readUnit_hexDigits {unit : Nat} (bound : unit < 0x10000) (rest : List Char) :
    readUnit 4 0 (Text.hexDigits 4 unit ++ rest) = .ok (unit, rest) := by
  have digit (n : Nat) : hexValue? (Text.hexDigit (n % 16)) = some (n % 16) :=
    hexValue?_hexDigit (Nat.mod_lt n (by decide))
  simp only [Text.hexDigits, List.nil_append, List.cons_append, readUnit, digit]
  congr 2
  omega

theorem lowUnit?_of_single {unit : Nat} (single : unit < 0xd800 ∨ 0xe000 ≤ unit)
    (rest : List Char) : lowUnit? unit rest = none := by
  unfold lowUnit?
  split
  · split
    · exact if_neg (by omega)
    · rfl
  · rfl

theorem lowUnit?_unitEscape {high low : Nat} (isHigh : 0xd800 ≤ high ∧ high < 0xdc00)
    (isLow : 0xdc00 ≤ low ∧ low < 0xe000) (rest : List Char) :
    lowUnit? high (unitEscape low ++ rest) = some (low, rest) := by
  simp only [lowUnit?, unitEscape, List.cons_append]
  rw [readUnit_hexDigits (by omega)]
  simp [isHigh, isLow]

theorem toNat_valid (c : Char) : c.toNat < 0xd800 ∨ (0xe000 ≤ c.toNat ∧ c.toNat < 0x110000) := by
  rcases c.valid with small | large
  · exact .inl small
  · exact .inr ⟨by have := large.1; simp only [Char.toNat]; omega, large.2⟩

theorem readEscape_unitEscape {c : Char} (single : c.toNat < 0x10000) (rest : List Char) :
    readEscape ('u' :: (Text.hexDigits 4 c.toNat ++ rest)) = .ok (c, rest) := by
  have valid := toNat_valid c
  have alone : ¬(0xd800 ≤ c.toNat ∧ c.toNat < 0xe000) := by omega
  simp only [readEscape, if_true, readUnicode, readUnit_hexDigits single]
  rw [lowUnit?_of_single (by omega)]
  simp [unitChar, alone]

theorem readEscape_pair (high low : Nat) (isHigh : 0xd800 ≤ high ∧ high < 0xdc00)
    (isLow : 0xdc00 ≤ low ∧ low < 0xe000) (rest : List Char) :
    readEscape ('u' :: (Text.hexDigits 4 high ++ (unitEscape low ++ rest))) =
      .ok (Char.ofNat (0x10000 + (high - 0xd800) * 0x400 + (low - 0xdc00)), rest) := by
  simp only [readEscape, if_true, readUnicode]
  rw [readUnit_hexDigits (by omega)]
  simp only [lowUnit?_unitEscape isHigh isLow]

theorem readText_escape {read rest more : List Char} {c : Char}
    (escape : readEscape rest = .ok (c, more)) :
    readText read ('\\' :: rest) = readText (c :: read) more := by
  rw [readText]
  simp only [Char.reduceEq, if_false, if_true]
  split
  · next failed => simp [escape] at failed
  · next d after found =>
    rw [escape] at found
    cases found
    rfl

theorem readText_units (c : Char) (read rest : List Char) :
    readText read ((charUnits c).flatMap unitEscape ++ rest) = readText (c :: read) rest := by
  unfold charUnits
  split
  · next single =>
    simp only [List.flatMap_cons, List.flatMap_nil, List.append_nil, unitEscape, List.cons_append]
    exact readText_escape (readEscape_unitEscape single rest)
  · next pair =>
    have valid := toNat_valid c
    have high : (c.toNat - 0x10000) / 0x400 < 0x400 := by omega
    have low : (c.toNat - 0x10000) % 0x400 < 0x400 := Nat.mod_lt _ (by decide)
    have whole : 0x10000 + (0xd800 + (c.toNat - 0x10000) / 0x400 - 0xd800) * 0x400 +
        (0xdc00 + (c.toNat - 0x10000) % 0x400 - 0xdc00) = c.toNat := by omega
    have escape := readEscape_pair (0xd800 + (c.toNat - 0x10000) / 0x400)
      (0xdc00 + (c.toNat - 0x10000) % 0x400) (by omega) (by omega) rest
    rw [whole, Char.ofNat_toNat] at escape
    simp only [List.flatMap_cons, List.flatMap_nil, List.append_nil, List.append_assoc]
    exact readText_escape escape

theorem readText_encodeChar (slash : Bool) (c : Char) (read rest : List Char) :
    readText read (encodeChar slash c ++ rest) = readText (c :: read) rest := by
  unfold encodeChar
  split
  · next quote =>
    refine readText_escape ?_
    rcases quote with rfl | rfl <;> simp [readEscape]
  split
  · next noQuote isSlash =>
    subst isSlash
    cases slash with
    | true => exact readText_escape (by simp [readEscape])
    | false => simp [readText]
  iterate 5
    split
    · next isControl => exact readText_escape (by simp [readEscape, isControl])
  split
  · next noQuote _ _ _ _ _ _ plain =>
    have noZero : c ≠ '\x00' := by
      rintro rfl
      exact absurd plain.1 (by decide)
    simp only [not_or] at noQuote
    rw [List.singleton_append, readText]
    simp [noQuote, noZero]
  · exact readText_units c read rest

theorem readText_flatMap (slash : Bool) (cs read rest : List Char) :
    readText read (cs.flatMap (encodeChar slash) ++ '"' :: rest) =
      .ok (String.ofList (read.reverse ++ cs), rest) := by
  induction cs generalizing read with
  | nil => simp [readText]
  | cons c cs ih =>
    rw [List.flatMap_cons, List.append_assoc, readText_encodeChar, ih]
    simp

def EndsNumber (rest : List Char) : Prop :=
  ∀ c ∈ rest.head?, Text.isAsciiDigit c = false ∧ c ≠ '.' ∧ c ≠ 'e' ∧ c ≠ 'E'

theorem endsNumber_nil : EndsNumber [] := by simp [EndsNumber]

theorem endsNumber_cons {c : Char} {rest : List Char}
    (other : Text.isAsciiDigit c = false ∧ c ≠ '.' ∧ c ≠ 'e' ∧ c ≠ 'E') :
    EndsNumber (c :: rest) := by
  simpa [EndsNumber] using other

theorem span_digits {ds rest : List Char} (digits : ∀ c ∈ ds, Text.isAsciiDigit c = true)
    (ends : EndsNumber rest) : (ds ++ rest).span Text.isAsciiDigit = (ds, rest) := by
  rw [List.span_eq_takeWhile_dropWhile, List.takeWhile_append_of_pos digits,
    List.dropWhile_append_of_pos digits]
  cases rest with
  | nil => simp
  | cons c rest =>
    have other := (ends c (by simp)).1
    simp [other]

theorem readWhole_digits {n : Nat} (writable : n < Text.writableBound) (negative : Bool) :
    readWhole negative (Decimal.digits n) = .ok (.int (if negative then -(n : Int) else n)) := by
  unfold Text.writableBound at writable
  have short := Decimal.length_digits_le Text.digitLimit (by decide) writable
  simp only [readWhole, Decimal.value_digits, short, or_true, if_true]

theorem readNumber_digits {n : Nat} (writable : n < Text.writableBound) (negative : Bool)
    (start : List Char) {rest : List Char} (ends : EndsNumber rest) :
    readNumber negative start (Decimal.digits n ++ rest) =
      .ok (.int (if negative then -(n : Int) else n), rest) := by
  unfold readNumber
  rw [span_digits (fun c => Decimal.isAsciiDigit_of_mem_digits) ends]
  dsimp only
  split
  · next point => exact absurd rfl (ends '.' point).2.1
  · next exponent => exact absurd rfl (ends 'e' exponent).2.2.1
  · next exponent => exact absurd rfl (ends 'E' exponent).2.2.2
  · rw [readWhole_digits writable]
    rfl

theorem readScalar_digit {c : Char} (digit : Text.isAsciiDigit c = true) (rest : List Char) :
    readScalar (c :: rest) = readNumber false (c :: rest) (c :: rest) := by
  unfold readScalar
  split <;> rename_i same <;> cases same <;> first | exact absurd digit (by decide) | simp [digit]

theorem readScalar_minus {c : Char} (digit : Text.isAsciiDigit c = true) (rest : List Char) :
    readScalar ('-' :: c :: rest) = readNumber true ('-' :: c :: rest) (c :: rest) := by
  have noWord : c ≠ 'I' := by
    rintro rfl
    exact absurd digit (by decide)
  simp [readScalar, noWord]

theorem readScalar_ofInt {n : Int} (writable : Text.isWritable n = true) {rest : List Char}
    (ends : EndsNumber rest) :
    readScalar (Decimal.ofInt n ++ rest) = .ok (.int n, rest) := by
  have below : n < 0 → -(n.natAbs : Int) = n := by omega
  have above : ¬n < 0 → (n.natAbs : Int) = n := by omega
  have bound : n.natAbs < Text.writableBound := of_decide_eq_true writable
  have digits : ∀ c ∈ Decimal.digits n.natAbs, Text.isAsciiDigit c = true :=
    fun c => Decimal.isAsciiDigit_of_mem_digits
  have number (negative : Bool) (start : List Char) := readNumber_digits bound negative start ends
  obtain ⟨c, ds, same⟩ := List.exists_cons_of_ne_nil (Decimal.digits_ne_nil n.natAbs)
  have first := digits c (by simp [same])
  unfold Decimal.ofInt
  split
  · next negative =>
    rw [same] at number ⊢
    simp only [List.cons_append] at number ⊢
    rw [readScalar_minus first, number, if_pos rfl, below negative]
  · next positive =>
    rw [same] at number ⊢
    simp only [List.cons_append] at number ⊢
    rw [readScalar_digit first, number, if_neg Bool.false_ne_true, above positive]

theorem readWord_append (word : String) (value : Json) (rest : List Char) :
    readWord word value (word.toList ++ rest) = .ok (value, rest) := by
  have same : word.toList.isPrefixOf (word.toList ++ rest) = true :=
    List.isPrefixOf_iff_prefix.2 (List.prefix_append _ _)
  rw [readWord, if_pos same, ← String.length_toList, List.drop_left]

end Json

end StateFlow
