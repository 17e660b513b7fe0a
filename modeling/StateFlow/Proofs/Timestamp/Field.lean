import Mathlib.Data.List.Basic
import Mathlib.Tactic.Ring
import StateFlow.Proofs.Text.Numeral
import StateFlow.Timestamp

/-!
The fields of a timestamp as numbers: `number_append` gives the number of a row of digits by its
parts, and what fits a field is a number of its range. Where all digits are of ASCII the range is
all that is checked (`fits_of_ascii`).
-/
namespace StateFlow.Timestamp

def digitOf (c : Char) : Nat := (Text.digit? c).getD 0

theorem digitOf_lt (c : Char) : digitOf c < 10 := by
  unfold digitOf Text.digit?
  split
  · split
    · next ascii =>
      have high : c.toNat ≤ 57 := ascii.2
      rw [Option.getD_some]
      omega
    · decide
  · cases found : Text.zeroDigits.find? fun z => z ≤ c.toNat && c.toNat < z + 10 with
    | none => simp
    | some z =>
      have near := List.find?_some found
      simp only [Bool.and_eq_true, decide_eq_true_eq] at near
      simp only [Option.map_some, Option.getD_some]
      omega

theorem digitOf_between {low high c : Char} (least : '0' ≤ low) (greatest : high ≤ '9')
    (between : low ≤ c ∧ c ≤ high) : digitOf low ≤ digitOf c ∧ digitOf c ≤ digitOf high := by
  have value {d : Char} (above : low ≤ d) (below : d ≤ high) : digitOf d = d.toNat - 48 := by
    rw [digitOf, Text.digit?_ascii ⟨Char.le_trans least above, Char.le_trans below greatest⟩,
      Option.getD_some]
  have codes : low.toNat ≤ c.toNat ∧ c.toNat ≤ high.toNat := between
  have order := Char.le_trans between.1 between.2
  rw [value (Char.le_refl low) order, value between.1 between.2, value order (Char.le_refl high)]
  omega

theorem number_append (cs ds : List Char) :
    number (cs ++ ds) = number cs * 10 ^ ds.length + number ds := by
  have onto (n : Nat) : ds.foldl (fun v c => 10 * v + digitOf c) n =
      n * 10 ^ ds.length + ds.foldl (fun v c => 10 * v + digitOf c) 0 := by
    induction ds generalizing n with
    | nil => simp
    | cons d ds ih =>
      rw [List.foldl_cons, List.foldl_cons, ih, ih (10 * 0 + digitOf d), List.length_cons,
        Nat.pow_succ]
      ring
  rw [number, List.foldl_append]
  exact onto _

theorem number_cons (c : Char) (cs : List Char) :
    number (c :: cs) = digitOf c * 10 ^ cs.length + number cs := by
  have single : number [c] = digitOf c := by simp [number, digitOf]
  rw [← List.singleton_append, number_append, single]

theorem number_lt (cs : List Char) : number cs < 10 ^ cs.length := by
  induction cs with
  | nil => decide
  | cons c cs ih =>
    rw [number_cons, List.length_cons, Nat.pow_succ]
    have digit := digitOf_lt c
    calc digitOf c * 10 ^ cs.length + number cs
      _ < digitOf c * 10 ^ cs.length + 10 ^ cs.length := Nat.add_lt_add_left ih _
      _ = (digitOf c + 1) * 10 ^ cs.length := by ring
      _ ≤ 10 ^ cs.length * 10 := by
        rw [Nat.mul_comm]
        exact Nat.mul_le_mul_left _ digit

theorem number_pair (a b : Char) : number [a, b] = 10 * digitOf a + digitOf b := by
  simp [number, digitOf]

theorem number_of_last (first : Char) {last low high : Char} (least : '0' ≤ low)
    (greatest : high ≤ '9') (between : low ≤ last ∧ last ≤ high) :
    number [first, low] ≤ number [first, last] ∧ number [first, last] ≤ number [first, high] := by
  have digit := digitOf_between least greatest between
  simp only [number_pair]
  omega

theorem number_of_first {first low high : Char} (last : Char) (least : '0' ≤ low)
    (greatest : high ≤ '9') (between : low ≤ first ∧ first ≤ high) :
    number [low, '0'] ≤ number [first, last] ∧ number [first, last] ≤ number [high, '9'] := by
  have digit := digitOf_between least greatest between
  have any := digitOf_lt last
  have zero : digitOf '0' = 0 := rfl
  have nine : digitOf '9' = 9 := rfl
  simp only [number_pair]
  omega

theorem number_of_monthFits {cs : List Char} (fits : monthFits cs = true) :
    1 ≤ number cs ∧ number cs ≤ 12 := by
  rcases cs with _ | ⟨a, _ | ⟨b, _ | _⟩⟩
  case cons.cons.nil =>
    have opened : monthFits [a, b] = (a == '1' && ('0' ≤ b && b ≤ '2') ||
      a == '0' && ('1' ≤ b && b ≤ '9')) := rfl
    simp only [opened, Bool.or_eq_true, Bool.and_eq_true, beq_iff_eq, decide_eq_true_eq] at fits
    rcases fits with ⟨rfl, last⟩ | ⟨rfl, last⟩
    · have range : 10 ≤ number ['1', b] ∧ number ['1', b] ≤ 12 :=
        number_of_last '1' (by decide) (by decide) last
      omega
    · have range : 1 ≤ number ['0', b] ∧ number ['0', b] ≤ 9 :=
        number_of_last '0' (by decide) (by decide) last
      omega
  all_goals cases fits

theorem number_of_dayFits {cs : List Char} (fits : dayFits cs = true) :
    1 ≤ number cs ∧ number cs ≤ 31 := by
  rcases cs with _ | ⟨a, _ | ⟨b, _ | _⟩⟩
  case cons.cons.nil =>
    have opened : dayFits [a, b] = (a == '3' && ('0' ≤ b && b ≤ '1') ||
      ('1' ≤ a && a ≤ '2') && Text.isDecimal b || a == '0' && ('1' ≤ b && b ≤ '9')) := rfl
    simp only [opened, Bool.or_eq_true, Bool.and_eq_true, beq_iff_eq, decide_eq_true_eq] at fits
    rcases fits with (⟨rfl, last⟩ | ⟨first, -⟩) | ⟨rfl, last⟩
    · have range : 30 ≤ number ['3', b] ∧ number ['3', b] ≤ 31 :=
        number_of_last '3' (by decide) (by decide) last
      omega
    · have range : 10 ≤ number [a, b] ∧ number [a, b] ≤ 29 :=
        number_of_first b (by decide) (by decide) first
      omega
    · have range : 1 ≤ number ['0', b] ∧ number ['0', b] ≤ 9 :=
        number_of_last '0' (by decide) (by decide) last
      omega
  all_goals cases fits

theorem number_of_hourFits {cs : List Char} (fits : hourFits cs = true) : number cs ≤ 23 := by
  rcases cs with _ | ⟨a, _ | ⟨b, _ | _⟩⟩
  case cons.cons.nil =>
    have opened : hourFits [a, b] = (a == '2' && ('0' ≤ b && b ≤ '3') ||
      ('0' ≤ a && a ≤ '1') && Text.isDecimal b) := rfl
    simp only [opened, Bool.or_eq_true, Bool.and_eq_true, beq_iff_eq, decide_eq_true_eq] at fits
    rcases fits with ⟨rfl, last⟩ | ⟨first, -⟩
    · exact (number_of_last '2' (by decide) (by decide) last).2
    · have range : 0 ≤ number [a, b] ∧ number [a, b] ≤ 19 :=
        number_of_first b (by decide) (by decide) first
      omega
  all_goals cases fits

theorem number_of_minuteFits {cs : List Char} (fits : minuteFits cs = true) : number cs ≤ 59 := by
  rcases cs with _ | ⟨a, _ | ⟨b, _ | _⟩⟩
  case cons.cons.nil =>
    have opened : minuteFits [a, b] = (('0' ≤ a && a ≤ '5') && Text.isDecimal b) := rfl
    simp only [opened, Bool.and_eq_true, decide_eq_true_eq] at fits
    exact (number_of_first b (by decide) (by decide) fits.1).2
  all_goals cases fits

theorem exists_digitChar {c : Char} (digit : Text.isAsciiDigit c = true) :
    ∃ d : Fin 10, Decimal.digitChar d = c := by
  obtain ⟨low, high⟩ := Text.toNat_of_isAsciiDigit digit
  refine ⟨⟨c.toNat - 48, by omega⟩, ?_⟩
  have sum : 48 + (c.toNat - 48) = c.toNat := by omega
  change Char.ofNat (48 + (c.toNat - 48)) = c
  rw [sum, Char.ofNat_toNat]

theorem fits_of_ascii {cs : List Char} (length : cs.length = 2)
    (ascii : ∀ c ∈ cs, Text.isAsciiDigit c = true) :
    (1 ≤ number cs ∧ number cs ≤ 12 → monthFits cs = true) ∧
      (1 ≤ number cs ∧ number cs ≤ 31 → dayFits cs = true) ∧
      (number cs ≤ 23 → hourFits cs = true) ∧ (number cs ≤ 59 → minuteFits cs = true) := by
  obtain ⟨a, b, rfl⟩ := List.length_eq_two.1 length
  obtain ⟨m, rfl⟩ := exists_digitChar (ascii a (by simp))
  obtain ⟨n, rfl⟩ := exists_digitChar (ascii b (by simp))
  clear ascii length
  revert m n
  decide

end StateFlow.Timestamp
