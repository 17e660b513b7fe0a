import Mathlib.Algebra.Order.Field.Power
import Mathlib.Data.Rat.Cast.Order
import Mathlib.Tactic.FieldSimp
import Mathlib.Tactic.Linarith
import Mathlib.Tactic.NormNum
import Mathlib.Tactic.Ring
import StateFlow.Binary64

/-!
Rounding keeps the order. A number that has a double of its own is not above the double nearest to
what it is not above, and not below the double nearest to what it is not below; `ofRatio_le` and
`le_ofRatio` say this of quotients of whole numbers. A power of two is reached from half a unit below
it on: `ofRatio_lt` and `le_ofRatio_of_near`.
-/
namespace StateFlow.Binary64

def magnitude (m : Nat) (e : Int) : ℚ := m * 2 ^ e

theorem magnitude_nonneg (m : Nat) (e : Int) : 0 ≤ magnitude m e := by
  unfold magnitude
  positivity

theorem two_zpow_of_neg {e : Int} (negative : e < 0) : (2 : ℚ) ^ e = (2 ^ (-e).toNat)⁻¹ := by
  rw [← zpow_natCast, ← zpow_neg]
  congr 1
  omega

theorem two_zpow_of_nonneg {e : Int} (nonneg : 0 ≤ e) : (2 : ℚ) ^ e = 2 ^ e.toNat := by
  rw [← zpow_natCast, Int.toNat_of_nonneg nonneg]

theorem magnitude_lower (m : Nat) {e f : Int} (lower : e ≤ f) :
    magnitude m f = magnitude (m * 2 ^ (f - e).toNat) e := by
  have exponent : f = (f - e).toNat + e := by omega
  have power : (2 : ℚ) ^ f = 2 ^ (f - e).toNat * 2 ^ e := by
    conv_lhs => rw [exponent]
    rw [zpow_add₀ (by norm_num), zpow_natCast]
  simp [magnitude, power, mul_assoc]

theorem magnitude_lt_iff {m n : Nat} {e : Int} : magnitude m e < magnitude n e ↔ m < n := by
  have positive : (0 : ℚ) < 2 ^ e := by positivity
  simp [magnitude, mul_lt_mul_iff_left₀ positive]

theorem magnitude_le_iff {m n : Nat} {e : Int} : magnitude m e ≤ magnitude n e ↔ m ≤ n := by
  have positive : (0 : ℚ) < 2 ^ e := by positivity
  simp [magnitude, mul_le_mul_iff_left₀ positive]

theorem magnitude_eq_ratio (m : Nat) (e : Int) :
    magnitude m e = ((ratio m e).1 : ℚ) / (ratio m e).2 := by
  unfold ratio magnitude
  split
  · next negative =>
    rw [two_zpow_of_neg negative, Nat.one_shiftLeft]
    push_cast
    rw [div_eq_mul_inv]
  · next nonneg =>
    rw [two_zpow_of_nonneg (Int.not_lt.1 nonneg), Nat.shiftLeft_eq]
    push_cast
    rw [div_one]

theorem ratio_positive (m : Nat) (e : Int) : 0 < (ratio m e).2 := by
  unfold ratio
  split
  · rw [Nat.one_shiftLeft]
    positivity
  · exact Nat.one_pos

def toRat? : Binary64 → Option ℚ
  | .finite negative m e => some (if negative then -magnitude m e else magnitude m e)
  | _ => none

theorem le_divNearest {k num den : Nat} (positive : 0 < den) (le : k * den ≤ num) :
    k ≤ divNearest num den := by
  have quotient : k ≤ num / den := (Nat.le_div_iff_mul_le positive).2 le
  unfold divNearest
  dsimp only
  split <;> omega

theorem le_divNearest_of_half {k num den : Nat} (positive : 0 < den) (even : k % 2 = 0)
    (le : 2 * k * den ≤ 2 * num + den) : k ≤ divNearest num den := by
  have parts := Nat.div_add_mod num den
  have rest := Nat.mod_lt num positive
  unfold divNearest
  dsimp only
  rcases Nat.lt_or_ge (num / den) k with less | same
  · -- the quotient is the odd number below, and what is left is half a unit at least
    have below : num / den + 1 = k := by
      by_contra other
      have less : (num / den + 2) * den ≤ k * den := Nat.mul_le_mul_right den (by omega)
      rw [Nat.add_mul, Nat.mul_comm (num / den)] at less
      rw [Nat.mul_assoc] at le
      omega
    have half : 2 * (num % den) ≥ den := by
      rw [← below, Nat.mul_assoc, Nat.add_mul, Nat.mul_comm (num / den)] at le
      omega
    rw [if_pos (by omega)]
    exact below.ge
  · split <;> omega

theorem divNearest_le_of_half {k num den : Nat} (less : 2 * num < (2 * k + 1) * den) :
    divNearest num den ≤ k := by
  have parts := Nat.div_add_mod num den
  rw [Nat.add_mul, Nat.mul_assoc, Nat.one_mul] at less
  have quotient : num / den ≤ k := by
    by_contra above
    have more : (k + 1) * den ≤ num / den * den := Nat.mul_le_mul_right den (by omega)
    rw [Nat.add_mul, Nat.mul_comm (num / den)] at more
    omega
  unfold divNearest
  dsimp only
  rcases Nat.lt_or_ge (num / den) k with below | same
  · split <;> omega
  · obtain rfl : num / den = k := Nat.le_antisymm quotient same
    rw [Nat.mul_comm (num / den)] at less
    rw [if_neg (by omega)]

def significandOf (num den : Nat) : Nat :=
  let e := exponentOf num den
  if e < 0 then divNearest (num <<< (-e).toNat) den else divNearest num (den <<< e.toNat)

/-- The significand is the whole number nearest to the quotient in units of its exponent. -/
theorem exists_significandOf (num : Nat) {den : Nat} (positive : 0 < den) :
    ∃ a b : Nat, 0 < b ∧ significandOf num den = divNearest a b ∧
      (a : ℚ) = num / den / 2 ^ exponentOf num den * b := by
  have nonzero : (den : ℚ) ≠ 0 := by exact_mod_cast positive.ne'
  unfold significandOf
  generalize exponentOf num den = e
  dsimp only
  split
  · next negative =>
    refine ⟨_, _, positive, rfl, ?_⟩
    rw [Nat.shiftLeft_eq, two_zpow_of_neg negative]
    push_cast
    field_simp
  · next nonneg =>
    refine ⟨_, _, by rw [Nat.shiftLeft_eq]; positivity, rfl, ?_⟩
    rw [Nat.shiftLeft_eq, two_zpow_of_nonneg (Int.not_lt.1 nonneg)]
    push_cast
    field_simp

theorem le_significandOf {k num den : Nat} (positive : 0 < den)
    (le : magnitude k (exponentOf num den) ≤ (num : ℚ) / den) : k ≤ significandOf num den := by
  obtain ⟨a, b, divisor, same, scaled⟩ := exists_significandOf num positive
  rw [magnitude, ← le_div_iff₀ (by positivity)] at le
  rw [same]
  refine le_divNearest divisor ?_
  have product := mul_le_mul_of_nonneg_right le (Nat.cast_nonneg b : (0 : ℚ) ≤ b)
  rw [← scaled] at product
  exact_mod_cast product

theorem le_significandOf_of_half {k num den : Nat} (positive : 0 < den) (even : k % 2 = 0)
    (le : (k - 1 / 2 : ℚ) * 2 ^ exponentOf num den ≤ (num : ℚ) / den) :
    k ≤ significandOf num den := by
  obtain ⟨a, b, divisor, same, scaled⟩ := exists_significandOf num positive
  rw [← le_div_iff₀ (by positivity)] at le
  rw [same]
  refine le_divNearest_of_half divisor even ?_
  have product := mul_le_mul_of_nonneg_right le (Nat.cast_nonneg b : (0 : ℚ) ≤ b)
  rw [← scaled] at product
  have doubled : (2 * k * b : ℚ) ≤ 2 * a + b := by linarith
  exact_mod_cast doubled

theorem significandOf_le_of_half {k num den : Nat} (positive : 0 < den)
    (less : (num : ℚ) / den < (k + 1 / 2 : ℚ) * 2 ^ exponentOf num den) :
    significandOf num den ≤ k := by
  obtain ⟨a, b, divisor, same, scaled⟩ := exists_significandOf num positive
  rw [← div_lt_iff₀ (by positivity)] at less
  rw [same]
  refine divNearest_le_of_half ?_
  have product := mul_lt_mul_of_pos_right less (by exact_mod_cast divisor : (0 : ℚ) < b)
  rw [← scaled] at product
  have doubled : (2 * a : ℚ) < (2 * k + 1) * b := by linarith
  exact_mod_cast doubled

theorem significandOf_le {k num den : Nat} (positive : 0 < den)
    (le : (num : ℚ) / den ≤ magnitude k (exponentOf num den)) : significandOf num den ≤ k := by
  refine significandOf_le_of_half positive (le.trans_lt ?_)
  rw [magnitude, mul_lt_mul_iff_left₀ (by positivity)]
  linarith

theorem two_zpow_le_div {num den a b : Nat} (positive : 0 < den)
    (le : den * 2 ^ a ≤ num * 2 ^ b) : (2 : ℚ) ^ ((a : Int) - b) ≤ (num : ℚ) / den := by
  have denominator : (0 : ℚ) < den := by exact_mod_cast positive
  rw [zpow_sub₀ (by norm_num), zpow_natCast, zpow_natCast,
    div_le_div_iff₀ (by positivity) denominator, mul_comm]
  exact_mod_cast le

theorem magnitude_two_pow (k : Nat) (e : Int) : magnitude (2 ^ k) e = 2 ^ ((k : Int) + e) := by
  rw [magnitude, zpow_add₀ (by norm_num), zpow_natCast]
  push_cast
  rfl

theorem normal_le {num den : Nat} (nonzero : num ≠ 0) (positive : 0 < den)
    (above : leastExponent < exponentOf num den) :
    magnitude (2 ^ 52) (exponentOf num den) ≤ (num : ℚ) / den := by
  rw [magnitude_two_pow]
  unfold exponentOf at above ⊢
  dsimp only at above ⊢
  rw [max_eq_left (by omega)]
  generalize start_ : (num.log2 : Int) - den.log2 - precision = e
  by_cases fits : (if e < 0 then num <<< (-e).toNat < den <<< precision
      else num < den <<< (precision + e.toNat))
  · rw [if_pos fits]
    have upper : den ≤ 2 ^ (den.log2 + 1) := Nat.lt_log2_self.le
    have lower : 2 ^ num.log2 ≤ num := Nat.log2_self_le nonzero
    have le : den * 2 ^ num.log2 ≤ num * 2 ^ (den.log2 + 1) := by
      rw [Nat.mul_comm num]
      exact Nat.mul_le_mul upper lower
    convert two_zpow_le_div positive le using 2
    unfold precision at start_
    push_cast
    omega
  · rw [if_neg fits]
    split at fits
    · next negative =>
      rw [Nat.shiftLeft_eq, Nat.shiftLeft_eq, Nat.not_lt] at fits
      convert two_zpow_le_div positive fits using 2
      unfold precision
      omega
    · next nonneg =>
      rw [Nat.shiftLeft_eq, Nat.not_lt] at fits
      have le : den * 2 ^ (precision + e.toNat) ≤ num * 2 ^ 0 := by simpa using fits
      convert two_zpow_le_div positive le using 2
      unfold precision
      push_cast
      omega

theorem div_lt_two_zpow {num den a b : Nat} (positive : 0 < den)
    (less : num * 2 ^ b < den * 2 ^ a) : (num : ℚ) / den < 2 ^ ((a : Int) - b) := by
  have denominator : (0 : ℚ) < den := by exact_mod_cast positive
  rw [zpow_sub₀ (by norm_num), zpow_natCast, zpow_natCast,
    div_lt_div_iff₀ denominator (by positivity), mul_comm ((2 : ℚ) ^ a)]
  exact_mod_cast less

theorem lt_of_exponentOf {num den : Nat} (positive : 0 < den) :
    (num : ℚ) / den < 2 ^ (53 + exponentOf num den) := by
  unfold exponentOf
  dsimp only
  generalize start_ : (num.log2 : Int) - den.log2 - precision = e
  refine lt_of_lt_of_le ?_ (zpow_le_zpow_right₀ (by norm_num)
    (Int.add_le_add_left (le_max_left _ leastExponent) 53))
  by_cases fits : (if e < 0 then num <<< (-e).toNat < den <<< precision
      else num < den <<< (precision + e.toNat))
  · rw [if_pos fits]
    split at fits
    · next negative =>
      rw [Nat.shiftLeft_eq, Nat.shiftLeft_eq] at fits
      refine lt_of_lt_of_eq (div_lt_two_zpow positive fits) (congrArg _ ?_)
      unfold precision
      omega
    · next nonneg =>
      rw [Nat.shiftLeft_eq] at fits
      have less : num * 2 ^ 0 < den * 2 ^ (precision + e.toNat) := by simpa using fits
      refine lt_of_lt_of_eq (div_lt_two_zpow positive less) (congrArg _ ?_)
      unfold precision
      push_cast
      omega
  · rw [if_neg fits]
    have upper : num < 2 ^ (num.log2 + 1) := Nat.lt_log2_self
    have lower : 2 ^ den.log2 ≤ den := Nat.log2_self_le (by omega)
    have less : num * 2 ^ den.log2 < den * 2 ^ (num.log2 + 1) := by
      rw [Nat.mul_comm den]
      exact Nat.mul_lt_mul_of_lt_of_le upper lower (by positivity)
    refine lt_of_lt_of_eq (div_lt_two_zpow positive less) (congrArg _ ?_)
    unfold precision at start_
    push_cast
    omega

theorem ofRatio_cases {num : Nat} (nonzero : num ≠ 0) (den : Nat) :
    (ofRatio false num den = .infinite false ∧ greatestExponent ≤ exponentOf num den) ∨
      ∃ m e, ofRatio false num den = .finite false m e ∧
        magnitude m e = magnitude (significandOf num den) (exponentOf num den) := by
  have rounded : ofRatio false num den =
      if significandOf num den = 1 <<< precision then
        if greatestExponent < exponentOf num den + 1 then .infinite false
        else .finite false (significandOf num den / 2) (exponentOf num den + 1)
      else if greatestExponent < exponentOf num den then .infinite false
      else .finite false (significandOf num den) (exponentOf num den) := by
    rw [ofRatio, if_neg nonzero]
    by_cases carry : significandOf num den = 1 <<< precision
    · rw [if_pos carry]
      unfold significandOf at carry ⊢
      dsimp only at carry ⊢
      rw [if_pos carry]
    · rw [if_neg carry]
      unfold significandOf at carry ⊢
      dsimp only at carry ⊢
      rw [if_neg carry]
  rw [rounded]
  generalize significandOf num den = m
  generalize exponentOf num den = e
  split
  · next carry =>
    split
    · exact .inl ⟨rfl, by omega⟩
    · refine .inr ⟨_, _, rfl, ?_⟩
      have half : m / 2 * 2 = m := by
        subst carry
        decide
      rw [magnitude_lower (m / 2) (Int.le_add_one (Int.le_refl e)), add_sub_cancel_left]
      exact congrArg (magnitude · e) half
  · split
    · exact .inl ⟨rfl, by omega⟩
    · exact .inr ⟨_, _, rfl, rfl⟩

theorem magnitude_le_normal {f e : Int} (less : f < e) :
    magnitude (2 ^ 53) f ≤ magnitude (2 ^ 52) e := by
  rw [magnitude_two_pow, magnitude_two_pow]
  exact zpow_le_zpow_right₀ (by norm_num) (by omega)

theorem magnitude_lt_normal {r : Nat} {f e : Int} (precise : r < 2 ^ 53) (less : f < e) :
    magnitude r f < magnitude (2 ^ 52) e :=
  (magnitude_lt_iff.2 precise).trans_le (magnitude_le_normal less)

theorem le_ofRatio {num den r : Nat} {f : Int} (nonzero : num ≠ 0) (positive : 0 < den)
    (precise : r < 2 ^ 53) (fine : leastExponent ≤ f) (le : magnitude r f ≤ (num : ℚ) / den) :
    ofRatio false num den = .infinite false ∨
      ∃ m e, ofRatio false num den = .finite false m e ∧ magnitude r f ≤ magnitude m e := by
  rcases ofRatio_cases nonzero den with ⟨infinite, -⟩ | ⟨m, e, finite, same⟩
  · exact .inl infinite
  · refine .inr ⟨m, e, finite, ?_⟩
    rw [same]
    rcases lt_or_ge f (exponentOf num den) with coarse | exact
    · have normal := normal_le nonzero positive (Int.lt_of_le_of_lt fine coarse)
      exact (magnitude_lt_normal precise coarse).le.trans
        (magnitude_le_iff.2 (le_significandOf positive normal))
    · rw [magnitude_lower r exact] at le ⊢
      exact magnitude_le_iff.2 (le_significandOf positive le)

theorem le_of_toRat {num den r : Nat} {f : Int} {p : ℚ} (positive : 0 < den)
    (precise : r < 2 ^ 53) (fine : leastExponent ≤ f) (le : magnitude r f ≤ (num : ℚ) / den)
    (value : (ofRatio false num den).toRat? = some p) : magnitude r f ≤ p := by
  by_cases zero : num = 0
  · have rounded : ofRatio false num den = .finite false 0 leastExponent := by
      rw [ofRatio, if_pos zero]
      rfl
    rw [rounded] at value
    obtain rfl : magnitude 0 leastExponent = p := Option.some.inj value
    simpa [zero, magnitude] using le
  · rcases le_ofRatio zero positive precise fine le with infinite | ⟨m, e, finite, below⟩
    · rw [infinite] at value
      cases value
    · rw [finite] at value
      obtain rfl : magnitude m e = p := Option.some.inj value
      exact below

theorem ofRatio_le {num den r : Nat} {f : Int} (positive : 0 < den)
    (precise : r < 2 ^ 53) (fine : leastExponent ≤ f) (small : f < greatestExponent)
    (le : (num : ℚ) / den ≤ magnitude r f) :
    ∃ m e, ofRatio false num den = .finite false m e ∧ magnitude m e ≤ magnitude r f := by
  by_cases zero : num = 0
  · refine ⟨0, leastExponent, by rw [ofRatio, if_pos zero]; rfl, ?_⟩
    rw [magnitude, Nat.cast_zero, zero_mul]
    exact magnitude_nonneg r f
  · have exact : exponentOf num den ≤ f := by
      by_contra coarse
      have normal := normal_le zero positive (by omega)
      exact absurd (magnitude_lt_normal precise (by omega)) (not_lt.2 (normal.trans le))
    rcases ofRatio_cases zero den with ⟨-, great⟩ | ⟨m, e, finite, same⟩
    · exact absurd great (by omega)
    · refine ⟨m, e, finite, ?_⟩
      rw [magnitude_lower r exact] at le ⊢
      rw [same]
      exact magnitude_le_iff.2 (significandOf_le positive le)

theorem lt_magnitude_of_short {x : ℚ} {f : Int} (short : x < (2 ^ 53 - 1 / 2) * 2 ^ f) :
    x < magnitude (2 ^ 53) f := by
  have power : (0 : ℚ) < 2 ^ f := by positivity
  rw [magnitude]
  push_cast
  linarith

/-- What is short of a power of two by more than half a unit is not rounded up to it. -/
theorem ofRatio_lt {num den : Nat} {f : Int} (nonzero : num ≠ 0) (positive : 0 < den)
    (fine : leastExponent ≤ f) (small : f < greatestExponent)
    (short : (num : ℚ) / den < (2 ^ 53 - 1 / 2) * 2 ^ f) :
    ∃ m e, ofRatio false num den = .finite false m e ∧ magnitude m e < magnitude (2 ^ 53) f := by
  have near : exponentOf num den ≤ f := by
    by_contra coarse
    have normal := normal_le nonzero positive (Int.lt_of_le_of_lt fine (Int.not_le.1 coarse))
    exact absurd (lt_magnitude_of_short short)
      ((magnitude_le_normal (Int.not_le.1 coarse)).trans normal).not_gt
  rcases ofRatio_cases nonzero den with ⟨-, great⟩ | ⟨m, e, finite, same⟩
  · omega
  refine ⟨m, e, finite, ?_⟩
  -- half a unit of the limit is half a unit of the rounding or more
  rw [same, magnitude_lower _ near, magnitude_lt_iff]
  have scaled : (2 : ℚ) ^ f = 2 ^ (f - exponentOf num den).toNat * 2 ^ exponentOf num den := by
    rw [← zpow_natCast, ← zpow_add₀ (by norm_num)]
    congr 1
    omega
  generalize (f - exponentOf num den).toNat = shift at scaled
  have whole : 1 ≤ 2 ^ 53 * 2 ^ shift := Nat.succ_le_of_lt (by positivity)
  have one_le : (1 : ℚ) ≤ 2 ^ shift := one_le_pow₀ (by norm_num)
  have below : significandOf num den ≤ 2 ^ 53 * 2 ^ shift - 1 := by
    refine significandOf_le_of_half positive (short.trans_le ?_)
    rw [Nat.cast_sub whole, scaled, ← mul_assoc]
    refine mul_le_mul_of_nonneg_right ?_ (by positivity)
    push_cast
    linarith
  exact Nat.lt_of_le_pred (Nat.lt_of_lt_of_le Nat.one_pos whole) below

/-- What is within half a unit of a power of two is rounded up to it. -/
theorem le_ofRatio_of_near {num den : Nat} {f : Int} (nonzero : num ≠ 0) (positive : 0 < den)
    (fine : leastExponent ≤ f) (near : (2 ^ 53 - 1 / 2 : ℚ) * 2 ^ f ≤ (num : ℚ) / den) :
    ofRatio false num den = .infinite false ∨
      ∃ m e, ofRatio false num den = .finite false m e ∧
        magnitude (2 ^ 53) f ≤ magnitude m e := by
  rcases ofRatio_cases nonzero den with ⟨infinite, -⟩ | ⟨m, e, rounded, same⟩
  · exact .inl infinite
  refine .inr ⟨m, e, rounded, ?_⟩
  rw [same]
  have coarse : f ≤ exponentOf num den := by
    by_contra finer
    have less : (num : ℚ) / den < 2 ^ (52 + f) := (lt_of_exponentOf positive).trans_le
      (zpow_le_zpow_right₀ (by norm_num) (by omega))
    rw [zpow_add₀ (by norm_num)] at less
    have half : (2 : ℚ) ^ (52 : Int) * 2 ^ f ≤ (2 ^ 53 - 1 / 2) * 2 ^ f :=
      mul_le_mul_of_nonneg_right (by norm_num) (by positivity)
    linarith
  rcases coarse.eq_or_lt with rfl | coarse
  · refine magnitude_le_iff.2 (le_significandOf_of_half positive (by norm_num) ?_)
    exact_mod_cast near
  · have normal := normal_le nonzero positive (Int.lt_of_le_of_lt fine coarse)
    exact (magnitude_le_normal coarse).trans
      (magnitude_le_iff.2 (le_significandOf positive normal))

theorem exists_mul (m n : Nat) (e f : Int) :
    ∃ num den : Nat, 0 < den ∧ (num : ℚ) / den = magnitude m e * magnitude n f ∧
      (finite false m e).mul (finite false n f) = ofRatio false num den := by
  refine ⟨(ratio (m * n) (e + f)).1, (ratio (m * n) (e + f)).2, ratio_positive _ _, ?_, rfl⟩
  rw [← magnitude_eq_ratio, magnitude, magnitude, magnitude, zpow_add₀ (by norm_num)]
  push_cast
  ring

theorem exists_div (m n : Nat) (e f : Int) (nonzero : n ≠ 0) :
    ∃ num den : Nat, 0 < den ∧ (num : ℚ) / den = magnitude m e / magnitude n f ∧
      (finite false m e).div (finite false n f) = ofRatio false num den := by
  have positive : 0 < (ratio n f).1 := by
    unfold ratio
    split
    · exact Nat.pos_of_ne_zero nonzero
    · rw [Nat.shiftLeft_eq]
      positivity
  refine ⟨(ratio m e).1 * (ratio n f).2, (ratio m e).2 * (ratio n f).1,
    Nat.mul_pos (ratio_positive m e) positive, ?_, by rw [div, if_neg nonzero]; rfl⟩
  rw [magnitude_eq_ratio, magnitude_eq_ratio, div_div_div_eq]
  push_cast
  rfl

theorem ofNat_thousand : ofNat 1000 = .finite false (1000 * 2 ^ 43) (-43) := by
  decide +kernel

theorem magnitude_thousand : magnitude (1000 * 2 ^ 43) (-43) = 1000 := by
  norm_num [magnitude]

theorem ofNat_billion : ofNat 1000000000 = .finite false (1000000000 * 2 ^ 23) (-23) := by
  decide +kernel

theorem magnitude_billion : magnitude (1000000000 * 2 ^ 23) (-23) = 10 ^ 9 := by
  norm_num [magnitude]

end StateFlow.Binary64
