import Mathlib.Algebra.BigOperators.Intervals
import Mathlib.Tactic.IntervalCases
import Mathlib.Tactic.SplitIfs
import StateFlow.Calendar

/-!
The calendar without a formula: the days before a date are those of the years and of the months
before it. `days_eq_ordinal_sub` is the result, that counting from years that begin in March comes to
the same, for the dates of the years from 1 on. The date of a day number is one that exists
(`isReal_ofDays`).
-/
namespace StateFlow.Date

def yearLength (year : Nat) : Nat := ∑ month ∈ Finset.Ico 1 13, daysInMonth year month

/-- The number of a day, where that of 0001-01-01 is one. -/
def ordinal (year month day : Nat) : Nat :=
  ∑ y ∈ Finset.Ico 1 year, yearLength y + ∑ m ∈ Finset.Ico 1 month, daysInMonth year m + day

theorem daysInMonth_le (year : Int) (month : Nat) : daysInMonth year month ≤ 31 := by
  unfold daysInMonth
  split_ifs <;> decide

theorem isLeap_iff (year : Nat) :
    isLeap year = true ↔ 4 ∣ year ∧ (100 ∣ year → 400 ∣ year) := by
  simp only [isLeap, Bool.and_eq_true, Bool.or_eq_true, beq_iff_eq, bne_iff_ne]
  omega

theorem sum_daysInMonth (year : Int) {month : Nat} (first : 1 ≤ month) (last : month ≤ 13) :
    ∑ m ∈ Finset.Ico 1 month, daysInMonth year m =
      if month ≤ 2 then 31 * (month - 1)
      else (if isLeap year then 60 else 59) + daysFromMarch (month - 3) := by
  simp only [daysInMonth]
  generalize isLeap year = leap
  interval_cases month <;> cases leap <;> rfl

theorem yearLength_eq (year : Nat) : yearLength year = if isLeap year then 366 else 365 := by
  rw [yearLength, sum_daysInMonth year (by decide) (by decide), if_neg (by decide)]
  split <;> rfl

theorem sum_yearLength (n : Nat) :
    ∑ y ∈ Finset.Ico 1 (n + 1), yearLength y + n / 100 = 365 * n + n / 4 + n / 400 := by
  induction n with
  | zero => rfl
  | succ n ih =>
    have century : 100 ∣ n + 1 → 4 ∣ n + 1 := Nat.dvd_trans (by decide)
    have cycle : 400 ∣ n + 1 → 100 ∣ n + 1 := Nat.dvd_trans (by decide)
    rw [Finset.sum_Ico_succ_top (Nat.le_add_left 1 n), yearLength_eq, Nat.succ_div, Nat.succ_div,
      Nat.succ_div]
    generalize n / 4 = quarters, n / 100 = centuries, n / 400 = cycles at *
    simp only [isLeap_iff]
    by_cases four : 4 ∣ n + 1
    · by_cases hundred : 100 ∣ n + 1
      · simp only [four, hundred, true_and, forall_const, if_true]
        split <;> omega
      · simp only [four, hundred, mt cycle hundred, true_and, false_implies, if_true, if_false]
        omega
    · simp only [four, mt century four, mt cycle (mt century four), false_and, if_false]
      omega

theorem marchFirst_eq (n : Nat) :
    marchFirst n = (∑ y ∈ Finset.Ico 1 (n + 1), yearLength y : Nat) - 719468 := by
  have years := sum_yearLength n
  simp only [marchFirst]
  omega

theorem ordinal_newYear (n : Nat) :
    ordinal (n + 1) 1 1 = 365 * n + n / 4 + n / 400 + 1 - n / 100 := by
  have years := sum_yearLength n
  rw [ordinal, Finset.Ico_self, Finset.sum_empty]
  omega

theorem ordinal_epoch : ordinal 1970 1 1 = 719163 := ordinal_newYear 1969

theorem days_eq_ordinal_sub {year month : Nat} (day : Nat) (positive : 1 ≤ year)
    (first : 1 ≤ month) (last : month ≤ 12) :
    days ⟨year, month, day⟩ = (ordinal year month day : Int) - ordinal 1970 1 1 := by
  obtain ⟨n, rfl⟩ : ∃ n, year = n + 1 := ⟨year - 1, by omega⟩
  have before : ((n + 1 : Nat) : Int) - 1 = n := by omega
  have years : ∑ y ∈ Finset.Ico 1 (n + 1 + 1), yearLength y =
      ∑ y ∈ Finset.Ico 1 (n + 1), yearLength y + yearLength (n + 1) :=
    Finset.sum_Ico_succ_top (Nat.le_add_left 1 n) _
  rw [ordinal_epoch, ordinal, sum_daysInMonth _ first (Nat.le_succ_of_le last)]
  simp only [days]
  by_cases early : month ≤ 2
  · rw [if_pos early, if_pos early, before, marchFirst_eq, daysFromMarch]
    omega
  · rw [if_neg early, if_neg early, marchFirst_eq, years, yearLength_eq]
    split <;> omega

structure IsReal (date : Date) : Prop where
  month : 1 ≤ date.month ∧ date.month ≤ 12
  day : 1 ≤ date.day ∧ date.day ≤ daysInMonth date.year date.month

theorem cycleDay_leap {n : Nat} (inside : n < 146097) (last : (cycleDay n).day = 365) :
    4 ∣ (cycleDay n).year + 1 ∧
      (100 ∣ (cycleDay n).year + 1 → 400 ∣ (cycleDay n).year + 1) := by
  simp only [cycleDay] at last ⊢
  have century : min (n / 36524) 3 ≤ 3 := Nat.min_le_right _ _
  have long : n - 36524 * min (n / 36524) 3 = 36524 ∨ n - 36524 * min (n / 36524) 3 < 36524 := by
    omega
  have full : n - 36524 * min (n / 36524) 3 = 36524 → min (n / 36524) 3 = 3 := by omega
  generalize min (n / 36524) 3 = c at *
  generalize n - 36524 * c = m at *
  have group : m / 1461 ≤ 24 := by omega
  have afterGroup : m - 1461 * (m / 1461) ≤ 1460 := by omega
  -- in its last group a century has a leap day only if it is the last one of the cycle
  have short : m / 1461 = 24 → m - 1461 * (m / 1461) = 1460 → m = 36524 := by omega
  generalize m / 1461 = g at *
  generalize m - 1461 * g = k at *
  obtain ⟨three, whole⟩ : min (k / 365) 3 = 3 ∧ k = 1460 := by omega
  rw [three]
  omega

theorem isLeap_of_cycleDay {n : Nat} (cycle : Int) (inside : n < 146097)
    (last : (cycleDay n).day = 365) : isLeap (400 * cycle + (cycleDay n).year + 1) = true := by
  obtain ⟨four, hundred⟩ := cycleDay_leap inside last
  simp only [isLeap, Bool.and_eq_true, Bool.or_eq_true, beq_iff_eq, bne_iff_ne]
  omega

theorem isReal_ofDays (n : Int) : (ofDays n).IsReal := by
  have inside : ((n + 719468) % 146097).toNat < 146097 := by omega
  have days := (cycleDay_spec inside).2.1
  have leap := isLeap_of_cycleDay ((n + 719468) / 146097) inside
  simp only [ofDays]
  generalize (n + 719468) / 146097 = cycle at *
  generalize cycleDay ((n + 719468) % 146097).toNat = within at *
  have month : (5 * within.day + 2) / 153 ≤ 11 := by omega
  split
  · next early =>
    refine ⟨by simp only; omega, by simp only; omega, ?_⟩
    simp only [daysInMonth, daysFromMarch]
    split_ifs <;> omega
  · next late =>
    refine ⟨by simp only; omega, by simp only; omega, ?_⟩
    simp only [daysInMonth, daysFromMarch]
    by_cases last : within.day = 365
    · simp only [leap last, if_true]
      split_ifs <;> omega
    · split_ifs <;> omega

theorem year_ofDays (n : Int) :
    400 * ((n + 719468) / 146097) ≤ (ofDays n).year ∧
      (ofDays n).year ≤ 400 * ((n + 719468) / 146097) + 400 := by
  have years := (cycleDay_spec (n := ((n + 719468) % 146097).toNat) (by omega)).1
  simp only [ofDays]
  split <;> simp only <;> omega

end StateFlow.Date
