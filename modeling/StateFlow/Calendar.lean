/-!
Days of the proleptic Gregorian calendar, counted from 1970-01-01. Years are taken to begin in
March, so that a leap day is the last of its year; `days_ofDays` says that counting the days of the
date of a day number gives that number.
-/
namespace StateFlow

structure Date where
  year : Int
  month : Nat
  day : Nat
  deriving DecidableEq

namespace Date

def isLeap (year : Int) : Bool := year % 4 == 0 && (year % 100 != 0 || year % 400 == 0)

def daysInMonth (year : Int) (month : Nat) : Nat :=
  if month = 2 then (if isLeap year then 29 else 28)
  else if month = 4 ∨ month = 6 ∨ month = 9 ∨ month = 11 then 30
  else 31

/-- The days from a first of March to the first of a month, months counted from March. -/
def daysFromMarch (month : Nat) : Nat := (153 * month + 2) / 5

def marchFirst (year : Int) : Int := 365 * year + year / 4 - year / 100 + year / 400 - 719468

def days (date : Date) : Int :=
  if date.month ≤ 2 then
    marchFirst (date.year - 1) + daysFromMarch (date.month + 9) + date.day - 1
  else marchFirst date.year + daysFromMarch (date.month - 3) + date.day - 1

/-- A day within a cycle of 400 years, as a year of the cycle and a day of that year. -/
structure CycleDay where
  year : Nat
  day : Nat

/-- Centuries have 36524 days, groups of four years 1461 and years 365; the last of each kind takes
what is left. -/
def cycleDay (n : Nat) : CycleDay :=
  let century := min (n / 36524) 3
  let n := n - 36524 * century
  let group := n / 1461
  let n := n - 1461 * group
  let year := min (n / 365) 3
  ⟨100 * century + 4 * group + year, n - 365 * year⟩

theorem cycleDay_spec {n : Nat} (h : n < 146097) :
    (cycleDay n).year < 400 ∧ (cycleDay n).day ≤ 365 ∧
      n + (cycleDay n).year / 100 =
        365 * (cycleDay n).year + (cycleDay n).year / 4 + (cycleDay n).day := by
  simp only [cycleDay]
  have century : min (n / 36524) 3 ≤ 3 := Nat.min_le_right _ _
  have afterCentury : n - 36524 * min (n / 36524) 3 ≤ 36524 := by omega
  have before : 36524 * min (n / 36524) 3 ≤ n := by omega
  generalize min (n / 36524) 3 = c at *
  generalize hm : n - 36524 * c = m at *
  have group : m / 1461 ≤ 24 := by omega
  have afterGroup : m - 1461 * (m / 1461) ≤ 1460 := by omega
  have within : 1461 * (m / 1461) ≤ m := by omega
  generalize m / 1461 = g at *
  generalize hk : m - 1461 * g = k at *
  have year : min (k / 365) 3 ≤ 3 := Nat.min_le_right _ _
  have afterYear : k - 365 * min (k / 365) 3 ≤ 365 := by omega
  have inside : 365 * min (k / 365) 3 ≤ k := by omega
  generalize min (k / 365) 3 = y at *
  have quarter : (100 * c + 4 * g + y) / 4 = 25 * c + g := by omega
  have hundredth : (100 * c + 4 * g + y) / 100 = c := by omega
  rw [quarter, hundredth]
  omega

def ofDays (n : Int) : Date :=
  let cycle := (n + 719468) / 146097
  let within := cycleDay ((n + 719468) % 146097).toNat
  let month := (5 * within.day + 2) / 153
  let day := within.day - daysFromMarch month + 1
  if month < 10 then ⟨400 * cycle + within.year, month + 3, day⟩
  else ⟨400 * cycle + within.year + 1, month - 9, day⟩

theorem marchFirst_cycle (cycle : Int) {year : Nat} (h : year < 400) :
    marchFirst (400 * cycle + year) =
      146097 * cycle + 365 * year + (year / 4 : Nat) - (year / 100 : Nat) - 719468 := by
  simp only [marchFirst]
  omega

theorem days_ofDays (n : Int) : (ofDays n).days = n := by
  have low := Int.emod_nonneg (n + 719468) (b := 146097) (by decide)
  have high := Int.emod_lt_of_pos (n + 719468) (b := 146097) (by decide)
  have whole := Int.emod_add_mul_ediv (n + 719468) 146097
  obtain ⟨yearHigh, dayHigh, sum⟩ := cycleDay_spec (n := ((n + 719468) % 146097).toNat) (by omega)
  have first := marchFirst_cycle ((n + 719468) / 146097) yearHigh
  simp only [ofDays]
  generalize (n + 719468) / 146097 = cycle at *
  generalize (n + 719468) % 146097 = rest at *
  generalize cycleDay rest.toNat = within at *
  split
  · next early =>
    have : ¬ (5 * within.day + 2) / 153 + 3 ≤ 2 := by omega
    simp only [days, this, if_false, first, daysFromMarch, Nat.add_sub_cancel]
    omega
  · next late =>
    have : (5 * within.day + 2) / 153 - 9 ≤ 2 := by omega
    simp only [days, this, if_true, Int.add_sub_cancel, first, daysFromMarch]
    omega

end Date

end StateFlow
