import Mathlib.Algebra.Order.Floor.Ring
import Mathlib.Data.Rat.Floor
import Mathlib.Tactic.FieldSimp
import Mathlib.Tactic.Linarith
import Mathlib.Tactic.Positivity
import Mathlib.Tactic.Ring
import StateFlow.Proofs.Calendar
import StateFlow.Proofs.Except
import StateFlow.Proofs.Timestamp.Spelling

/-!
The instant that a timestamp writes, as a rational number of seconds since 1970 with every digit of
the fraction in it. `millis_is_exact` is the result: cutting the fraction to six digits and rounding
down twice comes to rounding the instant down once.
-/
namespace StateFlow.Timestamp

def fractionOf : List Char → ℚ
  | [] => 0
  | c :: cs => (digitOf c + fractionOf cs) / 10

theorem fractionOf_nonneg (cs : List Char) : 0 ≤ fractionOf cs := by
  induction cs with
  | nil => exact le_refl 0
  | cons c cs ih =>
    rw [fractionOf]
    positivity

theorem fractionOf_lt_one (cs : List Char) : fractionOf cs < 1 := by
  induction cs with
  | nil => exact zero_lt_one
  | cons c cs ih =>
    have digit : (digitOf c : ℚ) ≤ 9 := by exact_mod_cast Nat.le_of_lt_succ (digitOf_lt c)
    rw [fractionOf, div_lt_one (by norm_num)]
    linarith

theorem fractionOf_append (cs ds : List Char) :
    fractionOf (cs ++ ds) = (number cs + fractionOf ds) / 10 ^ cs.length := by
  induction cs with
  | nil => simp [number]
  | cons c cs ih =>
    rw [List.cons_append, fractionOf, ih, number_cons, List.length_cons, pow_succ]
    push_cast
    field_simp
    ring

namespace Spelling

theorem micros_eq (s : Spelling) :
    s.timestamp.micros = number (s.fraction.take 6) * 10 ^ (6 - (s.fraction.take 6).length) := by
  rw [timestamp, fractionDigits]
  cases s.fraction with
  | nil => rfl
  | cons c cs => rfl

theorem floor_fractionOf (s : Spelling) :
    ⌊fractionOf s.fraction * 10 ^ 6⌋ = s.timestamp.micros := by
  have parts := fractionOf_append (s.fraction.take 6) (s.fraction.drop 6)
  rw [List.take_append_drop] at parts
  rw [parts, micros_eq]
  rcases Nat.lt_or_ge s.fraction.length 6 with short | long
  · rw [List.drop_eq_nil_of_le short.le, List.take_of_length_le short.le]
    have whole : (number s.fraction + fractionOf []) / 10 ^ s.fraction.length * 10 ^ 6 =
        ((number s.fraction * 10 ^ (6 - s.fraction.length) : ℕ) : ℚ) := by
      rw [← pow_mul_pow_sub (10 : ℚ) short.le, fractionOf]
      push_cast
      field_simp
      ring
    rw [whole, Int.floor_natCast]
  · have six : (s.fraction.take 6).length = 6 := List.length_take_of_le long
    rw [six, div_mul_cancel₀ _ (by norm_num), Int.floor_natCast_add,
      Int.floor_eq_zero_iff.2 ⟨fractionOf_nonneg _, fractionOf_lt_one _⟩]
    simp

/-- Seconds since the beginning of 1970 in universal time. -/
def instant (s : Spelling) : ℚ :=
  86400 * ((Date.ordinal (number s.year) (number s.month) (number s.day) : ℚ) -
      Date.ordinal 1970 1 1) +
    (3600 * number s.hour + 60 * number s.minute + number s.second) - 60 * s.zone.minutes +
    fractionOf s.fraction

def wholeSeconds (s : Spelling) : ℤ :=
  86400 * s.timestamp.date.days + s.timestamp.secondOfDay - 60 * s.timestamp.offsetMinutes

theorem instant_eq {s : Spelling} (real : s.IsReal) :
    s.instant = s.wholeSeconds + fractionOf s.fraction := by
  have days := Date.days_eq_ordinal_sub (number s.day) real.year.1 real.month.1 real.month.2
  have whole : s.wholeSeconds =
      86400 * ((Date.ordinal (number s.year) (number s.month) (number s.day) : ℤ) -
        Date.ordinal 1970 1 1) +
      ((3600 * number s.hour + 60 * number s.minute + number s.second : ℕ) : ℤ) -
      60 * s.zone.minutes := by
    rw [← days]
    rfl
  rw [whole, instant]
  push_cast
  ring

theorem epochMillis_eq {s : Spelling} (real : s.IsReal) :
    s.timestamp.epochMillis = ⌊1000 * s.instant⌋ := by
  have micros : s.timestamp.epochMicros = ⌊s.instant * 10 ^ 6⌋ := by
    have shifted : s.instant * 10 ^ 6 =
        ((s.wholeSeconds * 1000000 : ℤ) : ℚ) + fractionOf s.fraction * 10 ^ 6 := by
      rw [instant_eq real]
      push_cast
      ring
    rw [shifted, Int.floor_intCast_add, floor_fractionOf]
    rfl
  have scaled : 1000 * s.instant = s.instant * 10 ^ 6 / (1000 : ℕ) := by
    push_cast
    ring
  rw [epochMillis, micros, scaled, Int.floor_div_natCast]
  rfl

end Spelling

/-- A date and a time of day that exist stand in the text, at this instant. -/
def WritesInstant (text : String) (q : ℚ) : Prop := ∃ s, Writes text s ∧ s.IsReal ∧ s.instant = q

theorem WritesInstant.unique {text : String} {q r : ℚ} (first : WritesInstant text q)
    (second : WritesInstant text r) : q = r := by
  obtain ⟨s, writes, -, rfl⟩ := first
  obtain ⟨t, writes', -, rfl⟩ := second
  rw [writes.unique writes']

theorem writesInstant_of_accepted {text : String} (accepted : isTimestamp (.str text) = true) :
    ∃ q, WritesInstant text q ∧ millis (.str text) = .ok ⌊1000 * q⌋ := by
  obtain ⟨s, writes, sound⟩ := isTimestamp_iff.1 accepted
  have real := sound.isReal writes.shaped
  refine ⟨s.instant, ⟨s, writes, real, rfl⟩, ?_⟩
  rw [millis, parse_eq_ok_iff.2 ⟨s, writes, sound, rfl⟩, ← Spelling.epochMillis_eq real]
  rfl

theorem isTimestamp_of_millis {text : String} {m : ℤ} (read : millis (.str text) = .ok m) :
    isTimestamp (.str text) = true := by
  obtain ⟨t, parsed, -⟩ := map_eq_ok.1 read
  rw [isTimestamp, parsed]
  rfl

/-- A text that is accepted is at one instant, and its milliseconds are those of the instant,
rounded down; so they do not depend on how the instant is written, and follow the order of the
instants. -/
theorem millis_is_exact {text : String} (accepted : isTimestamp (.str text) = true) :
    ∃ q, WritesInstant text q ∧ (∀ r, WritesInstant text r → r = q) ∧
      millis (.str text) = .ok ⌊1000 * q⌋ ∧
      ∀ other r m, WritesInstant other r → millis (.str other) = .ok m →
        (r = q → m = ⌊1000 * q⌋) ∧ (r ≤ q → m ≤ ⌊1000 * q⌋) ∧ (q ≤ r → ⌊1000 * q⌋ ≤ m) := by
  obtain ⟨q, writes, exact⟩ := writesInstant_of_accepted accepted
  refine ⟨q, writes, fun r writes' => writes'.unique writes, exact, ?_⟩
  intro other r m written read
  obtain ⟨r', written', exact'⟩ := writesInstant_of_accepted (isTimestamp_of_millis read)
  obtain rfl := written.unique written'
  obtain rfl : m = ⌊1000 * r⌋ := Except.ok.inj (read.symm.trans exact')
  exact ⟨fun same => same ▸ rfl, fun earlier => Int.floor_mono (by linarith),
    fun later => Int.floor_mono (by linarith)⟩

theorem millis_is_exact_before_epoch :
    isTimestamp (.str "1969-12-31T23:59:59.99999999+05:30") = true ∧
      millis (.str "1969-12-31T23:59:59.99999999+05:30") = .ok (-19800001) ∧
      ∃ q, WritesInstant "1969-12-31T23:59:59.99999999+05:30" q ∧ ⌊1000 * q⌋ = -19800001 := by
  have accepted : isTimestamp (.str "1969-12-31T23:59:59.99999999+05:30") = true := by decide
  have read : millis (.str "1969-12-31T23:59:59.99999999+05:30") = .ok (-19800001) := by rfl
  obtain ⟨q, writes, -, exact, -⟩ := millis_is_exact accepted
  exact ⟨accepted, read, q, writes, Except.ok.inj (exact.symm.trans read)⟩

end StateFlow.Timestamp
