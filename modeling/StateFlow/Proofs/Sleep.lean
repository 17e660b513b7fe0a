import StateFlow.Execution.Wait
import StateFlow.Proofs.Number

/-!
Seconds that a clock counts. A whole number of them is counted exactly, a double by the double nearest
to its nanoseconds; `Number.IsTooLong` tells by exact values which are too long, and
`Number.sleepable_of_not_isTooLong` that all others are counted. The seconds until an instant take a
division that rounds, which moves none of them across the limit: `Number.isTooLong_ofMillis_iff`.
-/
namespace StateFlow.Number

/-- Seconds that no clock counts. The nanoseconds of a double are rounded, to the limit if they are
at most half a unit below it. -/
inductive IsTooLong : Number → Prop
  | whole {n : Int} (long : nanosLimit ≤ 10 ^ 9 * n) : IsTooLong (.int n)
  | double {x : Binary64} {q : ℚ} (value : x.toRat? = some q)
    (long : 2 ^ 63 - 2 ^ 9 ≤ 10 ^ 9 * q) : IsTooLong (.real x)
  | infinite : IsTooLong (.real (.infinite false))

def sleepError : Number → SleepError
  | .int _ => .tooLarge
  | .real _ => .outOfRange

theorem isCounted_of_toRat {nanos : Number} {q : ℚ} (value : nanos.toRat? = some q) :
    nanos.isCounted = true ↔ q < 2 ^ 63 := by
  have limit : (Number.int nanosLimit).toRat? = some (2 ^ 63) := by norm_num [toRat?, nanosLimit]
  rw [isCounted, compare?_of_toRat value limit, beq_iff_eq, Option.some.injEq, compare_lt_iff_lt]

theorem isCounted_ofRatio {num den : Nat} (nonzero : num ≠ 0) (positive : 0 < den) :
    isCounted (.real (.ofRatio false num den)) = true ↔
      ¬ (2 ^ 63 - 2 ^ 9 : ℚ) ≤ (num : ℚ) / den := by
  have half : (2 ^ 63 - 2 ^ 9 : ℚ) = (2 ^ 53 - 1 / 2) * 2 ^ (10 : Int) := by norm_num
  have limit : Binary64.magnitude (2 ^ 53) 10 = 2 ^ 63 := by norm_num [Binary64.magnitude]
  have counted {m : Nat} {e : Int} :
      isCounted (.real (.finite false m e)) = true ↔ Binary64.magnitude m e < 2 ^ 63 :=
    isCounted_of_toRat rfl
  rw [half]
  rcases lt_or_ge ((num : ℚ) / den) ((2 ^ 53 - 1 / 2) * 2 ^ (10 : Int)) with short | near
  · obtain ⟨m, e, rounded, less⟩ :=
      Binary64.ofRatio_lt nonzero positive (by decide) (by decide) short
    rw [rounded, counted, ← limit]
    exact iff_of_true less short.not_ge
  · refine iff_of_false ?_ (not_not.2 near)
    rcases Binary64.le_ofRatio_of_near nonzero positive (by decide) near with
      infinite | ⟨m, e, rounded, reaches⟩
    · rw [infinite]
      exact Bool.false_ne_true
    · rw [rounded, counted, ← limit]
      exact reaches.not_gt

theorem isCounted_billionfold {m : Nat} {e : Int} (above : 0 < Binary64.magnitude m e) :
    isCounted (.real ((Binary64.finite false m e).mul (.ofNat 1000000000))) = true ↔
      ¬ 2 ^ 63 - 2 ^ 9 ≤ 10 ^ 9 * Binary64.magnitude m e := by
  obtain ⟨num, den, positive, product, same⟩ :=
    Binary64.exists_mul m (1000000000 * 2 ^ 23) e (-23)
  rw [Binary64.magnitude_billion] at product
  have nonzero : num ≠ 0 := by
    rintro rfl
    rw [Nat.cast_zero, zero_div] at product
    linarith
  rw [Binary64.ofNat_billion, same, isCounted_ofRatio nonzero positive, product, mul_comm]

theorem compare?_zero_iff {seconds : Number} {q : ℚ} (value : seconds.toRat? = some q) :
    seconds.compare? (.int 0) = some .gt ↔ 0 < q := by
  have zero : (Number.int 0).toRat? = some 0 := by simp [toRat?]
  rw [compare?_of_toRat value zero, Option.some.injEq, compare_gt_iff_gt]

theorem sleepable_of_nonpos {seconds : Number} {q : ℚ} (value : seconds.toRat? = some q)
    (past : q ≤ 0) : seconds.sleepable = .ok () :=
  if_pos ((compare?_zero_iff value).not.2 past.not_gt)

theorem sleepable_int_of_pos {n : Int} (above : 0 < n) :
    (Number.int n).sleepable = if nanosLimit ≤ 10 ^ 9 * n then .error .tooLarge else .ok () := by
  have value : (Number.int n).toRat? = some (n : ℚ) := rfl
  have looked := not_not.2 ((compare?_zero_iff value).2 (by exact_mod_cast above))
  have nanos : (Number.int (1000000000 * n)).toRat? = some (1000000000 * n : ℚ) := by simp [toRat?]
  have counted : isCounted (.int (1000000000 * n)) = true ↔ ¬ nanosLimit ≤ 10 ^ 9 * n := by
    rw [isCounted_of_toRat nanos, not_le, nanosLimit]
    norm_cast
  rw [← ite_not, ← if_congr counted rfl rfl]
  exact if_neg looked

theorem sleepable_finite_of_pos {m : Nat} {e : Int} (above : 0 < Binary64.magnitude m e) :
    (Number.real (.finite false m e)).sleepable =
      if 2 ^ 63 - 2 ^ 9 ≤ 10 ^ 9 * Binary64.magnitude m e then .error .outOfRange else .ok () := by
  have value : (Number.real (.finite false m e)).toRat? = some (Binary64.magnitude m e) := rfl
  have looked := not_not.2 ((compare?_zero_iff value).2 above)
  rw [← ite_not, ← if_congr (isCounted_billionfold above) rfl rfl]
  exact if_neg looked

theorem toRat?_nonpos_of_negative {m : Nat} {e : Int} {q : ℚ}
    (value : (Binary64.finite true m e).toRat? = some q) : q ≤ 0 := by
  obtain rfl : -Binary64.magnitude m e = q := Option.some.inj value
  exact neg_nonpos.2 (Binary64.magnitude_nonneg m e)

theorem IsTooLong.sleepable {seconds : Number} (long : seconds.IsTooLong) :
    seconds.sleepable = .error seconds.sleepError := by
  cases long with
  | whole long =>
    rw [sleepable_int_of_pos (by unfold nanosLimit at long; omega), if_pos long]
    rfl
  | @double x q value long =>
    have above : 0 < q := by linarith
    cases x with
    | finite negative m e =>
      cases negative with
      | true => exact absurd (toRat?_nonpos_of_negative value) above.not_ge
      | false =>
        obtain rfl : Binary64.magnitude m e = q := Option.some.inj value
        rw [sleepable_finite_of_pos above, if_pos long]
        rfl
    | infinite negative => cases value
    | nan => cases value
  | infinite => rfl

theorem sleepable_of_not_isTooLong {seconds : Number} (short : ¬ seconds.IsTooLong) :
    seconds.sleepable = .ok () := by
  cases seconds with
  | int n =>
    rcases lt_or_ge 0 n with above | past
    · rw [sleepable_int_of_pos above, if_neg (short ∘ .whole)]
    · exact sleepable_of_nonpos (q := (n : ℚ)) rfl (by exact_mod_cast past)
  | real x =>
    cases x with
    | finite negative m e =>
      cases negative with
      | true => exact sleepable_of_nonpos rfl (toRat?_nonpos_of_negative rfl)
      | false =>
        rcases lt_or_ge 0 (Binary64.magnitude m e) with above | past
        · have value : (Binary64.finite false m e).toRat? = some (Binary64.magnitude m e) := rfl
          rw [sleepable_finite_of_pos above, if_neg fun long => short (.double value long)]
        · exact sleepable_of_nonpos (q := Binary64.magnitude m e) rfl past
    | infinite negative =>
      cases negative with
      | true => rfl
      | false => exact absurd .infinite short
    | nan => rfl

theorem IsTooLong.isNegative {seconds : Number} (long : seconds.IsTooLong) :
    seconds.isNegative = false := by
  cases long with
  | @whole n long =>
    have above : ¬ (n : ℚ) < 0 := by
      unfold nanosLimit at long
      exact_mod_cast (by omega : ¬ n < 0)
    rw [isNegative_of_toRat (q := (n : ℚ)) rfl, decide_eq_false above]
  | @double x q value long =>
    rw [isNegative_of_toRat (x := .real x) value, decide_eq_false (by linarith)]
  | infinite => rfl

/-- Seconds that a clock counts, and the time that they take: a NaN takes none. -/
inductive IsCounted : Number → ℚ → Prop
  | finite {seconds : Number} {amount : ℚ} (value : seconds.toRat? = some amount)
    (nonneg : 0 ≤ amount) (short : ¬ seconds.IsTooLong) : IsCounted seconds amount
  | notANumber : IsCounted (.real .nan) 0

theorem IsCounted.not_isTooLong {seconds : Number} {amount : ℚ}
    (counts : seconds.IsCounted amount) : ¬ seconds.IsTooLong := by
  cases counts with
  | finite _ _ short => exact short
  | notANumber =>
    rintro ⟨⟩
    contradiction

theorem IsCounted.sleepable {seconds : Number} {amount : ℚ} (counts : seconds.IsCounted amount) :
    seconds.sleepable = .ok () :=
  sleepable_of_not_isTooLong counts.not_isTooLong

theorem lt_pow_of_lt {n few digits : Nat} (le : few ≤ digits) (small : n < Nat.pow 10 few) :
    n < Nat.pow 10 digits :=
  Nat.lt_of_lt_of_le small (Nat.pow_le_pow_right (by decide) le)

theorem IsCounted.isWritable {seconds : Number} {amount : ℚ} (counts : seconds.IsCounted amount) :
    seconds.toJson.isWritable = true := by
  cases seconds with
  | real x => rfl
  | int n =>
    cases counts with
    | @finite _ amount value nonneg short =>
      obtain rfl : (n : ℚ) = amount := Option.some.inj value
      have nonneg : 0 ≤ n := by exact_mod_cast nonneg
      have counted : ¬ nanosLimit ≤ 10 ^ 9 * n := fun long => short (.whole long)
      have small : n.natAbs < Nat.pow 10 19 := by
        unfold nanosLimit at counted
        norm_num
        omega
      change Text.isWritable n = true
      rw [Text.isWritable, decide_eq_true_eq]
      unfold Text.writableBound
      exact lt_pow_of_lt (by decide) small

theorem isTooLong_or_isCounted {seconds : Number} (nonneg : seconds.isNegative = false) :
    seconds.IsTooLong ∨ ∃ amount, seconds.IsCounted amount := by
  refine or_iff_not_imp_left.2 fun short => ?_
  cases value : seconds.toRat? with
  | some q =>
    rw [isNegative_of_toRat value, decide_eq_false_iff_not, not_lt] at nonneg
    exact ⟨q, .finite value nonneg short⟩
  | none =>
    cases seconds with
    | int n => cases value
    | real x =>
      cases x with
      | finite sign m e => cases value
      | infinite sign =>
        cases sign with
        | false => exact absurd .infinite short
        | true => cases nonneg
      | nan => exact ⟨0, .notANumber⟩

def ofMillis (millis : Int) : Number :=
  .real (((Binary64.ofInt? (max 0 millis)).getD (.infinite false)).div (.ofNat 1000))

def farMillis : Int := 9223372036855

theorem exists_seconds (m : Nat) (e : Int) :
    ∃ num den : Nat, 0 < den ∧ (num : ℚ) / den = Binary64.magnitude m e / 1000 ∧
      (Binary64.finite false m e).div (.ofNat 1000) = .ofRatio false num den := by
  rw [Binary64.ofNat_thousand, ← Binary64.magnitude_thousand]
  exact Binary64.exists_div m (1000 * 2 ^ 43) e (-43) (by decide)

theorem ofMillis_of_finite {millis : Int} {m : Nat} {e : Int}
    (read : Binary64.ofRatio false (max 0 millis).toNat 1 = .finite false m e) :
    ofMillis millis = .real ((Binary64.finite false m e).div (.ofNat 1000)) := by
  have natural : max 0 millis = ((max 0 millis).toNat : Int) := by omega
  rw [ofMillis, natural, Binary64.ofInt?_natCast, read]
  rfl

theorem ofMillis_of_infinite {millis : Int}
    (read : Binary64.ofRatio false (max 0 millis).toNat 1 = .infinite false) :
    ofMillis millis = .real (.infinite false) := by
  have natural : max 0 millis = ((max 0 millis).toNat : Int) := by omega
  rw [ofMillis, natural, Binary64.ofInt?_natCast, read]
  rfl

/-- Neither the reading of the milliseconds nor the division rounds up to the limit: there is a
double between it and the quotient. -/
theorem isCounted_ofMillis {millis : Int} (near : millis < farMillis) :
    ∃ amount, (ofMillis millis).IsCounted amount := by
  unfold farMillis at near
  have whole : (((max 0 millis).toNat : ℚ) / (1 : Nat)) ≤
      Binary64.magnitude (max 0 millis).toNat 0 := by simp [Binary64.magnitude]
  obtain ⟨m, e, read, above⟩ :=
    Binary64.ofRatio_le Nat.one_pos (by omega) (by decide) (by decide) whole
  obtain ⟨num, den, positive, quotient, division⟩ := exists_seconds m e
  have limit : (num : ℚ) / den ≤ Binary64.magnitude 4835703278458516 (-19) := by
    have bound : ((max 0 millis).toNat : ℚ) ≤ 9223372036854 := by
      exact_mod_cast (by omega : (max 0 millis).toNat ≤ 9223372036854)
    rw [quotient]
    norm_num [Binary64.magnitude] at above ⊢
    linarith
  obtain ⟨n, f, rounded, below⟩ :=
    Binary64.ofRatio_le positive (by decide) (by decide) (by decide) limit
  rw [ofMillis_of_finite read, division, rounded]
  refine ⟨Binary64.magnitude n f, .finite rfl (Binary64.magnitude_nonneg n f) ?_⟩
  rintro (_ | ⟨value, long⟩)
  obtain rfl := Option.some.inj value
  norm_num [Binary64.magnitude] at below long
  linarith

theorem isTooLong_ofMillis {millis : Int} (far : farMillis ≤ millis) :
    (ofMillis millis).IsTooLong := by
  unfold farMillis at far
  have whole : Binary64.magnitude 9223372036855 0 ≤ ((max 0 millis).toNat : ℚ) / (1 : Nat) := by
    have bound : (9223372036855 : ℚ) ≤ (max 0 millis).toNat := by
      exact_mod_cast (by omega : 9223372036855 ≤ (max 0 millis).toNat)
    simpa [Binary64.magnitude] using bound
  rcases Binary64.le_ofRatio (by omega) Nat.one_pos (by decide) (by decide) whole with
    infinite | ⟨m, e, read, below⟩
  · rw [ofMillis_of_infinite infinite]
    exact .infinite
  obtain ⟨num, den, positive, quotient, division⟩ := exists_seconds m e
  have limit : Binary64.magnitude 4835703278458517 (-19) ≤ (num : ℚ) / den := by
    rw [quotient]
    norm_num [Binary64.magnitude] at below ⊢
    linarith
  have nonzero : num ≠ 0 := by
    rintro rfl
    norm_num [Binary64.magnitude] at limit
  rw [ofMillis_of_finite read, division]
  rcases Binary64.le_ofRatio nonzero positive (by decide) (by decide) limit with
    infinite | ⟨n, f, rounded, less⟩
  · rw [infinite]
    exact .infinite
  · rw [rounded]
    refine .double rfl ?_
    norm_num [Binary64.magnitude] at less ⊢
    linarith

theorem isTooLong_ofMillis_iff {millis : Int} :
    (ofMillis millis).IsTooLong ↔ farMillis ≤ millis := by
  refine ⟨fun long => ?_, isTooLong_ofMillis⟩
  by_contra near
  obtain ⟨amount, counts⟩ := isCounted_ofMillis (Int.not_le.1 near)
  exact counts.not_isTooLong long

end StateFlow.Number
