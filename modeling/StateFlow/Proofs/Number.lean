import StateFlow.Number
import StateFlow.Proofs.Binary64.Rounding

/-!
Numbers of both kinds as rationals. Finite numbers compare as the rationals that they denote; the
infinities and what is no number denote none.
-/
namespace StateFlow.Number

def toRat? : Number → Option ℚ
  | .int n => some n
  | .real x => x.toRat?

theorem exists_place {x : Number} {q : ℚ} (value : x.toRat? = some q) :
    ∃ num shift, x.place? = some (.ratio num shift) ∧ (num : ℚ) / 2 ^ shift = q := by
  cases x with
  | int n =>
    cases value
    exact ⟨n, 0, rfl, by simp⟩
  | real x =>
    cases x with
    | finite negative m e =>
      cases value
      have sign : ((if negative then -(m : Int) else m : Int) : ℚ) * 2 ^ e =
          if negative then -Binary64.magnitude m e else Binary64.magnitude m e := by
        cases negative <;> simp [Binary64.magnitude]
      rw [← sign]
      rcases lt_or_ge e 0 with below | above
      · refine ⟨_, _, by rw [place?, if_pos below], ?_⟩
        rw [Binary64.two_zpow_of_neg below, div_eq_mul_inv]
      · refine ⟨_, _, by rw [place?, if_neg above.not_gt], ?_⟩
        rw [Binary64.two_zpow_of_nonneg above, Int.shiftLeft_eq]
        push_cast
        simp
    | infinite negative => cases value
    | nan => cases value

theorem compare_shiftLeft (a b : Int) (k l : Nat) :
    compare (a <<< l) (b <<< k) = compare ((a : ℚ) / 2 ^ k) (b / 2 ^ l) := by
  rw [Int.shiftLeft_eq, Int.shiftLeft_eq]
  rcases lt_trichotomy ((a : ℚ) / 2 ^ k) (b / 2 ^ l) with less | same | greater
  · rw [compare_lt_iff_lt.2 less, compare_lt_iff_lt]
    rw [div_lt_div_iff₀ (by positivity) (by positivity)] at less
    exact_mod_cast less
  · rw [compare_eq_iff_eq.2 same, compare_eq_iff_eq]
    rw [div_eq_div_iff (by positivity) (by positivity)] at same
    exact_mod_cast same
  · rw [compare_gt_iff_gt.2 greater, compare_gt_iff_gt]
    rw [div_lt_div_iff₀ (by positivity) (by positivity)] at greater
    exact_mod_cast greater

theorem compare?_of_toRat {x y : Number} {p q : ℚ} (first : x.toRat? = some p)
    (second : y.toRat? = some q) : x.compare? y = some (compare p q) := by
  obtain ⟨a, k, place, rfl⟩ := exists_place first
  obtain ⟨b, l, other, rfl⟩ := exists_place second
  simp [compare?, place, other, Place.compare, compare_shiftLeft]

theorem isNegative_of_toRat {x : Number} {q : ℚ} (value : x.toRat? = some q) :
    x.isNegative = decide (q < 0) := by
  have zero : (Number.int 0).toRat? = some 0 := by simp [toRat?]
  rw [isNegative, compare?_of_toRat value zero]
  rcases lt_trichotomy q 0 with less | rfl | greater
  · simp [compare_lt_iff_lt.2 less, less]
  · simp
  · simp [compare_gt_iff_gt.2 greater, greater.le]

end StateFlow.Number
