import Mathlib.Data.List.Induction
import StateFlow.Proofs.Text.Numeral

/-!
Rows of decimal digits as they are written: how long they are, and what number they write with zeros
in front. A row is read as a number below the power of ten of its length.
-/
namespace StateFlow.Decimal

theorem isAsciiDigit_digitChar {d : Nat} (h : d < 10) : Text.isAsciiDigit (digitChar d) = true := by
  have : ∀ d, d < 10 → Text.isAsciiDigit (digitChar d) = true := by decide
  exact this d h

theorem digitsOnto_eq (n : Nat) (rest : List Char) :
    ∃ ds, digitsOnto n rest = ds ++ rest ∧ ds ≠ [] ∧ ∀ c ∈ ds, Text.isAsciiDigit c = true := by
  induction n using Nat.strongRecOn generalizing rest with
  | ind n ih =>
    rw [digitsOnto]
    split
    · next small => exact ⟨[digitChar n], rfl, by simp, by simp [isAsciiDigit_digitChar small]⟩
    · next large =>
      obtain ⟨ds, same, full, digits⟩ := ih (n / 10) (by omega) (digitChar (n % 10) :: rest)
      refine ⟨ds ++ [digitChar (n % 10)], by simp [same], by simp, fun c mem => ?_⟩
      rcases List.mem_append.1 mem with mem | mem
      · exact digits c mem
      · rw [List.mem_singleton.1 mem]
        exact isAsciiDigit_digitChar (Nat.mod_lt n (by decide))

theorem digits_ne_nil (n : Nat) : digits n ≠ [] := by
  obtain ⟨ds, same, full, -⟩ := digitsOnto_eq n []
  simpa [digits, same] using full

theorem isAsciiDigit_of_mem_digits {n : Nat} {c : Char} (mem : c ∈ digits n) :
    Text.isAsciiDigit c = true := by
  obtain ⟨ds, same, -, digits⟩ := digitsOnto_eq n []
  exact digits c (by simpa [Decimal.digits, same] using mem)

theorem length_digitsOnto_le (width : Nat) {n : Nat} (bound : n < Nat.pow 10 (width + 1))
    (rest : List Char) : (digitsOnto n rest).length ≤ width + 1 + rest.length := by
  induction width generalizing n rest with
  | zero =>
    have small : n < 10 := bound
    rw [digitsOnto, if_pos small, List.length_cons]
    omega
  | succ width ih =>
    rw [digitsOnto]
    split
    · simp only [List.length_cons]
      omega
    · have shift : Nat.pow 10 (width + 1 + 1) = Nat.pow 10 (width + 1) * 10 := rfl
      have shorter : n / 10 < Nat.pow 10 (width + 1) :=
        Nat.div_lt_of_lt_mul (by rw [Nat.mul_comm, ← shift]; exact bound)
      have step := ih shorter (digitChar (n % 10) :: rest)
      simp only [List.length_cons] at step
      omega

theorem length_digits_le {n : Nat} (width : Nat) (positive : 0 < width)
    (bound : n < Nat.pow 10 width) : (digits n).length ≤ width := by
  obtain ⟨width, rfl⟩ : ∃ m, width = m + 1 := ⟨width - 1, by omega⟩
  exact length_digitsOnto_le width bound []

theorem isAsciiDigit_of_mem_padded {width n : Nat} {c : Char} (mem : c ∈ padded width n) :
    Text.isAsciiDigit c = true := by
  rcases List.mem_append.1 mem with mem | mem
  · rw [(List.mem_replicate.1 mem).2]
    decide
  · exact isAsciiDigit_of_mem_digits mem

theorem length_padded {width n : Nat} (positive : 0 < width) (bound : n < Nat.pow 10 width) :
    (padded width n).length = width := by
  have short := length_digits_le width positive bound
  simp only [padded, List.length_append, List.length_replicate]
  omega

theorem value_padded (width n : Nat) : value (padded width n) = n := by
  have zeros (k : Nat) (ds : List Char) : value (List.replicate k '0' ++ ds) = value ds := by
    induction k with
    | zero => rfl
    | succ k ih => exact ih
  rw [padded, zeros, value_digits]

theorem value_lt {ds : List Char} (digits : ∀ c ∈ ds, Text.isAsciiDigit c = true) :
    value ds < Nat.pow 10 ds.length := by
  -- on the last digit, which is the last one that the fold takes up
  induction ds using List.reverseRecOn with
  | nil => decide
  | append_singleton ds c ih =>
    have before := ih fun d mem => digits d (List.mem_append_left _ mem)
    have small : digitValue c ≤ 9 := by
      have bound := (Text.toNat_of_isAsciiDigit (digits c (by simp))).2
      have zero : '0'.toNat = 48 := rfl
      rw [digitValue, zero]
      omega
    have last : value (ds ++ [c]) = 10 * value ds + digitValue c := by
      rw [value, List.foldl_append]
      rfl
    have power : Nat.pow 10 (ds.length + 1) = Nat.pow 10 ds.length * 10 := rfl
    rw [last, List.length_append, List.length_singleton, power]
    omega

end StateFlow.Decimal
