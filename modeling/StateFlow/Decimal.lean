/-!
Whole numbers in decimal digits. `value_digits` says that the digits written for a number read back
as that number.
-/
namespace StateFlow.Decimal

def digitChar (d : Nat) : Char := Char.ofNat ('0'.toNat + d)

def digitsOnto (n : Nat) (rest : List Char) : List Char :=
  if n < 10 then digitChar n :: rest
  else digitsOnto (n / 10) (digitChar (n % 10) :: rest)
termination_by n

def digits (n : Nat) : List Char := digitsOnto n []

def ofInt (n : Int) : List Char :=
  if n < 0 then '-' :: digits n.natAbs else digits n.natAbs

def padded (width n : Nat) : List Char :=
  let ds := digits n
  List.replicate (width - ds.length) '0' ++ ds

def digitValue (c : Char) : Nat := c.toNat - '0'.toNat

def value (ds : List Char) : Nat := ds.foldl (fun v c => 10 * v + digitValue c) 0

theorem digitValue_digitChar {d : Nat} (h : d < 10) : digitValue (digitChar d) = d := by
  have : ∀ d, d < 10 → digitValue (digitChar d) = d := by decide
  exact this d h

theorem foldl_digitsOnto (n v : Nat) (rest : List Char) :
    ∃ k, (digitsOnto n rest).foldl (fun v c => 10 * v + digitValue c) v =
      rest.foldl (fun v c => 10 * v + digitValue c) (v * Nat.pow 10 k + n) := by
  induction n using Nat.strongRecOn generalizing v rest with
  | ind n ih =>
    rw [digitsOnto]
    split
    · next h =>
      refine ⟨1, ?_⟩
      simp [digitValue_digitChar h, Nat.mul_comm]
    · next h =>
      obtain ⟨k, hk⟩ := ih (n / 10) (by omega) v (digitChar (n % 10) :: rest)
      refine ⟨k + 1, ?_⟩
      rw [hk, List.foldl_cons, digitValue_digitChar (Nat.mod_lt _ (by decide))]
      congr 1
      have shift : Nat.pow 10 (k + 1) = Nat.pow 10 k * 10 := rfl
      rw [shift, ← Nat.mul_assoc]
      omega

theorem value_digits (n : Nat) : value (digits n) = n := by
  obtain ⟨k, hk⟩ := foldl_digitsOnto n 0 []
  simpa [value, digits] using hk

end StateFlow.Decimal
