/-!
Copies of a text one after the other, put together by doubling.
-/
namespace StateFlow.Text

def copies (s : String) (n : Nat) : String :=
  if n = 0 then ""
  else
    let half := copies s (n / 2)
    if n % 2 = 0 then half ++ half else half ++ half ++ s
termination_by n
decreasing_by omega

theorem flatten_replicate_add {α : Type} (m n : Nat) (xs : List α) :
    (List.replicate (m + n) xs).flatten =
      (List.replicate m xs).flatten ++ (List.replicate n xs).flatten := by
  rw [← List.replicate_append_replicate, List.flatten_append]

theorem toList_copies (s : String) (n : Nat) :
    (copies s n).toList = (List.replicate n s.toList).flatten := by
  induction n using Nat.strongRecOn with
  | ind n ih =>
    rw [copies]
    split
    · simp_all
    · have half := ih (n / 2) (by omega)
      split
      · have twice : n = n / 2 + n / 2 := by omega
        conv => rhs; rw [twice, flatten_replicate_add]
        rw [String.toList_append, half]
      · have twice : n = n / 2 + n / 2 + 1 := by omega
        conv => rhs; rw [twice, flatten_replicate_add, flatten_replicate_add]
        rw [String.toList_append, String.toList_append, half]
        simp

end StateFlow.Text
