/-!
Arithmetic progressions: the whole numbers from a start on by a step, upwards or downwards, as long
as they do not reach a stop. A step of zero has none.
-/
namespace StateFlow.Path

/-- The numbers from `start` on by `step` before `stop`. -/
def progression (start stop step : Int) : List Int :=
  let count := if 0 < step then (stop - start + step - 1) / step
    else (start - stop - step - 1) / -step
  (List.range count.toNat).map fun (i : Nat) => start + i * step

theorem length_progression_of_pos {start stop step : Int} (h : 0 < step) :
    (progression start stop step).length = ((stop - start + step - 1) / step).toNat := by
  simp [progression, h]

theorem lt_of_mem_progression {start stop step x : Int} (h : 0 < step)
    (mem : x ∈ progression start stop step) : x < stop := by
  simp only [progression, h, if_true, List.mem_map, List.mem_range] at mem
  obtain ⟨i, bound, rfl⟩ := mem
  have count : (i : Int) + 1 ≤ (stop - start + step - 1) / step := by omega
  have := (Int.le_ediv_iff_mul_le h).1 count
  grind

end StateFlow.Path
