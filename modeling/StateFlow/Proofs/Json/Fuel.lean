import StateFlow.Proofs.Json.Cursor

/-!
Fuel for the reader. It has enough for every text: more fuel changes nothing (`read_enough`), and so
blanks before a value change nothing either (`decode_blanks`).
-/
namespace StateFlow.Json

theorem length_of_readValue {fuel depth : Nat} {cs rest : List Char} {value : Json}
    (read : readValue fuel depth cs = .ok (value, rest)) : rest.length ≤ cs.length := by
  rcases Cursor.leads_value read .before 0 rfl with leads | leads <;>
    exact leads.suffix.length_le

theorem length_lt_of_skipBlanks {c : Char} {cs rest : List Char}
    (same : skipBlanks cs = c :: rest) : rest.length < cs.length := by
  have shorter := length_skipBlanks_le cs
  rw [same, List.length_cons] at shorter
  exact shorter

/-- Some fuel is enough for every text that it is meant for. A value takes one unit of fuel more
than twice its length at most, and what follows an opening bracket two more: each of its parts is
begun by another character. -/
structure Enough (fuel : Nat) : Prop where
  value {cs : List Char} (depth : Nat) (enough : 2 * cs.length + 1 ≤ fuel) :
    readValue (fuel + 1) depth cs = readValue fuel depth cs
  items {items : List Json} {cs : List Char} (depth : Nat) (enough : 2 * cs.length + 2 ≤ fuel) :
    readItems (fuel + 1) depth items cs = readItems fuel depth items cs
  members {fields : List (String × Json)} {cs : List Char} (depth : Nat)
    (enough : 2 * cs.length + 2 ≤ fuel) :
    readMembers (fuel + 1) depth fields cs = readMembers fuel depth fields cs

namespace Enough

variable {fuel : Nat} {cs : List Char}

theorem readValue_succ (holds : Enough fuel) (depth : Nat)
    (enough : 2 * cs.length + 1 ≤ fuel + 1) :
    readValue (fuel + 2) depth cs = readValue (fuel + 1) depth cs := by
  rw [readValue.eq_def, readValue.eq_def (fuel + 1)]
  dsimp only
  split
  · rfl
  · next rest same =>
    have shorter := length_lt_of_skipBlanks same
    rw [holds.items _ (by omega)]
  · next rest same =>
    have shorter := length_lt_of_skipBlanks same
    rw [holds.members _ (by omega)]
  · rfl

theorem readItems_succ (holds : Enough fuel) {items : List Json} (depth : Nat)
    (enough : 2 * cs.length + 2 ≤ fuel + 1) :
    readItems (fuel + 2) depth items cs = readItems (fuel + 1) depth items cs := by
  have blanks := length_skipBlanks_le cs
  rw [readItems.eq_def, readItems.eq_def (fuel + 1)]
  dsimp only
  split
  · rfl
  · rw [holds.value _ (by omega)]
    refine bind_congr_of_ok ?_
    rintro ⟨item, after⟩ read
    have shorter := length_of_readValue read
    dsimp only
    split
    · rfl
    · next rest same =>
      have shorter' := length_lt_of_skipBlanks same
      exact holds.items _ (by omega)
    · rfl

theorem readMembers_succ (holds : Enough fuel) {fields : List (String × Json)} (depth : Nat)
    (enough : 2 * cs.length + 2 ≤ fuel + 1) :
    readMembers (fuel + 2) depth fields cs = readMembers (fuel + 1) depth fields cs := by
  have blanks := length_skipBlanks_le cs
  rw [readMembers.eq_def, readMembers.eq_def (fuel + 1)]
  dsimp only
  split
  · rfl
  · rw [holds.value _ (by omega)]
    refine bind_congr_of_ok ?_
    rintro ⟨key, after⟩ read
    have shorter := length_of_readValue read
    dsimp only
    split
    · split
      · next rest same =>
        have shorter' := length_lt_of_skipBlanks same
        rw [holds.value _ (by omega)]
        refine bind_congr_of_ok ?_
        rintro ⟨value, after⟩ read
        have shorter := length_of_readValue read
        dsimp only
        split
        · rfl
        · next rest same =>
          have shorter' := length_lt_of_skipBlanks same
          exact holds.members _ (by omega)
        · rfl
      · rfl
    · rfl

end Enough

theorem read_enough (fuel : Nat) : Enough fuel := by
  induction fuel with
  | zero =>
    exact ⟨fun _ _ => by omega, fun _ _ => by omega, fun _ _ => by omega⟩
  | succ fuel ih => exact ⟨ih.readValue_succ, ih.readItems_succ, ih.readMembers_succ⟩

theorem readValue_of_enough {fuel more depth : Nat} {cs : List Char}
    (enough : 2 * cs.length + 1 ≤ fuel) (le : fuel ≤ more) :
    readValue more depth cs = readValue fuel depth cs := by
  induction le with
  | refl => rfl
  | @step more le ih =>
    have le : fuel ≤ more := le
    exact ((read_enough more).value depth (by omega)).trans ih

theorem readValue_blanks {blanks : List Char} (blank : ∀ c ∈ blanks, isTextBlank c = true)
    (fuel depth : Nat) (cs : List Char) :
    readValue (fuel + 1) depth (blanks ++ cs) = readValue (fuel + 1) depth cs := by
  have skipped : skipBlanks (blanks ++ cs) = skipBlanks cs :=
    List.dropWhile_append_of_pos blank
  rw [readValue, readValue, skipped]

theorem decode_blanks {blanks : List Char} (blank : ∀ c ∈ blanks, isTextBlank c = true)
    (cs : List Char) :
    decode (String.ofList (blanks ++ cs)) = decode (String.ofList cs) := by
  have enough : 2 * cs.length + 2 ≤ 2 * (blanks ++ cs).length + 2 := by
    simp only [List.length_append]
    omega
  simp only [decode, String.toList_ofList]
  rw [readValue_blanks blank, readValue_of_enough (by omega) enough]

end StateFlow.Json
