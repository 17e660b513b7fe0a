import StateFlow.Json.Writable
import StateFlow.Proofs.Decimal
import StateFlow.Proofs.Json.Cursor

/-!
What is read from a text can be written again: the reader refuses whole numbers with too many digits
wherever they stand. So no text holds a value that is not writable: `isVast_iff`.
-/
namespace StateFlow.Json

theorem isWritable_of_lt {n : Nat} (bound : n < Text.writableBound) (negative : Bool) :
    (Json.int (if negative then -(n : Int) else n)).isWritable = true := by
  have amount : (if negative then -(n : Int) else n).natAbs = n := by cases negative <;> simp
  rw [isWritable, Text.isWritable, amount]
  exact decide_eq_true bound

theorem isWritable_of_readWhole {negative : Bool} {digits : List Char} {value : Json}
    (row : ∀ c ∈ digits, Text.isAsciiDigit c = true)
    (read : readWhole negative digits = .ok value) : value.isWritable = true := by
  have bounded : wordBound negative < Text.writableBound := by
    cases negative <;> decide +kernel
  have power {width limit : Nat} (short : width ≤ limit) : Nat.pow 10 width ≤ Nat.pow 10 limit :=
    Nat.pow_le_pow_right (by decide) short
  unfold readWhole at read
  dsimp only at read
  split at read
  · next fits =>
    cases read
    refine isWritable_of_lt ?_ negative
    rcases fits with word | short
    · exact Nat.lt_of_le_of_lt word bounded
    · have bound := Nat.lt_of_lt_of_le (Decimal.value_lt row) (power short)
      unfold Text.writableBound
      exact bound
  · cases read

theorem isWritable_of_readNumber {negative : Bool} {start cs rest : List Char} {value : Json}
    (read : readNumber negative start cs = .ok (value, rest)) : value.isWritable = true := by
  have double {none : Prop} [Decidable none] {x y : Binary64} {start rest after : List Char}
      (same : (if none then Except.ok (Json.real x, start) else .ok (Json.real y, rest) :
        Except DecodeError (Json × List Char)) = .ok (value, after)) : value.isWritable = true := by
    split at same <;> cases same <;> rfl
  unfold readNumber at read
  dsimp only at read
  split at read
  · exact double read
  · exact double read
  · exact double read
  · obtain ⟨n, whole, same⟩ := map_eq_ok.1 read
    cases same
    exact isWritable_of_readWhole (Cursor.span_eq rfl).2 whole

theorem isWritable_of_readWord {word : String} {value found : Json} {cs rest : List Char}
    (plain : value.isWritable = true) (read : readWord word value cs = .ok (found, rest)) :
    found.isWritable = true := by
  unfold readWord at read
  split at read
  · cases read
    exact plain
  · cases read

theorem isWritable_of_readScalar {cs rest : List Char} {value : Json}
    (read : readScalar cs = .ok (value, rest)) : value.isWritable = true := by
  unfold readScalar at read
  split at read
  · exact isWritable_of_readWord rfl read
  · exact isWritable_of_readWord rfl read
  · exact isWritable_of_readWord rfl read
  · exact isWritable_of_readWord rfl read
  · exact isWritable_of_readWord rfl read
  · exact isWritable_of_readWord rfl read
  · exact isWritable_of_readNumber read
  · split at read
    · exact isWritable_of_readNumber read
    · cases read
  · cases read

theorem haveWritable_insert (key : String) {value : Json} {fields : List (String × Json)}
    (new : value.isWritable = true) (old : haveWritable fields = true) :
    haveWritable (insert key value fields) = true := by
  induction fields with
  | nil => simp [insert, haveWritable, new]
  | cons field fields ih =>
    rw [haveWritable, Bool.and_eq_true] at old
    unfold insert
    split
    · rw [haveWritable, new, old.2]
      rfl
    · rw [haveWritable, old.1, ih old.2]
      rfl

/-- What is read with some fuel, if what was read before can be written. -/
structure ReadsWritable (fuel : Nat) : Prop where
  value {depth : Nat} {cs rest : List Char} {value : Json} :
    readValue fuel depth cs = .ok (value, rest) → value.isWritable = true
  items {depth : Nat} {items : List Json} {cs rest : List Char} {value : Json} :
    readItems fuel depth items cs = .ok (value, rest) → areWritable items = true →
      value.isWritable = true
  members {depth : Nat} {fields : List (String × Json)} {cs rest : List Char} {value : Json} :
    readMembers fuel depth fields cs = .ok (value, rest) → haveWritable fields = true →
      value.isWritable = true

namespace ReadsWritable

variable {fuel depth : Nat} {cs rest : List Char} {value : Json}

theorem readValue_succ (reads : ReadsWritable fuel)
    (read : readValue (fuel + 1) depth cs = .ok (value, rest)) : value.isWritable = true := by
  rw [readValue] at read
  split at read
  · obtain ⟨⟨s, after⟩, -, same⟩ := bind_eq_ok.1 read
    cases same
    rfl
  · split at read
    · cases read
    · exact reads.items read rfl
  · split at read
    · cases read
    · exact reads.members read rfl
  · exact isWritable_of_readScalar read

theorem readItems_succ (reads : ReadsWritable fuel) {items : List Json}
    (read : readItems (fuel + 1) depth items cs = .ok (value, rest))
    (before : areWritable items = true) : value.isWritable = true := by
  rw [readItems] at read
  split at read
  · split at read
    · cases read
      rfl
    · cases read
  · obtain ⟨⟨item, after⟩, first, read⟩ := bind_eq_ok.1 read
    have all : areWritable (item :: items) = true := by
      rw [areWritable, reads.value first, before]
      rfl
    dsimp only at read
    split at read
    · cases read
      exact areWritable_iff.2 fun x mem => areWritable_iff.1 all x (List.mem_reverse.1 mem)
    · exact reads.items read all
    · cases read

theorem readMembers_succ (reads : ReadsWritable fuel) {fields : List (String × Json)}
    (read : readMembers (fuel + 1) depth fields cs = .ok (value, rest))
    (before : haveWritable fields = true) : value.isWritable = true := by
  rw [readMembers] at read
  split at read
  · split at read
    · cases read
      rfl
    · cases read
  · obtain ⟨⟨key, after⟩, -, read⟩ := bind_eq_ok.1 read
    dsimp only at read
    split at read
    · split at read
      · obtain ⟨⟨member, after⟩, second, read⟩ := bind_eq_ok.1 read
        have all (key : String) := haveWritable_insert key (reads.value second) before
        dsimp only at read
        split at read
        · cases read
          exact all _
        · exact reads.members read (all _)
        · cases read
      · cases read
    · cases read

end ReadsWritable

theorem reads_writable (fuel : Nat) : ReadsWritable fuel := by
  induction fuel with
  | zero => exact ⟨nofun, nofun, nofun⟩
  | succ fuel ih => exact ⟨ih.readValue_succ, ih.readItems_succ, ih.readMembers_succ⟩

theorem isWritable_of_decode {text : String} {value : Json} (read : decode text = .ok value) :
    value.isWritable = true := by
  obtain ⟨⟨found, rest⟩, first, read⟩ := bind_eq_ok.1 read
  dsimp only at read
  split at read
  · cases read
    exact (reads_writable _).value first
  · cases read

/-- A value that cannot be written, and that no text holds. -/
def IsVast (value : Json) : Prop :=
  value.isWritable = false ∧ ∀ text, decode text ≠ .ok value

theorem isVast_iff {value : Json} : value.IsVast ↔ value.isWritable = false := by
  refine ⟨And.left, fun vast => ⟨vast, fun text read => ?_⟩⟩
  rw [isWritable_of_decode read] at vast
  cases vast

end StateFlow.Json
