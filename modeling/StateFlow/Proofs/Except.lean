import Mathlib.Tactic.SplitIfs

/-!
Computations that may fail, taken apart: what a chain of them did if it came to a value, and where
it failed if it did not.
-/
namespace StateFlow

theorem bind_eq_ok {ε α β : Type} {x : Except ε α} {f : α → Except ε β} {b : β} :
    (x >>= f) = .ok b ↔ ∃ a, x = .ok a ∧ f a = .ok b := by
  cases x <;> simp [bind, Except.bind]

theorem bind_eq_error {ε α β : Type} {x : Except ε α} {f : α → Except ε β} {e : ε} :
    (x >>= f) = .error e ↔ x = .error e ∨ ∃ a, x = .ok a ∧ f a = .error e := by
  cases x <;> simp [bind, Except.bind]

theorem bind_congr_of_ok {ε α β : Type} {x : Except ε α} {f g : α → Except ε β}
    (same : ∀ a, x = .ok a → f a = g a) : (x >>= f) = (x >>= g) := by
  cases x with
  | error e => rfl
  | ok a => exact same a rfl

theorem map_eq_ok {ε α β : Type} {x : Except ε α} {f : α → β} {b : β} :
    x.map f = .ok b ↔ ∃ a, x = .ok a ∧ f a = b := by
  cases x <;> simp [Except.map]

theorem map_eq_error {ε α β : Type} {x : Except ε α} {f : α → β} {e : ε} :
    x.map f = .error e ↔ x = .error e := by
  cases x <;> simp [Except.map]

theorem mapError_eq_ok {ε ε' α : Type} {x : Except ε α} {f : ε → ε'} {a : α} :
    x.mapError f = .ok a ↔ x = .ok a := by
  cases x <;> simp [Except.mapError]

theorem mapError_eq_error {ε ε' α : Type} {x : Except ε α} {f : ε → ε'} {e : ε'} :
    x.mapError f = .error e ↔ ∃ cause, x = .error cause ∧ f cause = e := by
  cases x <;> simp [Except.mapError]

/-- A traversal fails on the first item that fails, after those that pass. -/
theorem traversal_fails_iff {α : Type} {passes fails : α → Prop} (traversal : List α → Prop)
    {items : List α} (nil : ¬ traversal [])
    (cons : ∀ x rest, traversal (x :: rest) ↔ passes x ∧ traversal rest ∨ fails x) :
    traversal items ↔ ∃ before x after, items = before ++ x :: after ∧
      (∀ y ∈ before, passes y) ∧ fails x := by
  induction items with
  | nil => simp [nil]
  | cons first rest ih =>
    rw [cons, ih]
    constructor
    · rintro (⟨passed, before, x, after, rfl, earlier, failed⟩ | failed)
      · exact ⟨first :: before, x, after, rfl, List.forall_mem_cons.2 ⟨passed, earlier⟩, failed⟩
      · exact ⟨[], first, rest, rfl, nofun, failed⟩
    · rintro ⟨before, x, after, same, earlier, failed⟩
      cases before with
      | nil =>
        cases same
        exact .inr failed
      | cons y before =>
        cases same
        have passed := List.forall_mem_cons.1 earlier
        exact .inl ⟨passed.1, before, x, after, rfl, passed.2, failed⟩

end StateFlow
