/-!
Replacement in one pass from left to right. A rule looks at a place, knowing the character before
it, and gives the new text and the number of characters that it stands for; what is written is not
looked at again.
-/
namespace StateFlow.Text

abbrev Replacement := Option Char → List Char → Option (List Char × Nat)

/-- The first characters, as many as `skip` says, belong to the last replacement. -/
def replaceFrom (rule : Replacement) : Option Char → Nat → List Char → List Char
  | _, _, [] => []
  | _, skip + 1, c :: rest => replaceFrom rule (some c) skip rest
  | before, 0, c :: rest =>
    match rule before (c :: rest) with
    | some (new, used) => new ++ replaceFrom rule (some c) (used - 1) rest
    | none => c :: replaceFrom rule (some c) 0 rest

def replace (rule : Replacement) (cs : List Char) : List Char := replaceFrom rule none 0 cs

def verbatim (old new : List Char) : Replacement := fun _ cs =>
  if old.isPrefixOf cs then some (new, old.length) else none

theorem replaceFrom_some {rule : Replacement} {before : Option Char} {c : Char}
    {rest new : List Char} {used : Nat} (found : rule before (c :: rest) = some (new, used)) :
    replaceFrom rule before 0 (c :: rest) = new ++ replaceFrom rule (some c) (used - 1) rest := by
  rw [replaceFrom, found]

theorem replaceFrom_none {rule : Replacement} {before : Option Char} {c : Char} {rest : List Char}
    (none : rule before (c :: rest) = none) :
    replaceFrom rule before 0 (c :: rest) = c :: replaceFrom rule (some c) 0 rest := by
  rw [replaceFrom, none]

theorem replaceFrom_of_none {rule : Replacement} {cs : List Char}
    (h : ∀ before tail, tail <:+ cs → rule before tail = none) (before : Option Char) :
    replaceFrom rule before 0 cs = cs := by
  induction cs generalizing before with
  | nil => rfl
  | cons c rest ih =>
    rw [replaceFrom_none (h before (c :: rest) (List.suffix_refl _)), List.cons.injEq]
    refine ⟨rfl, ?_⟩
    exact ih (fun b t ht => h b t (ht.trans (List.suffix_cons c rest))) (some c)

theorem replaceFrom_verbatim (old new : List Char) (before : Option Char) (skip : Nat)
    (cs : List Char) :
    replaceFrom (verbatim old new) before skip cs = replaceFrom (verbatim old new) none skip cs := by
  cases cs with
  | nil => cases skip <;> rfl
  | cons c rest => cases skip <;> rfl

theorem replaceFrom_skipped (old new skipped : List Char) (before : Option Char) (rest : List Char) :
    replaceFrom (verbatim old new) before skipped.length (skipped ++ rest) =
      replace (verbatim old new) rest := by
  induction skipped generalizing before with
  | nil => exact replaceFrom_verbatim old new before 0 rest
  | cons c skipped ih => exact ih (some c)

theorem replace_verbatim_append {old : List Char} (full : old ≠ []) (new rest : List Char) :
    replace (verbatim old new) (old ++ rest) = new ++ replace (verbatim old new) rest := by
  obtain ⟨c, more, rfl⟩ := List.exists_cons_of_ne_nil full
  have found : verbatim (c :: more) new none (c :: (more ++ rest)) =
      some (new, more.length + 1) := by
    simp [verbatim]
  rw [List.cons_append, replace, replaceFrom_some found, Nat.add_sub_cancel, replaceFrom_skipped]

theorem replace_verbatim_cons {old : List Char} {c : Char} {rest : List Char}
    (other : ¬ old <+: c :: rest) (new : List Char) :
    replace (verbatim old new) (c :: rest) = c :: replace (verbatim old new) rest := by
  have none : verbatim old new none (c :: rest) = none := by
    simpa [verbatim] using other
  rw [replace, replaceFrom_none none, replaceFrom_verbatim]
  rfl

theorem replace_verbatim_singleton (c : Char) (new cs : List Char) :
    replace (verbatim [c] new) cs = cs.flatMap fun d => if d = c then new else [d] := by
  induction cs with
  | nil => rfl
  | cons d rest ih =>
    rw [List.flatMap_cons, ← ih]
    by_cases same : d = c
    · rw [if_pos same, same]
      exact replace_verbatim_append (List.cons_ne_nil c []) new rest
    · rw [if_neg same]
      exact replace_verbatim_cons (by simpa using Ne.symm same) new

end StateFlow.Text
