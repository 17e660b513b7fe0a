import StateFlow.Proofs.Path.Writable
import StateFlow.Proofs.Rule.Grammar
import StateFlow.Rule.Evaluate

/-!
Rules on values that can be written. The paths of a rule that the reader accepts are texts, so that
the rule is true or false or fails with the error of a path.
-/
namespace StateFlow.Rule

variable {data context : Json}

theorem compareWith_ne_unwritable (data_ : data.isWritable = true)
    (context_ : context.isWritable = true) (subject : String) {comparator : Comparator}
    {operand : Json} (takes : Takes comparator operand) :
    compareWith subject comparator operand data context ≠ .error .unwritable := by
  have subject_ : Path.first data context (.str subject) ≠ .error .unwritable :=
    Path.first_ne_unwritable data_ context_ rfl
  unfold compareWith
  dsimp only
  split
  · split
    · nofun
    · nofun
    · next unwritten => exact absurd unwritten subject_
  · intro failed
    rcases bind_eq_error.1 failed with failed | ⟨value, -, failed⟩
    · exact subject_ failed
    · split at failed
      · next asks =>
        obtain ⟨path, rfl, -⟩ := takes.1 asks
        rcases bind_eq_error.1 failed with failed | ⟨operand, -, failed⟩
        · exact Path.first_ne_unwritable data_ context_ rfl failed
        · cases failed
      · cases failed

mutual
theorem evaluate_ne_unwritable (data_ : data.isWritable = true)
    (context_ : context.isWritable = true) :
    ∀ (rule : Rule) {top : Bool} {raw : Json}, Denotes top raw rule →
      rule.evaluate data context ≠ .error .unwritable
  | .comparison subject .., _, _, denotes => by
    cases denotes with
    | comparison _ _ _ _ _ _ takes =>
      exact compareWith_ne_unwritable data_ context_ subject takes
    | joined _ _ _ _ joins => cases joins
  | .all rules _, _, _, denotes => by
    cases denotes with
    | joined _ _ _ nested joins =>
      cases joins
      exact evaluateAll_ne_unwritable data_ context_ _ nested
  | .any rules _, _, _, denotes => by
    cases denotes with
    | joined _ _ _ nested joins =>
      cases joins
      exact evaluateAny_ne_unwritable data_ context_ _ nested
  | .not rule _, _, _, denotes => by
    cases denotes with
    | joined _ _ _ nested joins =>
      cases joins
      obtain ⟨_, _, denotes, -, -⟩ := List.forall₂_cons_right_iff.1 nested
      exact fun failed => evaluate_ne_unwritable data_ context_ rule denotes (map_eq_error.1 failed)
theorem evaluateAll_ne_unwritable (data_ : data.isWritable = true)
    (context_ : context.isWritable = true) :
    ∀ (rules : List Rule) {raws : List Json}, List.Forall₂ (Denotes false) raws rules →
      evaluateAll data context rules ≠ .error .unwritable
  | [], _, _ => nofun
  | rule :: rules, _, nested => by
    obtain ⟨_, _, denotes, more, -⟩ := List.forall₂_cons_right_iff.1 nested
    intro failed
    rcases bind_eq_error.1 failed with failed | ⟨_ | _, -, failed⟩
    · exact evaluate_ne_unwritable data_ context_ rule denotes failed
    · cases failed
    · exact evaluateAll_ne_unwritable data_ context_ rules more failed
theorem evaluateAny_ne_unwritable (data_ : data.isWritable = true)
    (context_ : context.isWritable = true) :
    ∀ (rules : List Rule) {raws : List Json}, List.Forall₂ (Denotes false) raws rules →
      evaluateAny data context rules ≠ .error .unwritable
  | [], _, _ => nofun
  | rule :: rules, _, nested => by
    obtain ⟨_, _, denotes, more, -⟩ := List.forall₂_cons_right_iff.1 nested
    intro failed
    rcases bind_eq_error.1 failed with failed | ⟨_ | _, -, failed⟩
    · exact evaluate_ne_unwritable data_ context_ rule denotes failed
    · exact evaluateAny_ne_unwritable data_ context_ rules more failed
    · cases failed
end

end StateFlow.Rule
