import StateFlow.Path
import StateFlow.Proofs.Except

/-!
Paths on values that can be written. Whatever fails there is told as the error of a path.
-/
namespace StateFlow

theorem PathError.reported_ne_unwritable {error : PathError} (writable : error.isWritable = true) :
    error.reported ≠ .unwritable :=
  fun same => by simp [Reported.report_eq_unwritable.1 same] at writable

namespace Path

section writable

variable {data context path : Json} (data_ : data.isWritable = true)
  (context_ : context.isWritable = true) (path_ : path.isWritable = true)

include data_ path_

theorem select_ne_unwritable : select data path ≠ .error .unwritable := by
  intro failed
  unfold select at failed
  split at failed
  · have told : (PathError.notPath path).isWritable := path_
    exact PathError.reported_ne_unwritable told (Except.error.inj failed)
  · next text _ =>
    have told (cause : Option QueryError) : (PathError.invalid text data cause).isWritable := data_
    split at failed
    · cases failed
    · exact PathError.reported_ne_unwritable (told none) (Except.error.inj failed)
    · next cause _ =>
      exact PathError.reported_ne_unwritable (told (some cause)) (Except.error.inj failed)

theorem values_ne_unwritable : values data path ≠ .error .unwritable :=
  fun failed => select_ne_unwritable data_ path_ (map_eq_error.1 failed)

omit data_ path_ in
include context_ in
theorem isWritable_contextRoot : (contextRoot context).isWritable = true := by
  unfold contextRoot
  split
  · rfl
  · exact context_

include context_

theorem isWritable_rooted :
    (rooted data (contextRoot context) path).1.isWritable = true ∧
      (rooted data (contextRoot context) path).2.isWritable = true := by
  unfold rooted
  split
  · split
    · exact ⟨isWritable_contextRoot context_, rfl⟩
    · exact ⟨data_, path_⟩
  · exact ⟨data_, path_⟩

theorem first_ne_unwritable : first data context path ≠ .error .unwritable := by
  obtain ⟨root_, rest_⟩ := isWritable_rooted data_ context_ path_
  unfold first
  generalize rooted data (contextRoot context) path = start at root_ rest_ ⊢
  obtain ⟨root, rest⟩ := start
  dsimp only
  split
  · nofun
  · intro failed
    rcases bind_eq_error.1 failed with failed | ⟨found, -, failed⟩
    · exact values_ne_unwritable root_ rest_ failed
    · cases found with
      | nil =>
        have told : (PathError.invalid rest.display root none).isWritable := root_
        exact PathError.reported_ne_unwritable told (Except.error.inj failed)
      | cons value more => cases failed

end writable

end Path

end StateFlow
