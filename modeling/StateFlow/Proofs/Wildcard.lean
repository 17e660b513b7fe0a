import Mathlib.Data.List.Forall2
import StateFlow.Proofs.Wildcard.Shell
import StateFlow.Rule.Evaluate

/-!
Which texts a wildcard pattern matches: those that are cut into consecutive parts, one for each
token. `pattern_matches_by_cuts` says so of the table of suffixes, and that the shell pattern a
wildcard pattern is written as matches the same texts.
-/
namespace StateFlow

namespace Text

/-- A text is cut into consecutive parts, one for each item and fitting it. -/
def Cuts {α : Type} (fits : α → List Char → Prop) (items : List α) (text : List Char) : Prop :=
  ∃ parts : List (List Char), parts.flatten = text ∧ List.Forall₂ fits items parts

section cuts

variable {α : Type} {fits : α → List Char → Prop} {text : List Char}

theorem cuts_nil : Cuts fits [] text ↔ text = [] := by
  constructor
  · rintro ⟨parts, rfl, forall_⟩
    cases forall_
    rfl
  · rintro rfl
    exact ⟨[], rfl, .nil⟩

theorem cuts_cons {a : α} {items : List α} :
    Cuts fits (a :: items) text ↔
      ∃ part rest, part ++ rest = text ∧ fits a part ∧ Cuts fits items rest := by
  constructor
  · rintro ⟨parts, rfl, fit⟩
    cases fit with
    | cons first others => exact ⟨_, _, rfl, first, _, rfl, others⟩
  · rintro ⟨part, rest, rfl, first, parts, rfl, others⟩
    exact ⟨part :: parts, rfl, .cons first others⟩

theorem cuts_map {β : Type} {f : β → α} {items : List β} :
    Cuts fits (items.map f) text ↔ Cuts (fun b => fits (f b)) items text := by
  simp only [Cuts, List.forall₂_map_left_iff]

end cuts

end Text

namespace Wildcard

def Token.Fits : Token → List Char → Prop
  | .letter c, part => part = [c]
  | .any, _ => True

theorem fits_piece (t : Token) : t.piece.Fits = t.Fits := by
  funext part
  cases t with
  | any => rfl
  | letter c =>
    rw [Token.piece]
    split
    · refine propext ⟨?_, ?_⟩
      · rintro ⟨d, rfl, member⟩
        have same : c = d := by simpa [Shell.hasMember] using member
        rw [same]
        rfl
      · rintro rfl
        exact ⟨c, rfl, by simp [Shell.hasMember]⟩
    · rfl

theorem not_cuts_letter_nil {d : Char} {ts : List Token} :
    ¬ Text.Cuts Token.Fits (.letter d :: ts) [] := by
  rw [Text.cuts_cons]
  rintro ⟨part, rest, same, rfl, others⟩
  cases same

theorem cuts_letter_cons {d c : Char} {text : List Char} {ts : List Token} :
    Text.Cuts Token.Fits (.letter d :: ts) (c :: text) ↔
      c = d ∧ Text.Cuts Token.Fits ts text := by
  rw [Text.cuts_cons]
  constructor
  · rintro ⟨part, rest, same, rfl, others⟩
    cases same
    exact ⟨rfl, others⟩
  · rintro ⟨rfl, others⟩
    exact ⟨[c], text, rfl, rfl, others⟩

theorem cuts_any_nil {ts : List Token} :
    Text.Cuts Token.Fits (.any :: ts) [] ↔ Text.Cuts Token.Fits ts [] := by
  rw [Text.cuts_cons]
  constructor
  · rintro ⟨part, rest, same, -, others⟩
    obtain ⟨rfl, rfl⟩ := List.append_eq_nil_iff.1 same
    exact others
  · exact fun others => ⟨[], [], rfl, trivial, others⟩

theorem cuts_any_cons {c : Char} {text : List Char} {ts : List Token} :
    Text.Cuts Token.Fits (.any :: ts) (c :: text) ↔
      Text.Cuts Token.Fits ts (c :: text) ∨ Text.Cuts Token.Fits (.any :: ts) text := by
  simp only [Text.cuts_cons (a := Token.any)]
  constructor
  · rintro ⟨part, rest, same, -, others⟩
    cases part with
    | nil =>
      cases same
      exact .inl others
    | cons d part =>
      cases same
      exact .inr ⟨part, rest, rfl, trivial, others⟩
  · rintro (others | ⟨part, rest, rfl, -, others⟩)
    · exact ⟨[], c :: text, rfl, trivial, others⟩
    · exact ⟨c :: part, rest, rfl, trivial, others⟩

theorem headD_suffixTable_iff (text : List Char) (ts : List Token) :
    (suffixTable text ts).headD false = true ↔ Text.Cuts Token.Fits ts text := by
  induction ts generalizing text with
  | nil => rw [headD_suffixTable_nil, Text.cuts_nil, List.isEmpty_iff]
  | cons t ts ih =>
    cases t with
    | letter d =>
      cases text with
      | nil =>
        rw [headD_suffixTable_letter_nil]
        exact ⟨nofun, fun cuts => absurd cuts not_cuts_letter_nil⟩
      | cons c text =>
        rw [headD_suffixTable_letter_cons, cuts_letter_cons, Bool.and_eq_true, beq_iff_eq, ih]
    | any =>
      -- a star is passed over along the text, for the same tokens behind it
      induction text with
      | nil => rw [headD_suffixTable_any_nil, cuts_any_nil, ih]
      | cons c text further =>
        rw [headD_suffixTable_any_cons, cuts_any_cons, Bool.or_eq_true, ih, further]

theorem accepts_iff {pattern text : List Char} :
    accepts pattern text = true ↔ Text.Cuts Token.Fits (tokens pattern) text :=
  headD_suffixTable_iff text (tokens pattern)

theorem cuts_pieces_iff {pattern text : List Char} :
    Text.Cuts Shell.Piece.Fits (Shell.pieces (toShell pattern)) text ↔
      Text.Cuts Token.Fits (tokens pattern) text := by
  rw [pieces_toShell, Text.cuts_map]
  simp only [fits_piece]

end Wildcard

/-- A text matches a wildcard pattern exactly if it can be cut into one part for each token of it,
and exactly if it matches the shell pattern that three replacements make of it. -/
theorem pattern_matches_by_cuts (pattern text : String) :
    (Operand.accepts (.str pattern) (.str text) = true ↔
      Text.Cuts Wildcard.Token.Fits (Wildcard.tokens pattern.toList) text.toList) ∧
    (Operand.accepts (.str pattern) (.str text) = true ↔
      Text.Cuts Shell.Piece.Fits (Shell.pieces (Wildcard.toShell pattern.toList)) text.toList) :=
  ⟨Wildcard.accepts_iff, Wildcard.accepts_iff.trans Wildcard.cuts_pieces_iff.symm⟩

end StateFlow
