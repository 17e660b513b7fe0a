/-!
Texts inside texts.
-/
namespace StateFlow.Text

def occursIn (part : List Char) : List Char → Bool
  | [] => part.isEmpty
  | c :: rest => part.isPrefixOf (c :: rest) || occursIn part rest

theorem occursIn_iff (part cs : List Char) : occursIn part cs = true ↔ part <:+: cs := by
  induction cs with
  | nil => simp [occursIn, List.isEmpty_iff]
  | cons c rest ih => simp [occursIn, ih, List.infix_cons_iff]

end StateFlow.Text
