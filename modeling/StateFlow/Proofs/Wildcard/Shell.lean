import StateFlow.Text.Replace
import StateFlow.Wildcard

/-!
Shell patterns, and wildcard patterns written as such. In a shell pattern a star stands for any
text, a question mark for any character, and brackets for a character of a set. `pieces_toShell`
says that three replacements in a wildcard pattern give a shell pattern with one piece for each
token.
-/
namespace StateFlow

namespace Shell

/-- A part of a shell pattern: a character, any character, any text, or a character that a set has
or lacks. -/
inductive Piece where
  | letter (c : Char)
  | one
  | any
  | oneOf (negated : Bool) (members : List Char)

/-- Whether a set has a character. Two characters with a dash between them stand for all from the
one to the other. -/
def hasMember (c : Char) : List Char → Bool
  | low :: '-' :: high :: rest => (low ≤ c && c ≤ high) || hasMember c rest
  | x :: rest => x == c || hasMember c rest
  | [] => false

/-- The set that an opening bracket begins, and what is behind its closing bracket. The first
character belongs to the set, even a closing bracket, and an exclamation mark before it negates. -/
def readSet? (cs : List Char) : Option (Piece × List Char) :=
  let (negated, members) := match cs with
    | '!' :: rest => (true, rest)
    | cs => (false, cs)
  match members with
  | [] => none
  | first :: rest =>
    match rest.dropWhile (· ≠ ']') with
    | [] => none
    | _ :: behind => some (.oneOf negated (first :: rest.takeWhile (· ≠ ']')), behind)

theorem length_of_readSet? {cs behind : List Char} {set : Piece}
    (read : readSet? cs = some (set, behind)) : behind.length < cs.length := by
  unfold readSet? at read
  split at read
  next negated members begun =>
  have shorter : members.length ≤ cs.length := by
    split at begun <;> cases begun <;> simp
  split at read
  · cases read
  · next first rest =>
    split at read
    · cases read
    · next closing more split =>
      cases read
      have := (List.dropWhile_suffix (· ≠ ']') (l := rest)).length_le
      simp only [split, List.length_cons] at this shorter
      omega

/-- A bracket that is not closed stands for itself. -/
def pieces : List Char → List Piece
  | [] => []
  | '*' :: rest => .any :: pieces rest
  | '?' :: rest => .one :: pieces rest
  | '[' :: rest =>
    match read : readSet? rest with
    | some (set, behind) =>
      have := length_of_readSet? read
      set :: pieces behind
    | none => .letter '[' :: pieces rest
  | c :: rest => .letter c :: pieces rest
termination_by cs => cs.length

theorem pieces_letter {c : Char} (plain : c ∉ ['[', '?', '*']) (rest : List Char) :
    pieces (c :: rest) = .letter c :: pieces rest := by
  simp only [List.mem_cons, List.not_mem_nil, or_false, not_or] at plain
  rw [pieces]
  all_goals simp_all

theorem pieces_of_readSet? {cs behind : List Char} {set : Piece}
    (read : readSet? cs = some (set, behind)) : pieces ('[' :: cs) = set :: pieces behind := by
  rw [pieces]
  split
  · next found =>
    rw [read] at found
    cases found
    rfl
  · next unclosed => simp [read] at unclosed

theorem readSet?_singleton {c : Char} (noMark : c ≠ '!') (rest : List Char) :
    readSet? (c :: ']' :: rest) = some (.oneOf false [c], rest) := by
  unfold readSet?
  split
  next negated members begun =>
  split at begun
  · next same => exact absurd (List.cons.inj same).1 noMark
  · cases begun
    rfl

def Piece.Fits : Piece → List Char → Prop
  | .letter c, part => part = [c]
  | .one, part => ∃ c, part = [c]
  | .any, _ => True
  | .oneOf negated members, part => ∃ c, part = [c] ∧ hasMember c members = !negated

end Shell

namespace Wildcard

def Token.shell : Token → List Char
  | .letter c => if c ∈ ['[', '?', '*'] then ['[', c, ']'] else [c]
  | .any => ['*']

def Token.piece : Token → Shell.Piece
  | .letter c => if c ∈ ['[', '?', '*'] then .oneOf false [c] else .letter c
  | .any => .any

/-- A wildcard pattern as a shell pattern. Opening brackets and question marks are put between
brackets, and after that every star that a backslash precedes, without its backslash. -/
def toShell (pattern : List Char) : List Char :=
  Text.replace (Text.verbatim ['\\', '*'] ['[', '*', ']'])
    (Text.replace (Text.verbatim ['?'] ['[', '?', ']'])
      (Text.replace (Text.verbatim ['['] ['[', '[', ']']) pattern))

theorem pieces_shell (ts : List Token) :
    Shell.pieces (ts.flatMap Token.shell) = ts.map Token.piece := by
  induction ts with
  | nil => simp [Shell.pieces]
  | cons t ts ih =>
    rw [List.flatMap_cons, List.map_cons, ← ih]
    cases t with
    | any => simp [Token.shell, Token.piece, Shell.pieces]
    | letter c =>
      rw [Token.shell, Token.piece]
      split
      · next special =>
        have noMark : c ≠ '!' := by
          rintro rfl
          exact absurd special (by decide)
        exact Shell.pieces_of_readSet? (Shell.readSet?_singleton noMark _)
      · next plain => exact Shell.pieces_letter plain _

private def bracketed (c : Char) : List Char :=
  if c = '[' ∨ c = '?' then ['[', c, ']'] else [c]

private theorem no_star_bracketed {rest : List Char} (noStar : rest.head? ≠ some '*') :
    (rest.flatMap bracketed).head? ≠ some '*' := by
  cases rest with
  | nil => exact noStar
  | cons c rest =>
    rw [List.flatMap_cons, bracketed]
    split
    · simp
    · simpa using noStar

private def escape : Text.Replacement := Text.verbatim ['\\', '*'] ['[', '*', ']']

private theorem escape_cons {c : Char} (noBackslash : c ≠ '\\') (rest : List Char) :
    Text.replace escape (c :: rest) = c :: Text.replace escape rest := by
  refine Text.replace_verbatim_cons (fun begun => noBackslash ?_) _
  exact (List.cons_prefix_cons.1 begun).1.symm

private theorem escape_backslash {rest : List Char} (noStar : rest.head? ≠ some '*') :
    Text.replace escape ('\\' :: rest) = '\\' :: Text.replace escape rest := by
  refine Text.replace_verbatim_cons (fun begun => noStar ?_) _
  obtain ⟨more, rfl⟩ := (List.cons_prefix_cons.1 begun).2
  rfl

private theorem bracketed_twice (pattern : List Char) :
    Text.replace (Text.verbatim ['?'] ['[', '?', ']'])
      (Text.replace (Text.verbatim ['['] ['[', '[', ']']) pattern) =
    pattern.flatMap bracketed := by
  simp only [Text.replace_verbatim_singleton, List.flatMap_assoc]
  refine congrArg (List.flatMap · pattern) (funext fun c => ?_)
  by_cases opening : c = '['
  · subst opening
    rfl
  · by_cases question : c = '?'
    · subst question
      rfl
    · simp [opening, question, bracketed]

private theorem escape_bracketed (pattern : List Char) :
    Text.replace escape (pattern.flatMap bracketed) = (tokens pattern).flatMap Token.shell := by
  fun_induction tokens pattern with
  | case1 rest ih =>
    rw [List.flatMap_cons (f := Token.shell), ← ih]
    exact Text.replace_verbatim_append (List.cons_ne_nil _ _) _ _
  | case2 rest ih =>
    rw [List.flatMap_cons (f := Token.shell), ← ih]
    exact escape_cons (by decide) _
  | case3 c rest notEscaped notStar ih =>
    rw [List.flatMap_cons, List.flatMap_cons, ← ih, bracketed, Token.shell]
    by_cases backslash : c = '\\'
    · subst backslash
      have noStar : rest.head? ≠ some '*' := fun star => by
        obtain ⟨more, rfl⟩ := List.head?_eq_some_iff.1 star
        exact notEscaped more rfl rfl
      exact escape_backslash (no_star_bracketed noStar)
    · by_cases special : c = '[' ∨ c = '?'
      · have inShell : c ∈ ['[', '?', '*'] := by
          rcases special with rfl | rfl <;> decide
        rw [if_pos special, if_pos inShell, List.cons_append, escape_cons (by decide),
          List.cons_append, escape_cons backslash, List.singleton_append, escape_cons (by decide)]
        rfl
      · have notInShell : c ∉ ['[', '?', '*'] := by
          have noStar : c ≠ '*' := notStar
          simpa [not_or, noStar] using special
        rw [if_neg special, if_neg notInShell, List.singleton_append, escape_cons backslash]
        rfl
  | case4 => rfl

theorem toShell_eq (pattern : List Char) :
    toShell pattern = (tokens pattern).flatMap Token.shell := by
  rw [toShell, bracketed_twice]
  exact escape_bracketed pattern

theorem pieces_toShell (pattern : List Char) :
    Shell.pieces (toShell pattern) = (tokens pattern).map Token.piece := by
  rw [toShell_eq, pieces_shell]

end Wildcard

end StateFlow
