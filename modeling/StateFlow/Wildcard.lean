/-!
Texts against patterns. A star stands for any text, a star after a backslash for itself, and every
other character for itself. `accepts` answers for all suffixes of a text at once, from the last
token of a pattern to its first, in time proportional to the product of the lengths.
-/
namespace StateFlow.Wildcard

inductive Token where
  | letter (c : Char)
  | any
  deriving DecidableEq

def tokens : List Char → List Token
  | '\\' :: '*' :: rest => .letter '*' :: tokens rest
  | '*' :: rest => .any :: tokens rest
  | c :: rest => .letter c :: tokens rest
  | [] => []

private def orBefore (b : Bool) (later : List Bool) : List Bool :=
  (b || later.headD false) :: later

/-- For each suffix of the text, the longest first, whether the tokens match it. -/
def suffixTable (text : List Char) : List Token → List Bool
  | [] => List.replicate text.length false ++ [true]
  | .letter c :: ts =>
    List.zipWith (fun x ok => x == c && ok) text (suffixTable text ts).tail ++ [false]
  | .any :: ts => (suffixTable text ts).foldr orBefore []

def accepts (pattern text : List Char) : Bool := (suffixTable text (tokens pattern)).headD false

theorem length_foldr_orBefore (bs : List Bool) : (bs.foldr orBefore []).length = bs.length := by
  induction bs with
  | nil => rfl
  | cons b bs ih => simp [orBefore, ih]

theorem length_suffixTable (text : List Char) (ts : List Token) :
    (suffixTable text ts).length = text.length + 1 := by
  induction ts with
  | nil => simp [suffixTable]
  | cons t ts ih =>
    cases t with
    | letter c => simp [suffixTable, ih]
    | any => simp [suffixTable, length_foldr_orBefore, ih]

theorem exists_cons_suffixTable (text : List Char) (ts : List Token) :
    ∃ whole later, suffixTable text ts = whole :: later :=
  List.exists_cons_of_length_pos (by simp [length_suffixTable])

theorem tail_suffixTable (c : Char) (text : List Char) (ts : List Token) :
    (suffixTable (c :: text) ts).tail = suffixTable text ts := by
  induction ts with
  | nil => simp [suffixTable, List.replicate_succ]
  | cons t ts ih =>
    obtain ⟨whole, later, same⟩ := exists_cons_suffixTable (c :: text) ts
    rw [same, List.tail_cons] at ih
    cases t with
    | letter d =>
      obtain ⟨next, others, split⟩ := exists_cons_suffixTable text ts
      simp [suffixTable, same, ih, split]
    | any => simp [suffixTable, same, ih, orBefore]

theorem headD_suffixTable_nil (text : List Char) :
    (suffixTable text []).headD false = text.isEmpty := by
  cases text <;> rfl

theorem headD_suffixTable_letter_nil (d : Char) (ts : List Token) :
    (suffixTable [] (.letter d :: ts)).headD false = false := rfl

theorem headD_suffixTable_letter_cons (d c : Char) (text : List Char) (ts : List Token) :
    (suffixTable (c :: text) (.letter d :: ts)).headD false =
      (c == d && (suffixTable text ts).headD false) := by
  obtain ⟨next, others, split⟩ := exists_cons_suffixTable text ts
  simp [suffixTable, tail_suffixTable, split]

theorem headD_suffixTable_any_nil (ts : List Token) :
    (suffixTable [] (.any :: ts)).headD false = (suffixTable [] ts).headD false := by
  obtain ⟨whole, later, same⟩ := exists_cons_suffixTable [] ts
  have alone : later = [] := by simpa [same] using length_suffixTable [] ts
  simp [suffixTable, same, alone, orBefore]

theorem headD_suffixTable_any_cons (c : Char) (text : List Char) (ts : List Token) :
    (suffixTable (c :: text) (.any :: ts)).headD false =
      ((suffixTable (c :: text) ts).headD false || (suffixTable text (.any :: ts)).headD false) := by
  obtain ⟨whole, later, same⟩ := exists_cons_suffixTable (c :: text) ts
  have tail := tail_suffixTable c text ts
  rw [same, List.tail_cons] at tail
  simp [suffixTable, same, tail, orBefore]

end StateFlow.Wildcard
