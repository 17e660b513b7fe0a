/-!
Lines of text. A line ends with a line feed, a carriage return, or a carriage return and a line
feed; in plain text every one of these is a line feed. `lines` cuts a plain text after each of them.
-/
namespace StateFlow.Text

def plainLines : List Char → List Char
  | [] => []
  | '\r' :: '\n' :: rest => '\n' :: plainLines rest
  | c :: rest => (if c = '\r' then '\n' else c) :: plainLines rest

theorem plainLines_of_not_mem {cs : List Char} (h : '\r' ∉ cs) : plainLines cs = cs := by
  induction cs with
  | nil => rfl
  | cons c rest ih =>
    have plain : c ≠ '\r' := fun e => h (by simp [e])
    rw [plainLines, if_neg plain, ih fun m => h (by simp [m])]
    rintro rest rfl
    exact absurd rfl plain

theorem plainLines_cons {c : Char} {rest : List Char}
    (noPair : c = '\r' → rest.head? ≠ some '\n') :
    plainLines (c :: rest) = (if c = '\r' then '\n' else c) :: plainLines rest := by
  rw [plainLines]
  rintro more rfl rfl
  exact noPair rfl rfl

theorem plainLines_append {c : Char} (noFeed : c ≠ '\n') (cs rest : List Char) :
    plainLines (cs ++ c :: rest) = plainLines cs ++ plainLines (c :: rest) := by
  fun_induction plainLines cs with
  | case1 => rfl
  | case2 more ih => simp [plainLines, ih]
  | case3 d more noPair ih =>
    have noPair' : d = '\r' → (more ++ c :: rest).head? ≠ some '\n' := by
      rintro rfl
      cases more with
      | nil => simpa using noFeed
      | cons e more =>
        rintro same
        obtain rfl : e = '\n' := by simpa using same
        exact noPair more rfl rfl
    rw [List.cons_append, plainLines_cons noPair', ih, List.cons_append]

theorem prefix_of_plainLines {word cs : List Char} (single : '\n' ∉ word)
    (begins : word <+: plainLines cs) : word <+: cs := by
  induction word generalizing cs with
  | nil => exact List.nil_prefix
  | cons w word ih =>
    simp only [List.mem_cons, not_or] at single
    cases cs with
    | nil => exact begins
    | cons c rest =>
      by_cases pair : c = '\r' → rest.head? ≠ some '\n'
      · rw [plainLines_cons pair, List.cons_prefix_cons] at begins
        obtain ⟨same, begins⟩ := begins
        have plain : w = c := by
          split at same
          · exact absurd same.symm single.1
          · exact same
        exact List.cons_prefix_cons.2 ⟨plain, ih single.2 begins⟩
      · simp only [Classical.not_imp, Classical.not_not] at pair
        obtain ⟨rfl, feed⟩ := pair
        obtain ⟨more, rfl⟩ : ∃ more, rest = '\n' :: more := by
          cases rest with
          | nil => cases feed
          | cons d more => exact ⟨more, by rw [Option.some.inj feed]⟩
        rw [plainLines, List.cons_prefix_cons] at begins
        exact absurd begins.1.symm single.1

theorem infix_of_plainLines {word cs : List Char} (single : '\n' ∉ word)
    (occurs : word <:+: plainLines cs) : word <:+: cs := by
  fun_induction plainLines cs with
  | case1 => exact occurs
  | case2 more ih =>
    have whole : plainLines ('\r' :: '\n' :: more) = '\n' :: plainLines more := by rw [plainLines]
    rcases List.infix_cons_iff.1 occurs with begins | inside
    · exact (prefix_of_plainLines single (whole ▸ begins)).isInfix
    · exact (ih inside).trans ⟨['\r', '\n'], [], by simp⟩
  | case3 c more noPair ih =>
    have whole : plainLines (c :: more) = (if c = '\r' then '\n' else c) :: plainLines more := by
      rw [plainLines]
      exact noPair
    rcases List.infix_cons_iff.1 occurs with begins | inside
    · exact (prefix_of_plainLines single (whole ▸ begins)).isInfix
    · exact (ih inside).trans (List.suffix_cons _ _).isInfix

/-- The lines of a plain text, each with its line feed; the last one may have none. -/
def lines : List Char → List (List Char)
  | [] => []
  | c :: rest =>
    if c = '\n' then [c] :: lines rest
    else match lines rest with
      | [] => [[c]]
      | line :: more => (c :: line) :: more

theorem lines_of_not_mem {cs : List Char} (full : cs ≠ []) (single : '\n' ∉ cs) :
    lines cs = [cs] := by
  induction cs with
  | nil => exact absurd rfl full
  | cons c rest ih =>
    simp only [List.mem_cons, not_or] at single
    rw [lines, if_neg (Ne.symm single.1)]
    by_cases last : rest = []
    · simp [last, lines]
    · simp [ih last single.2]

theorem lines_line {body : List Char} (single : '\n' ∉ body) (rest : List Char) :
    lines (body ++ '\n' :: rest) = (body ++ ['\n']) :: lines rest := by
  induction body with
  | nil => simp [lines]
  | cons c body ih =>
    simp only [List.mem_cons, not_or] at single
    rw [List.cons_append, lines, if_neg (Ne.symm single.1), ih single.2]
    rfl

theorem flatten_lines (cs : List Char) : (lines cs).flatten = cs := by
  induction cs with
  | nil => rfl
  | cons c rest ih =>
    rw [lines]
    split
    · simp [ih]
    · split
      · next found =>
        rw [found] at ih
        simp [← ih]
      · next found =>
        rw [found] at ih
        simp [← ih]

theorem line_induction {motive : List Char → Prop} (nil : motive [])
    (last : ∀ cs, cs ≠ [] → '\n' ∉ cs → motive cs)
    (line : ∀ body rest, '\n' ∉ body → motive rest → motive (body ++ '\n' :: rest))
    (cs : List Char) : motive cs := by
  induction length : cs.length using Nat.strongRecOn generalizing cs with
  | ind n ih =>
    by_cases mem : '\n' ∈ cs
    · obtain ⟨body, rest, rfl, single⟩ := List.eq_append_cons_of_mem mem
      have shorter : rest.length < n := by
        rw [← length, List.length_append, List.length_cons]
        omega
      exact line body rest single (ih rest.length shorter rest rfl)
    · by_cases full : cs = []
      · exact full ▸ nil
      · exact last cs full mem

def begun (cs : List Char) : List Char :=
  cs.foldl (fun line c => if c = '\n' then [] else line ++ [c]) []

theorem begun_of_not_mem {cs : List Char} (single : '\n' ∉ cs) : begun cs = cs := by
  suffices whole : ∀ line, cs.foldl (fun line c => if c = '\n' then [] else line ++ [c]) line =
      line ++ cs from whole []
  induction cs with
  | nil => simp
  | cons c rest ih =>
    intro line
    simp only [List.mem_cons, not_or] at single
    simp [Ne.symm single.1, ih single.2]

theorem begun_line (body rest : List Char) : begun (body ++ '\n' :: rest) = begun rest := by
  simp [begun]

theorem lines_append_end {body : List Char} (single : '\n' ∉ body) (cs : List Char) :
    ∃ front, lines (cs ++ (body ++ ['\n'])) = front ++ [begun cs ++ (body ++ ['\n'])] ∧
      ∀ line ∈ front, line <:+: cs := by
  induction cs using line_induction with
  | nil => exact ⟨[], lines_line single [], nofun⟩
  | last cs full noFeed =>
    have single : '\n' ∉ cs ++ body := by simp [noFeed, single]
    refine ⟨[], ?_, nofun⟩
    rw [← List.append_assoc, lines_line single, begun_of_not_mem noFeed, List.append_assoc]
    rfl
  | line inner rest noFeed ih =>
    obtain ⟨front, same, inside⟩ := ih
    refine ⟨(inner ++ ['\n']) :: front, ?_, fun line mem => ?_⟩
    · rw [List.append_assoc, List.cons_append, lines_line noFeed, same, begun_line]
      rfl
    · rcases List.mem_cons.1 mem with rfl | mem
      · exact ⟨[], rest, by simp⟩
      · exact (inside line mem).trans ⟨inner ++ ['\n'], [], by simp⟩

theorem mem_lines {cs line : List Char} (mem : line ∈ lines cs) : line <:+: cs := by
  obtain ⟨front, back, same⟩ := List.append_of_mem mem
  refine ⟨front.flatten, back.flatten, ?_⟩
  rw [← flatten_lines cs, same]
  simp

end StateFlow.Text
