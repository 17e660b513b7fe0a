import Mathlib.Data.List.TakeDrop
import StateFlow.Json.Decode
import StateFlow.Proofs.Except

/-!
Where one stands in a JSON text. A `Cursor` knows how many lists and objects are open and whether a
text is, and `walk` moves it over characters. Reading a value moves it past the value:
`leads_value`. The cursor knows less than the reader, but enough to tell what may stand before a
value.
-/
namespace StateFlow.Json

/-- Nothing has begun yet, or so many lists and objects are open, or a text within them is, or an
escape in the text. -/
inductive Cursor where
  | before
  | inside (depth : Nat)
  | text (depth : Nat)
  | escape (depth : Nat)
  deriving DecidableEq

namespace Cursor

/-- A character of a number or a word, or between values. No word has a letter g. -/
def isPlain (c : Char) : Bool :=
  !isTextBlank c && !(['"', '[', ']', '\x7b', '\x7d', 'g'].contains c)

/-- How many lists and objects are open around a value that begins here. Behind a value at the top
of a text there is no other one. -/
def level? : Cursor → Option Nat
  | .before => some 0
  | .inside (depth + 1) => some (depth + 1)
  | _ => none

def stepOutside (cursor : Cursor) (depth : Nat) (c : Char) : Option Cursor :=
  if isTextBlank c then some cursor
  else if isPlain c then some (.inside depth)
  else if c = '"' then cursor.level?.map .text
  else if c = '[' ∨ c = '\x7b' then cursor.level?.map fun depth => .inside (depth + 1)
  else match depth, c with
    | depth + 1, ']' | depth + 1, '\x7d' => some (.inside depth)
    | _, _ => none

def step : Cursor → Char → Option Cursor
  | .escape depth, _ => some (.text depth)
  | .text depth, c =>
    some (if c = '"' then .inside depth else if c = '\\' then .escape depth else .text depth)
  | .inside depth, c => stepOutside (.inside depth) depth c
  | .before, c => stepOutside .before 0 c

def walk : Cursor → List Char → Option Cursor
  | cursor, [] => some cursor
  | cursor, c :: cs => (cursor.step c).bind (walk · cs)

theorem walk_append (cursor : Cursor) (front back : List Char) :
    cursor.walk (front ++ back) = (cursor.walk front).bind (walk · back) := by
  induction front generalizing cursor with
  | nil => rfl
  | cons c front ih =>
    simp only [List.cons_append, walk]
    cases cursor.step c with
    | none => rfl
    | some next => exact ih next

def Leads (start stop : Cursor) (cs rest : List Char) : Prop :=
  ∃ used, cs = used ++ rest ∧ start.walk used = some stop

namespace Leads

variable {start middle stop : Cursor} {cs more rest : List Char}

theorem refl (cursor : Cursor) (cs : List Char) : Leads cursor cursor cs cs := ⟨[], rfl, rfl⟩

theorem trans (first : Leads start middle cs more) (second : Leads middle stop more rest) :
    Leads start stop cs rest := by
  obtain ⟨used, rfl, walked⟩ := first
  obtain ⟨used', rfl, walked'⟩ := second
  exact ⟨used ++ used', by simp, by rw [walk_append, walked]; exact walked'⟩

theorem char {c : Char} (moves : start.step c = some stop) (rest : List Char) :
    Leads start stop (c :: rest) rest := ⟨[c], rfl, by simp [walk, moves]⟩

theorem suffix (leads : Leads start stop cs rest) : rest <:+ cs := by
  obtain ⟨used, rfl, -⟩ := leads
  exact List.suffix_append used rest

end Leads

theorem level?_inside (depth : Nat) : (inside (depth + 1)).level? = some (depth + 1) := rfl

theorem step_blank {cursor : Cursor} {c : Char} (blank : isTextBlank c = true)
    (outside : cursor = .before ∨ ∃ depth, cursor = .inside depth) :
    cursor.step c = some cursor := by
  rcases outside with rfl | ⟨depth, rfl⟩ <;> simp [step, stepOutside, blank]

theorem walk_blanks {cursor : Cursor} {cs : List Char} (blank : ∀ c ∈ cs, isTextBlank c = true)
    (outside : cursor = .before ∨ ∃ depth, cursor = .inside depth) :
    cursor.walk cs = some cursor := by
  induction cs with
  | nil => rfl
  | cons c cs ih =>
    have rest := ih fun d mem => blank d (.tail c mem)
    simpa [walk, step_blank (blank c List.mem_cons_self) outside] using rest

theorem outside_of_level {cursor : Cursor} {depth : Nat} (level : cursor.level? = some depth) :
    cursor = .before ∨ cursor = .inside depth := by
  cases cursor with
  | before => exact .inl rfl
  | inside n =>
    cases n with
    | zero => cases level
    | succ n => exact .inr (congrArg Cursor.inside (Option.some.inj level))
  | _ => cases level

theorem step_of_level {cursor : Cursor} {depth : Nat} (level : cursor.level? = some depth)
    (c : Char) : cursor.step c = stepOutside cursor depth c := by
  rcases outside_of_level level with rfl | rfl
  · cases level
    rfl
  · rfl

theorem leads_blanks {cursor : Cursor} {depth : Nat} (level : cursor.level? = some depth)
    (cs : List Char) : Leads cursor cursor cs (skipBlanks cs) :=
  ⟨cs.takeWhile isTextBlank, (List.takeWhile_append_dropWhile).symm,
    walk_blanks (List.all_eq_true.1 List.all_takeWhile)
      ((outside_of_level level).imp_right fun same => ⟨depth, same⟩)⟩

theorem step_plain {cursor : Cursor} {depth : Nat} {c : Char} (plain : isPlain c = true)
    (here : cursor = .inside depth ∨ cursor.level? = some depth) :
    cursor.step c = some (.inside depth) := by
  have noBlank : isTextBlank c = false := by
    simp only [isPlain, Bool.and_eq_true, Bool.not_eq_true'] at plain
    exact plain.1
  rcases here with rfl | level
  · simp [step, stepOutside, noBlank, plain]
  · simp [step_of_level level, stepOutside, noBlank, plain]

theorem walk_plain {cs : List Char} (plain : ∀ c ∈ cs, isPlain c = true) (depth : Nat) :
    (inside depth).walk cs = some (.inside depth) := by
  induction cs with
  | nil => rfl
  | cons c cs ih =>
    have rest := ih fun d mem => plain d (.tail c mem)
    simpa [walk, step_plain (plain c List.mem_cons_self) (.inl rfl)] using rest

theorem isPlain_of_isAsciiDigit {c : Char} (digit : Text.isAsciiDigit c = true) :
    isPlain c = true := by
  have differs (other : Char) (noDigit : Text.isAsciiDigit other = false) : c ≠ other := by
    rintro rfl
    rw [digit] at noDigit
    cases noDigit
  simp [isPlain, isTextBlank, differs ' ' (by decide), differs '\t' (by decide),
    differs '\r' (by decide), differs '\n' (by decide), differs '"' (by decide),
    differs '[' (by decide), differs ']' (by decide), differs '\x7b' (by decide),
    differs '\x7d' (by decide), differs 'g' (by decide)]

theorem step_text {c : Char} (noQuote : c ≠ '"') (noEscape : c ≠ '\\') (depth : Nat) :
    (text depth).step c = some (.text depth) := by
  simp [step, noQuote, noEscape]

theorem ne_of_hexValue? {c other : Char} {d : Nat} (digit : hexValue? c = some d)
    (noDigit : hexValue? other = none) : c ≠ other := by
  rintro rfl
  rw [digit] at noDigit
  cases noDigit

theorem leads_unit {width v unit : Nat} {cs rest : List Char}
    (read : readUnit width v cs = .ok (unit, rest)) (depth : Nat) :
    Leads (.text depth) (.text depth) cs rest := by
  induction width generalizing v cs with
  | zero =>
    cases read
    exact .refl _ _
  | succ width ih =>
    cases cs with
    | nil => cases read
    | cons c cs =>
      simp only [readUnit] at read
      split at read
      · next d digit =>
        have moves := step_text (ne_of_hexValue? digit (by decide))
          (ne_of_hexValue? digit (by decide)) depth
        exact (Leads.char moves cs).trans (ih read)
      · cases read

theorem leads_lowUnit {high low : Nat} {cs rest : List Char}
    (read : lowUnit? high cs = some (low, rest)) (depth : Nat) :
    Leads (.text depth) (.text depth) cs rest := by
  unfold lowUnit? at read
  split at read
  · next more =>
    split at read
    · next unit found same =>
      split at read
      · cases read
        exact ((Leads.char rfl _).trans (.char rfl _)).trans (leads_unit same depth)
      · cases read
    · cases read
  · cases read

theorem leads_escape {cs rest : List Char} {c : Char} (read : readEscape cs = .ok (c, rest))
    (depth : Nat) : Leads (.escape depth) (.text depth) cs rest := by
  cases cs with
  | nil => cases read
  | cons d cs =>
    have first : Leads (.escape depth) (.text depth) (d :: cs) cs := .char rfl cs
    have direct {x : Char} (same : (Except.ok (x, cs) : Except DecodeError _) = .ok (c, rest)) :
        Leads (.escape depth) (.text depth) (d :: cs) rest := by
      cases same
      exact first
    unfold readEscape at read
    by_cases unit : d = 'u'
    · simp only [unit, if_true, readUnicode] at read
      split at read
      · cases read
      · next found =>
        have second := first.trans (leads_unit found depth)
        split at read
        · next low =>
          obtain ⟨-, rfl⟩ : _ ∧ _ := by simpa using read
          exact second.trans (leads_lowUnit low depth)
        · obtain ⟨-, rfl⟩ : _ ∧ _ := by simpa using read
          exact second
    · simp only [unit, if_false] at read
      repeat' split at read
      all_goals first | exact direct read | cases read

theorem leads_text {begun cs rest : List Char} {s : String}
    (read : readText begun cs = .ok (s, rest)) (depth : Nat) :
    Leads (.text depth) (.inside depth) cs rest := by
  fun_induction readText begun cs with
  | case1 => cases read
  | case2 =>
    cases read
    exact .char rfl _
  | case3 => cases read
  | case4 => cases read
  | case5 =>
    rename_i begun tail d more escape _ _ _ ih
    exact ((Leads.char rfl tail).trans (leads_escape escape depth)).trans (ih read)
  | case6 =>
    rename_i begun c tail noQuote _ noEscape ih
    exact (Leads.char (step_text noQuote noEscape depth) tail).trans (ih read)

theorem span_eq {p : Char → Bool} {cs front back : List Char} (same : cs.span p = (front, back)) :
    cs = front ++ back ∧ ∀ c ∈ front, p c = true := by
  rw [List.span_eq_takeWhile_dropWhile] at same
  cases same
  exact ⟨(List.takeWhile_append_dropWhile).symm, List.all_eq_true.1 List.all_takeWhile⟩

def IsPlainPart (cs rest : List Char) : Prop :=
  ∃ used, cs = used ++ rest ∧ ∀ c ∈ used, isPlain c = true

theorem IsPlainPart.refl (cs : List Char) : IsPlainPart cs cs := ⟨[], rfl, nofun⟩

theorem IsPlainPart.cons {c : Char} {cs rest : List Char} (plain : isPlain c = true)
    (part : IsPlainPart cs rest) : IsPlainPart (c :: cs) rest := by
  obtain ⟨used, rfl, others⟩ := part
  exact ⟨c :: used, rfl, List.forall_mem_cons.2 ⟨plain, others⟩⟩

theorem IsPlainPart.trans {cs more rest : List Char} (first : IsPlainPart cs more)
    (second : IsPlainPart more rest) : IsPlainPart cs rest := by
  obtain ⟨used, rfl, plain⟩ := first
  obtain ⟨used', rfl, plain'⟩ := second
  exact ⟨used ++ used', by simp, by simpa [or_imp, forall_and] using ⟨plain, plain'⟩⟩

theorem IsPlainPart.span {cs digits rest : List Char}
    (same : cs.span Text.isAsciiDigit = (digits, rest)) : IsPlainPart cs rest := by
  obtain ⟨rfl, all⟩ := span_eq same
  exact ⟨digits, rfl, fun c mem => isPlain_of_isAsciiDigit (all c mem)⟩

theorem isPlainPart_sign (cs : List Char) : IsPlainPart cs (Text.splitSign cs).2 := by
  unfold Text.splitSign
  split
  · exact .cons (by decide) (.refl _)
  · exact .cons (by decide) (.refl _)
  · exact .refl _

theorem isPlainPart_power (cs : List Char) : IsPlainPart cs (readPower cs).2 := by
  unfold readPower
  split
  · exact .refl _
  · next c rest =>
    split
    · next letter =>
      have plain : isPlain c = true := by rcases letter with rfl | rfl <;> decide
      have digits : IsPlainPart (c :: rest)
          ((Text.splitSign rest).2.span Text.isAsciiDigit).2 :=
        (IsPlainPart.cons plain (isPlainPart_sign rest)).trans (.span rfl)
      dsimp only
      split
      · exact .refl _
      · exact digits
    · exact .refl _

def fractionOf (cs : List Char) : List Char × List Char :=
  match cs with
  | '.' :: rest => rest.span Text.isAsciiDigit
  | rest => ([], rest)

theorem isPlainPart_fraction (cs : List Char) : IsPlainPart cs (fractionOf cs).2 := by
  unfold fractionOf
  split
  · exact .cons (by decide) (.span rfl)
  · exact .refl _

theorem isPlainPart_number {negative : Bool} {start cs rest : List Char} {value : Json}
    (read : readNumber negative start cs = .ok (value, rest)) :
    rest = start ∨ IsPlainPart cs rest := by
  have whole : IsPlainPart cs (cs.span Text.isAsciiDigit).2 := .span rfl
  have power := (whole.trans (isPlainPart_fraction _)).trans (isPlainPart_power _)
  have double {none : Prop} [Decidable none] {zero x : Json}
      (same : (if none then Except.ok (zero, start) else .ok (x,
        (readPower (fractionOf (cs.span Text.isAsciiDigit).2).2).2) :
          Except DecodeError (Json × List Char)) = .ok (value, rest)) :
      rest = start ∨ IsPlainPart cs rest := by
    split at same
    · cases same
      exact .inl rfl
    · cases same
      exact .inr power
  unfold readNumber at read
  dsimp only at read
  split at read
  · exact double read
  · exact double read
  · exact double read
  · obtain ⟨n, -, same⟩ := map_eq_ok.1 read
    cases same
    exact .inr whole

theorem isPlainPart_word {word : String} {value found : Json} {cs rest : List Char}
    (plain : word.toList.all isPlain = true)
    (read : readWord word value cs = .ok (found, rest)) : IsPlainPart cs rest := by
  unfold readWord at read
  split at read
  · next spelled =>
    obtain ⟨more, rfl⟩ := List.isPrefixOf_iff_prefix.1 spelled
    cases read
    exact ⟨word.toList, by rw [← String.length_toList, List.drop_left], List.all_eq_true.1 plain⟩
  · cases read

theorem isPlainPart_scalar {cs rest : List Char} {value : Json}
    (read : readScalar cs = .ok (value, rest)) : IsPlainPart cs rest := by
  have number {negative : Bool} {digits : List Char} (inside : IsPlainPart cs digits)
      (read : readNumber negative cs digits = .ok (value, rest)) : IsPlainPart cs rest := by
    rcases isPlainPart_number read with rfl | part
    · exact .refl _
    · exact inside.trans part
  unfold readScalar at read
  split at read
  · exact isPlainPart_word rfl read
  · exact isPlainPart_word rfl read
  · exact isPlainPart_word rfl read
  · exact isPlainPart_word rfl read
  · exact isPlainPart_word rfl read
  · exact isPlainPart_word rfl read
  · exact number (.cons (by decide) (.refl _)) read
  · split at read
    · exact number (.refl _) read
    · cases read
  · cases read

theorem leads_plain {cursor : Cursor} {depth : Nat} (level : cursor.level? = some depth)
    {cs rest : List Char} (part : IsPlainPart cs rest) :
    Leads cursor (.inside depth) cs rest ∨ rest = cs := by
  obtain ⟨used, rfl, plain⟩ := part
  cases used with
  | nil => exact .inr rfl
  | cons c used =>
    have first := step_plain (plain c List.mem_cons_self) (.inr level)
    have others := walk_plain (fun d mem => plain d (.tail c mem)) depth
    exact .inl ⟨c :: used, rfl, by simp [walk, first, others]⟩

theorem step_quote {cursor : Cursor} {depth : Nat} (level : cursor.level? = some depth) :
    cursor.step '"' = some (.text depth) := by
  have solid : isTextBlank '"' = false := by decide
  have noPlain : isPlain '"' = false := by decide
  simp [step_of_level level, stepOutside, level, solid, noPlain]

theorem step_opening {cursor : Cursor} {depth : Nat} (level : cursor.level? = some depth) {c : Char}
    (opening : c = '[' ∨ c = '\x7b') : cursor.step c = some (.inside (depth + 1)) := by
  have solid : isTextBlank c = false := by rcases opening with rfl | rfl <;> decide
  have noPlain : isPlain c = false := by rcases opening with rfl | rfl <;> decide
  have noQuote : c ≠ '"' := by rcases opening with rfl | rfl <;> decide
  simp [step_of_level level, stepOutside, level, solid, noPlain, noQuote, opening]

/-- Behind a value the cursor is at the level where the value began; of a lone minus sign nothing is
read. -/
def LeadsValue (cs rest : List Char) : Prop :=
  ∀ (cursor : Cursor) (depth : Nat), cursor.level? = some depth →
    Leads cursor (.inside depth) cs rest ∨ Leads cursor cursor cs rest

def LeadsOut (cs rest : List Char) : Prop :=
  ∀ depth, Leads (.inside (depth + 1)) (.inside depth) cs rest

theorem LeadsValue.inside {cs rest : List Char} (leads : LeadsValue cs rest) (depth : Nat) :
    Leads (.inside (depth + 1)) (.inside (depth + 1)) cs rest :=
  (leads _ _ (level?_inside depth)).elim id id

structure LeadsRead (fuel : Nat) : Prop where
  value {depth : Nat} {cs rest : List Char} {value : Json} :
    readValue fuel depth cs = .ok (value, rest) → LeadsValue cs rest
  items {depth : Nat} {items : List Json} {cs rest : List Char} {value : Json} :
    readItems fuel depth items cs = .ok (value, rest) → LeadsOut cs rest
  members {depth : Nat} {fields : List (String × Json)} {cs rest : List Char} {value : Json} :
    readMembers fuel depth fields cs = .ok (value, rest) → LeadsOut cs rest

namespace LeadsRead

variable {fuel depth : Nat} {cs rest : List Char} {value : Json}

theorem readValue_succ (reads : LeadsRead fuel)
    (read : readValue (fuel + 1) depth cs = .ok (value, rest)) : LeadsValue cs rest := by
  intro cursor level here
  have start := leads_blanks here cs
  rw [readValue] at read
  split at read
  · next inner same =>
    rw [same] at start
    obtain ⟨⟨s, after⟩, text, same⟩ := bind_eq_ok.1 read
    cases same
    exact .inl ((start.trans (.char (step_quote here) _)).trans (leads_text text level))
  · next inner same =>
    rw [same] at start
    split at read
    · cases read
    · exact .inl ((start.trans (.char (step_opening here (.inl rfl)) _)).trans
        (reads.items read level))
  · next inner same =>
    rw [same] at start
    split at read
    · cases read
    · exact .inl ((start.trans (.char (step_opening here (.inr rfl)) _)).trans
        (reads.members read level))
  · rcases leads_plain here (isPlainPart_scalar read) with moved | same
    · exact .inl (start.trans moved)
    · exact .inr (same ▸ start)

theorem readItems_succ (reads : LeadsRead fuel) {items : List Json}
    (read : readItems (fuel + 1) depth items cs = .ok (value, rest)) : LeadsOut cs rest := by
  intro level
  have start := leads_blanks (level?_inside level) cs
  rw [readItems] at read
  split at read
  · next inner same =>
    rw [same] at start
    split at read
    · cases read
      exact start.trans (.char rfl _)
    · cases read
  · obtain ⟨⟨item, after⟩, first, read⟩ := bind_eq_ok.1 read
    have second := (start.trans ((reads.value first).inside level)).trans
      (leads_blanks (level?_inside level) after)
    dsimp only at read
    split at read
    · next inner same =>
      rw [same] at second
      cases read
      exact second.trans (.char rfl _)
    · next inner same =>
      rw [same] at second
      exact (second.trans (.char rfl _)).trans (reads.items read level)
    · cases read

theorem readMembers_succ (reads : LeadsRead fuel) {fields : List (String × Json)}
    (read : readMembers (fuel + 1) depth fields cs = .ok (value, rest)) : LeadsOut cs rest := by
  intro level
  have start := leads_blanks (level?_inside level) cs
  rw [readMembers] at read
  split at read
  · next inner same =>
    rw [same] at start
    split at read
    · cases read
      exact start.trans (.char rfl _)
    · cases read
  · obtain ⟨⟨key, after⟩, first, read⟩ := bind_eq_ok.1 read
    have second := (start.trans ((reads.value first).inside level)).trans
      (leads_blanks (level?_inside level) after)
    dsimp only at read
    split at read
    · split at read
      · next inner same =>
        rw [same] at second
        obtain ⟨⟨member, after⟩, value, read⟩ := bind_eq_ok.1 read
        have third := ((second.trans (.char rfl _)).trans ((reads.value value).inside level)).trans
          (leads_blanks (level?_inside level) after)
        dsimp only at read
        split at read
        · next inner same =>
          rw [same] at third
          cases read
          exact third.trans (.char rfl _)
        · next inner same =>
          rw [same] at third
          exact (third.trans (.char rfl _)).trans (reads.members read level)
        · cases read
      · cases read
    · cases read

end LeadsRead

theorem leads_read (fuel : Nat) : LeadsRead fuel := by
  induction fuel with
  | zero => exact ⟨nofun, nofun, nofun⟩
  | succ fuel ih => exact ⟨ih.readValue_succ, ih.readItems_succ, ih.readMembers_succ⟩

theorem leads_value {fuel depth : Nat} {cs rest : List Char} {value : Json}
    (read : readValue fuel depth cs = .ok (value, rest)) : LeadsValue cs rest :=
  (leads_read fuel).value read

end Cursor

end StateFlow.Json
