import StateFlow.Text.Numeral

/-!
Numerals of visible ASCII characters. They are read as they stand: `readInteger_digits` gives the
value of a row of digits, and `readInteger_of_not_digit` refuses what begins with another character.
-/
namespace StateFlow.Text

theorem toNat_of_isAsciiDigit {c : Char} (digit : isAsciiDigit c = true) :
    48 ≤ c.toNat ∧ c.toNat ≤ 57 := by
  simpa [isAsciiDigit, Char.le_def, UInt32.le_iff_toNat_le] using digit

def IsVisible (c : Char) : Prop := 33 ≤ c.toNat ∧ c.toNat < 127

instance (c : Char) : Decidable (IsVisible c) := inferInstanceAs (Decidable (_ ∧ _))

theorem IsVisible.ofDigit {c : Char} (digit : isAsciiDigit c = true) : IsVisible c := by
  have := toNat_of_isAsciiDigit digit
  exact ⟨by omega, by omega⟩

theorem IsVisible.isBlank {c : Char} (visible : IsVisible c) : isBlank c = false := by
  obtain ⟨low, high⟩ := visible
  simp only [Text.isBlank, blankRanges, List.any_cons, List.any_nil, Bool.or_eq_false_iff,
    Bool.and_eq_false_iff, decide_eq_false_iff_not, and_true]
  omega

theorem IsVisible.isPlainBlank {c : Char} (visible : IsVisible c) : isPlainBlank c = false := by
  have noSpace : c ≠ ' ' := by
    rintro rfl
    exact absurd visible.1 (by decide)
  have noControl : ¬ c ≤ '\r' := fun control => by
    have : c.toNat ≤ 13 := by simpa [Char.le_def, UInt32.le_iff_toNat_le] using control
    have := visible.1
    omega
  simp [Text.isPlainBlank, noSpace, noControl]

theorem IsVisible.plainChar {c : Char} (visible : IsVisible c) : plainChar c = c := by
  have : c.toNat < 128 := Nat.lt_succ_of_lt visible.2
  simp [Text.plainChar, this]

theorem dropWhile_of_visible {blank : Char → Bool} (apart : ∀ c, IsVisible c → blank c = false)
    {cs : List Char} (visible : ∀ c ∈ cs, IsVisible c) : cs.dropWhile blank = cs := by
  cases cs with
  | nil => rfl
  | cons c cs => simp [apart c (visible c List.mem_cons_self)]

theorem stripped_of_visible {blank : Char → Bool} (apart : ∀ c, IsVisible c → blank c = false)
    {cs : List Char} (visible : ∀ c ∈ cs, IsVisible c) :
    ((cs.dropWhile blank).reverse.dropWhile blank).reverse = cs := by
  have reversed : ∀ c ∈ cs.reverse, IsVisible c := fun c mem => visible c (List.mem_reverse.1 mem)
  rw [dropWhile_of_visible apart visible, dropWhile_of_visible apart reversed, List.reverse_reverse]

theorem strip_of_visible {cs : List Char} (visible : ∀ c ∈ cs, IsVisible c) : strip cs = cs :=
  stripped_of_visible (fun _ => IsVisible.isBlank) visible

theorem plainNumeral_of_visible {cs : List Char} (visible : ∀ c ∈ cs, IsVisible c) :
    plainNumeral (String.ofList cs) = cs := by
  have same : cs.map plainChar = cs :=
    (List.map_congr_left fun c mem => (visible c mem).plainChar).trans (List.map_id' cs)
  simp only [plainNumeral, String.toList_ofList, same]
  exact stripped_of_visible (fun _ => IsVisible.isPlainBlank) visible

theorem separated?_digits {ds : List Char} (digits : ∀ c ∈ ds, isAsciiDigit c = true)
    (needDigit : Bool) (full : needDigit = true → ds ≠ []) :
    separated? isAsciiDigit needDigit ds = some (ds, []) := by
  induction ds generalizing needDigit with
  | nil =>
    cases needDigit with
    | false => rfl
    | true => exact absurd rfl (full rfl)
  | cons d ds ih =>
    have rest := ih (fun c mem => digits c (.tail d mem)) false nofun
    simp [separated?, digits d List.mem_cons_self, rest]

theorem splitSign_of_ne {c : Char} {cs : List Char} (noMinus : c ≠ '-') (noPlus : c ≠ '+') :
    splitSign (c :: cs) = (false, c :: cs) := by
  unfold splitSign
  split <;> simp_all

theorem readInteger_digits {ds : List Char} (full : ds ≠ [])
    (digits : ∀ c ∈ ds, isAsciiDigit c = true) :
    readInteger (String.ofList ds) =
      if digitLimit < ds.length then .error (.tooLong ds.length) else .ok (Decimal.value ds) := by
  have read := separated?_digits digits true fun _ => full
  obtain ⟨d, rest, rfl⟩ := List.exists_cons_of_ne_nil full
  have first : isAsciiDigit d = true := digits d List.mem_cons_self
  have noMinus : d ≠ '-' := by
    rintro rfl
    cases first
  have noPlus : d ≠ '+' := by
    rintro rfl
    cases first
  rw [readInteger, plainNumeral_of_visible fun c mem => .ofDigit (digits c mem),
    splitSign_of_ne noMinus noPlus]
  simp [separatedDigits?, read]

theorem readInteger_of_not_digit {c : Char} {cs : List Char}
    (visible : ∀ d ∈ c :: cs, IsVisible d) (noSign : c ≠ '-' ∧ c ≠ '+')
    (noDigit : isAsciiDigit c = false) :
    readInteger (String.ofList (c :: cs)) = .error .malformed := by
  rw [readInteger, plainNumeral_of_visible visible, splitSign_of_ne noSign.1 noSign.2]
  simp [separatedDigits?, separated?, noDigit]

end StateFlow.Text
