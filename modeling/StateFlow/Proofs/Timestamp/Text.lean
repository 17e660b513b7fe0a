import StateFlow.Proofs.Decimal
import StateFlow.Proofs.Timestamp.Instant
import StateFlow.Proofs.Timestamp.Standard

/-!
Timestamps as texts and back. The text of a timestamp has a spelling whose fields are filled up with
zeros, a date-time of RFC 3339; `parse_text` says that it is read as the timestamp again.
-/
namespace StateFlow.Timestamp

structure IsReal (t : Timestamp) : Prop where
  year : 1 ≤ t.date.year ∧ t.date.year ≤ 9999
  date : t.date.IsReal
  hour : t.hour ≤ 23
  minute : t.minute ≤ 59
  second : t.second ≤ 59
  micros : t.micros < 1000000
  offset : t.offsetMinutes.natAbs < 1440

def spelling (t : Timestamp) : Spelling where
  year := Decimal.padded 4 t.date.year.toNat
  month := Decimal.padded 2 t.date.month
  day := Decimal.padded 2 t.date.day
  mark := 'T'
  hour := Decimal.padded 2 t.hour
  minute := Decimal.padded 2 t.minute
  second := Decimal.padded 2 t.second
  fraction := if t.micros = 0 then [] else Decimal.padded 6 t.micros
  zone := .offset (t.offsetMinutes < 0) (Decimal.padded 2 (t.offsetMinutes.natAbs / 60))
    (Decimal.padded 2 (t.offsetMinutes.natAbs % 60))

theorem number_eq_value {cs : List Char} (ascii : ∀ c ∈ cs, Text.isAsciiDigit c = true) :
    number cs = Decimal.value cs := by
  have onto (v : Nat) : cs.foldl (fun v c => 10 * v + (Text.digit? c).getD 0) v =
      cs.foldl (fun v c => 10 * v + Decimal.digitValue c) v := by
    refine List.foldl_ext _ _ _ fun v c mem => ?_
    have digit : '0' ≤ c ∧ c ≤ '9' := by simpa [Text.isAsciiDigit] using ascii c mem
    rw [Text.digit?_ascii digit]
    rfl
  exact onto 0

theorem number_padded (width n : Nat) : number (Decimal.padded width n) = n := by
  rw [number_eq_value fun _ => Decimal.isAsciiDigit_of_mem_padded, Decimal.value_padded]

theorem isPlainField_padded {width n : Nat} (positive : 0 < width)
    (bound : n < Nat.pow 10 width) : IsPlainField width (Decimal.padded width n) :=
  ⟨Decimal.length_padded positive bound, fun _ => Decimal.isAsciiDigit_of_mem_padded⟩

theorem isPlainField_two {n : Nat} (bound : n < 100) : IsPlainField 2 (Decimal.padded 2 n) :=
  isPlainField_padded (by decide) bound

theorem padded_ne_nil (width n : Nat) : Decimal.padded width n ≠ [] :=
  List.append_ne_nil_of_right_ne_nil _ (Decimal.digits_ne_nil n)

theorem chars_spelling (t : Timestamp) : t.spelling.chars = t.text := by
  have fraction : (if t.spelling.fraction = [] then [] else '.' :: t.spelling.fraction) =
      if t.micros = 0 then [] else '.' :: Decimal.padded 6 t.micros := by
    by_cases none : t.micros = 0
    · simp only [spelling, none, if_true]
    · simp only [spelling, none, if_false, padded_ne_nil]
  rw [Spelling.chars, Spelling.tail, fraction]
  simp [Spelling.date, Spelling.clock, Zone.chars, spelling, text]

theorem isVisible_text (t : Timestamp) : ∀ c ∈ t.text, Text.IsVisible c := by
  have field (width n : Nat) : ∀ c ∈ Decimal.padded width n, Text.IsVisible c :=
    fun c mem => .ofDigit (Decimal.isAsciiDigit_of_mem_padded mem)
  have hyphen : Text.IsVisible '-' := by decide
  have colon : Text.IsVisible ':' := by decide
  have letter : Text.IsVisible 'T' := by decide
  have point : Text.IsVisible '.' := by decide
  have plus : Text.IsVisible '+' := by decide
  have fraction : ∀ c ∈ if t.micros = 0 then [] else '.' :: Decimal.padded 6 t.micros,
      Text.IsVisible c := by
    split
    · exact List.forall_mem_nil _
    · exact List.forall_mem_cons.2 ⟨point, field _ _⟩
  have sign : Text.IsVisible (if t.offsetMinutes < 0 then '-' else '+') := by
    split
    · exact hyphen
    · exact plus
  simp only [text, List.forall_mem_append, List.forall_mem_cons, and_assoc]
  exact ⟨field _ _, hyphen, field _ _, hyphen, field _ _, letter, field _ _, colon, field _ _, colon,
    field _ _, fraction, sign, field _ _, colon, field _ _⟩

theorem point_mem_text_iff (t : Timestamp) : '.' ∈ t.text ↔ t.micros ≠ 0 := by
  have apart (width n : Nat) : '.' ∉ Decimal.padded width n := fun mem =>
    absurd (Decimal.isAsciiDigit_of_mem_padded mem) (by decide)
  have sign : '.' ≠ if t.offsetMinutes < 0 then '-' else '+' := by split <;> decide
  by_cases none : t.micros = 0
  · simp [text, none, apart, sign]
  · simp [text, none, apart, sign]

section real

variable {t : Timestamp} (real : t.IsReal)

include real

theorem number_year : (number t.spelling.year : Int) = t.date.year := by
  have positive := real.year.1
  rw [spelling, number_padded]
  omega

theorem isReal_spelling : t.spelling.IsReal where
  year := by
    have year := number_year real
    have range := real.year
    omega
  month := by
    rw [spelling, number_padded]
    exact real.date.month
  day := by
    rw [number_year real, spelling, number_padded, number_padded]
    exact real.date.day
  hour := by
    rw [spelling, number_padded]
    exact real.hour
  minute := by
    rw [spelling, number_padded]
    exact real.minute
  second := by
    rw [spelling, number_padded]
    exact real.second

theorem isStandard_spelling : t.spelling.IsStandard where
  year := isPlainField_padded (by decide) (by have := real.year.2; change _ < 10000; omega)
  month := isPlainField_two (by have := real.date.month.2; omega)
  day := isPlainField_two (by
    have inside := real.date.day.2
    have short := Date.daysInMonth_le t.date.year t.date.month
    omega)
  mark := .inl rfl
  hour := isPlainField_two (by have := real.hour; omega)
  minute := isPlainField_two (by have := real.minute; omega)
  second := isPlainField_two (by have := real.second; omega)
  fraction := by
    intro c mem
    simp only [spelling] at mem
    split at mem
    · cases mem
    · exact Decimal.isAsciiDigit_of_mem_padded mem
  zone := by
    have offset := real.offset
    exact ⟨isPlainField_two (by omega), isPlainField_two (by omega)⟩
  real := isReal_spelling real
  offset := by
    have offset := real.offset
    simp only [spelling, Zone.hour, Zone.minute, number_padded]
    omega

theorem isDateTime_text : IsDateTime t.text :=
  ⟨t.spelling, isStandard_spelling real, chars_spelling t⟩

theorem micros_spelling : t.spelling.timestamp.micros = t.micros := by
  rw [Spelling.micros_eq, spelling]
  by_cases none : t.micros = 0
  · simp [none, number]
  · have six : (Decimal.padded 6 t.micros).length = 6 :=
      Decimal.length_padded (by decide) real.micros
    rw [if_neg none, List.take_of_length_le six.le, six, number_padded, Nat.sub_self, pow_zero,
      Nat.mul_one]

theorem timestamp_spelling : t.spelling.timestamp = t := by
  have micros := micros_spelling real
  have minutes : t.spelling.zone.minutes = t.offsetMinutes := by
    simp only [spelling, Zone.minutes, number_padded, decide_eq_true_eq]
    split <;> omega
  simp only [Spelling.timestamp] at micros ⊢
  rw [micros, minutes, number_year real]
  simp only [spelling, number_padded]

theorem parse_text : parse (.str (String.ofList t.text)) = .ok t := by
  have standard := isStandard_spelling real
  have writes : Writes (String.ofList t.text) t.spelling :=
    ⟨(isStandard_iff.1 standard).1, by
      rw [String.toList_ofList, Text.strip_of_visible (isVisible_text t), chars_spelling]⟩
  exact parse_eq_ok_iff.2 ⟨t.spelling, writes, standard.isSound, timestamp_spelling real⟩

end real

end StateFlow.Timestamp
