import StateFlow.Proofs.Calendar
import StateFlow.Proofs.Timestamp.Spelling

/-!
The date-times of RFC 3339 among the texts that are read as timestamps. All date-times are read;
`isDateTime_iff_accepted` tells what else is, digits of other scripts and offsets whose minutes are
more than 59.
-/
namespace StateFlow.Timestamp

def IsAscii (cs : List Char) : Prop := ∀ c ∈ cs, c.toNat < 128

def IsPlainField (length : Nat) (cs : List Char) : Prop :=
  cs.length = length ∧ ∀ c ∈ cs, Text.isAsciiDigit c = true

def Zone.hour : Zone → Nat
  | .universal _ => 0
  | .offset _ hour _ => number hour

def Zone.minute : Zone → Nat
  | .universal _ => 0
  | .offset _ _ minute => number minute

def Zone.IsPlain : Zone → Prop
  | .universal mark => mark = 'Z' ∨ mark = 'z'
  | .offset _ hour minute => IsPlainField 2 hour ∧ IsPlainField 2 minute

structure Spelling.IsStandard (s : Spelling) : Prop where
  year : IsPlainField 4 s.year
  month : IsPlainField 2 s.month
  day : IsPlainField 2 s.day
  mark : s.mark = 'T' ∨ s.mark = 't'
  hour : IsPlainField 2 s.hour
  minute : IsPlainField 2 s.minute
  second : IsPlainField 2 s.second
  fraction : ∀ c ∈ s.fraction, Text.isAsciiDigit c = true
  zone : s.zone.IsPlain
  real : s.IsReal
  offset : s.zone.hour ≤ 23 ∧ s.zone.minute ≤ 59

def IsDateTime (cs : List Char) : Prop := ∃ s : Spelling, s.IsStandard ∧ s.chars = cs

theorem isAsciiDigit_iff {c : Char} :
    Text.isAsciiDigit c = true ↔ Text.isDecimal c = true ∧ c.toNat < 128 := by
  constructor
  · intro digit
    have range := Text.toNat_of_isAsciiDigit digit
    have ascii : '0' ≤ c ∧ c ≤ '9' := by simpa [Text.isAsciiDigit] using digit
    exact ⟨by rw [Text.isDecimal, Text.digit?_ascii ascii, Option.isSome_some], by omega⟩
  · rintro ⟨decimal, ascii⟩
    rw [Text.isDecimal, Text.digit?, if_pos ascii] at decimal
    simpa [Text.isAsciiDigit] using decimal

theorem forall_isAsciiDigit_iff {cs : List Char} :
    (∀ c ∈ cs, Text.isAsciiDigit c = true) ↔ (∀ c ∈ cs, Text.isDecimal c = true) ∧ IsAscii cs := by
  simp only [isAsciiDigit_iff, IsAscii, forall_and]

theorem isPlainField_iff {length : Nat} {cs : List Char} :
    IsPlainField length cs ↔ IsField length cs ∧ IsAscii cs := by
  rw [IsPlainField, forall_isAsciiDigit_iff, IsField, and_assoc]

theorem isAscii_cons {c : Char} {cs : List Char} :
    IsAscii (c :: cs) ↔ c.toNat < 128 ∧ IsAscii cs := List.forall_mem_cons

theorem isAscii_append {cs ds : List Char} :
    IsAscii (cs ++ ds) ↔ IsAscii cs ∧ IsAscii ds := List.forall_mem_append

theorem Zone.isPlain_iff {zone : Zone} :
    zone.IsPlain ↔ zone.IsShaped ∧ IsAscii zone.chars := by
  cases zone with
  | universal mark =>
    constructor
    · intro plain
      refine ⟨plain, ?_⟩
      rcases plain with rfl | rfl <;> exact List.forall_mem_singleton.2 (by decide)
    · exact And.left
  | offset west hour minute =>
    have sign : (if west then '-' else '+').toNat < 128 := by cases west <;> decide
    have colon : ':'.toNat < 128 := by decide
    simp only [IsPlain, isPlainField_iff, IsShaped, Zone.chars, List.cons_append, isAscii_cons,
      isAscii_append, sign, colon, true_and]
    exact and_and_and_comm

theorem isAscii_tail_iff {s : Spelling} :
    IsAscii s.tail ↔ IsAscii s.fraction ∧ IsAscii s.zone.chars := by
  rw [Spelling.tail, isAscii_append]
  split
  · next none => rw [none]
  · rw [isAscii_cons, and_iff_right (show '.'.toNat < 128 by decide)]

theorem isAscii_chars_iff {s : Spelling} :
    IsAscii s.chars ↔ IsAscii s.year ∧ IsAscii s.month ∧ IsAscii s.day ∧ s.mark.toNat < 128 ∧
      IsAscii s.hour ∧ IsAscii s.minute ∧ IsAscii s.second ∧ IsAscii s.fraction ∧
      IsAscii s.zone.chars := by
  have hyphen : '-'.toNat < 128 := by decide
  have colon : ':'.toNat < 128 := by decide
  simp only [chars_eq, Spelling.date, Spelling.clock, List.cons_append, List.append_assoc,
    isAscii_cons, isAscii_append, isAscii_tail_iff, hyphen, colon, true_and]

theorem isStandard_iff {s : Spelling} :
    s.IsStandard ↔ s.IsShaped ∧ IsAscii s.chars ∧ s.IsReal ∧
      s.zone.hour ≤ 23 ∧ s.zone.minute ≤ 59 := by
  constructor
  · intro standard
    obtain ⟨year, year'⟩ := isPlainField_iff.1 standard.year
    obtain ⟨month, month'⟩ := isPlainField_iff.1 standard.month
    obtain ⟨day, day'⟩ := isPlainField_iff.1 standard.day
    obtain ⟨hour, hour'⟩ := isPlainField_iff.1 standard.hour
    obtain ⟨minute, minute'⟩ := isPlainField_iff.1 standard.minute
    obtain ⟨second, second'⟩ := isPlainField_iff.1 standard.second
    obtain ⟨fraction, fraction'⟩ := forall_isAsciiDigit_iff.1 standard.fraction
    obtain ⟨zone, zone'⟩ := Zone.isPlain_iff.1 standard.zone
    have mark : s.mark.toNat < 128 := by
      rcases standard.mark with mark | mark <;> rw [mark] <;> decide
    exact ⟨⟨year, month, day, standard.mark, hour, minute, second, fraction, zone⟩,
      isAscii_chars_iff.2
        ⟨year', month', day', mark, hour', minute', second', fraction', zone'⟩,
      standard.real, standard.offset⟩
  · rintro ⟨shaped, ascii, real, offset⟩
    obtain ⟨year, month, day, -, hour, minute, second, fraction, zone⟩ := isAscii_chars_iff.1 ascii
    exact {
      year := isPlainField_iff.2 ⟨shaped.year, year⟩
      month := isPlainField_iff.2 ⟨shaped.month, month⟩
      day := isPlainField_iff.2 ⟨shaped.day, day⟩
      mark := shaped.mark
      hour := isPlainField_iff.2 ⟨shaped.hour, hour⟩
      minute := isPlainField_iff.2 ⟨shaped.minute, minute⟩
      second := isPlainField_iff.2 ⟨shaped.second, second⟩
      fraction := forall_isAsciiDigit_iff.2 ⟨shaped.fraction, fraction⟩
      zone := Zone.isPlain_iff.2 ⟨shaped.zone, zone⟩
      real
      offset }

theorem Zone.natAbs_minutes (zone : Zone) :
    zone.minutes.natAbs = 60 * zone.hour + zone.minute := by
  cases zone with
  | universal mark => rfl
  | offset west hour minute => cases west <;> simp only [minutes, Zone.hour, Zone.minute] <;> omega

theorem secondFits_of_minuteFits {cs : List Char} (fits : minuteFits cs = true) :
    secondFits cs = true := by
  rcases cs with _ | ⟨a, _ | ⟨b, _ | _⟩⟩
  case cons.cons.nil => simp [secondFits, fits]
  all_goals cases fits

theorem Spelling.IsStandard.isSound {s : Spelling} (standard : s.IsStandard) : s.IsSound := by
  have real := standard.real
  have fits {cs : List Char} (plain : IsPlainField 2 cs) := fits_of_ascii plain.1 plain.2
  have absolute := s.zone.natAbs_minutes
  have offset := standard.offset
  exact {
    month := (fits standard.month).1 real.month
    day := (fits standard.day).2.1 ⟨real.day.1, real.day.2.trans (Date.daysInMonth_le _ _)⟩
    hour := (fits standard.hour).2.2.1 real.hour
    minute := (fits standard.minute).2.2.2 real.minute
    second := secondFits_of_minuteFits ((fits standard.second).2.2.2 real.second)
    fraction := fun c mem => standard.fraction c (List.mem_of_mem_take mem)
    year := Nat.pos_iff_ne_zero.1 real.year.1
    date := real.day.2
    leap := real.second
    offset := by omega }

theorem not_isDateTime {s : Spelling} (shaped : s.IsShaped) (deviant : ¬ s.IsStandard) :
    ¬ IsDateTime s.chars := by
  rintro ⟨s', standard, chars⟩
  have shaped' := (isStandard_iff.1 standard).1
  exact deviant (Spelling.eq_of_chars shaped' shaped chars ▸ standard)

def newYear (year : String) (zone : Zone) : Spelling :=
  ⟨year.toList, ['0', '1'], ['0', '1'], 'T', ['0', '0'], ['0', '0'], ['0', '0'], [], zone⟩

theorem isField_of_all {length : Nat} {cs : List Char} (same : cs.length = length)
    (digits : cs.all Text.isDecimal = true) : IsField length cs :=
  ⟨same, List.all_eq_true.1 digits⟩

theorem isShaped_newYear {year : String} {zone : Zone} (digits : IsField 4 year.toList)
    (shaped : zone.IsShaped) : (newYear year zone).IsShaped where
  year := digits
  month := isField_of_all rfl rfl
  day := isField_of_all rfl rfl
  mark := .inl rfl
  hour := isField_of_all rfl rfl
  minute := isField_of_all rfl rfl
  second := isField_of_all rfl rfl
  fraction := List.forall_mem_nil _
  zone := shaped

/-- Beside the date-times, what is accepted has a character that is not of ASCII, or an offset with
more than 59 minutes. -/
theorem isDateTime_iff_accepted (text : String) :
    IsDateTime (Text.strip text.toList) ↔
      isTimestamp (.str text) = true ∧ IsAscii (Text.strip text.toList) ∧
        ∃ s, Writes text s ∧ s.zone.minute ≤ 59 := by
  constructor
  · rintro ⟨s, standard, chars⟩
    obtain ⟨shaped, ascii, -, -, minute⟩ := isStandard_iff.1 standard
    have writes : Writes text s := ⟨shaped, chars⟩
    exact ⟨isTimestamp_iff.2 ⟨s, writes, standard.isSound⟩, chars ▸ ascii, s, writes, minute⟩
  · rintro ⟨accepted, ascii, s, writes, minute⟩
    obtain ⟨s', writes', sound⟩ := isTimestamp_iff.1 accepted
    obtain rfl := writes.unique writes'
    have absolute := s.zone.natAbs_minutes
    have offset := sound.offset
    have hour : s.zone.hour ≤ 23 := by omega
    exact ⟨s, isStandard_iff.2
      ⟨writes.shaped, writes.chars ▸ ascii, sound.isReal writes.shaped, hour, minute⟩, writes.chars⟩

/-- An offset of 99 minutes, and a year in digits of another script. -/
theorem accepted_no_dateTime :
    (isTimestamp (.str "2020-01-01T00:00:00+00:99") = true ∧
      ¬ IsDateTime (Text.strip "2020-01-01T00:00:00+00:99".toList)) ∧
    isTimestamp (.str "\u0662\u0660\u0662\u0660-01-01T00:00:00Z") = true ∧
      ¬ IsDateTime (Text.strip "\u0662\u0660\u0662\u0660-01-01T00:00:00Z".toList) := by
  refine ⟨⟨by decide, ?_⟩, by decide, ?_⟩
  · have shaped : (newYear "2020" (.offset false ['0', '0'] ['9', '9'])).IsShaped :=
      isShaped_newYear (isField_of_all rfl (by decide))
        ⟨isField_of_all rfl rfl, isField_of_all rfl rfl⟩
    exact not_isDateTime shaped fun standard => absurd standard.offset.2 (by decide)
  · have shaped : (newYear "\u0662\u0660\u0662\u0660" (.universal 'Z')).IsShaped :=
      isShaped_newYear (isField_of_all rfl (by decide)) (.inl rfl)
    exact not_isDateTime shaped fun standard =>
      absurd (List.all_eq_true.2 standard.year.2) (by decide)

end StateFlow.Timestamp
