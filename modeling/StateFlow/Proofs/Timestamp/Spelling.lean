import Mathlib.Data.List.Basic
import Mathlib.Data.List.TakeDrop
import Mathlib.Data.List.TakeWhile
import Mathlib.Tactic.SplitIfs
import StateFlow.Proofs.Timestamp.Field

/-!
Timestamps as they are written. A `Spelling` keeps the digits of each field, and a text has at most
one (`Writes.unique`). `parse_eq_ok_iff` tells which texts are read, and as which timestamps: those
with a spelling whose fields are in range.
-/
namespace StateFlow.Timestamp

/-- An offset from universal time, with a mark or in hours and minutes. -/
inductive Zone where
  | universal (mark : Char)
  | offset (west : Bool) (hour minute : List Char)

/-- The digits of the fields; a timestamp without a fraction has none there. -/
structure Spelling where
  year : List Char
  month : List Char
  day : List Char
  mark : Char
  hour : List Char
  minute : List Char
  second : List Char
  fraction : List Char
  zone : Zone

def Zone.chars : Zone → List Char
  | .universal mark => [mark]
  | .offset west hour minute => (if west then '-' else '+') :: hour ++ ':' :: minute

def Zone.minutes : Zone → Int
  | .universal _ => 0
  | .offset west hour minute =>
    let minutes : Int := 60 * number hour + number minute
    if west then -minutes else minutes

def IsField (length : Nat) (cs : List Char) : Prop :=
  cs.length = length ∧ ∀ c ∈ cs, Text.isDecimal c = true

def Zone.IsShaped : Zone → Prop
  | .universal mark => mark = 'Z' ∨ mark = 'z'
  | .offset _ hour minute => IsField 2 hour ∧ IsField 2 minute

namespace Spelling

def date (s : Spelling) : List Char := s.year ++ '-' :: s.month ++ '-' :: s.day

def clock (s : Spelling) : List Char := s.hour ++ ':' :: s.minute ++ ':' :: s.second

def tail (s : Spelling) : List Char :=
  (if s.fraction = [] then [] else '.' :: s.fraction) ++ s.zone.chars

def chars (s : Spelling) : List Char := s.date ++ s.mark :: s.clock ++ s.tail

structure IsShaped (s : Spelling) : Prop where
  year : IsField 4 s.year
  month : IsField 2 s.month
  day : IsField 2 s.day
  mark : s.mark = 'T' ∨ s.mark = 't'
  hour : IsField 2 s.hour
  minute : IsField 2 s.minute
  second : IsField 2 s.second
  fraction : ∀ c ∈ s.fraction, Text.isDecimal c = true
  zone : s.zone.IsShaped

def fractionDigits (s : Spelling) : List Char :=
  if s.fraction.isEmpty then ['0'] else s.fraction.take 6

def parts (s : Spelling) : Parts := ⟨s.date, s.clock, '.' :: s.fractionDigits, s.zone.chars⟩

end Spelling

theorem hasShape_nil_iff {cs : List Char} : hasShape [] cs = true ↔ cs = [] := by
  cases cs <;> simp [hasShape]

theorem hasShape_cons_iff {s : Char} (verbatim : s ≠ 'd') {shape cs : List Char} :
    hasShape (s :: shape) cs = true ↔ ∃ rest, cs = s :: rest ∧ hasShape shape rest = true := by
  cases cs with
  | nil => simp [hasShape]
  | cons c cs =>
    simp only [hasShape, if_neg verbatim, Bool.and_eq_true, beq_iff_eq, List.cons.injEq]
    constructor
    · rintro ⟨rfl, shaped⟩
      exact ⟨cs, ⟨rfl, rfl⟩, shaped⟩
    · rintro ⟨_, ⟨rfl, rfl⟩, shaped⟩
      exact ⟨rfl, shaped⟩

theorem hasShape_digits_iff {n : Nat} {shape cs : List Char} :
    hasShape (List.replicate n 'd' ++ shape) cs = true ↔
      ∃ field rest, cs = field ++ rest ∧ IsField n field ∧ hasShape shape rest = true := by
  induction n generalizing cs with
  | zero =>
    constructor
    · intro shaped
      exact ⟨[], cs, rfl, ⟨rfl, List.forall_mem_nil _⟩, shaped⟩
    · rintro ⟨field, rest, rfl, ⟨length, -⟩, shaped⟩
      rw [List.length_eq_zero_iff.1 length]
      exact shaped
  | succ n ih =>
    rw [List.replicate_succ, List.cons_append]
    constructor
    · intro shaped
      cases cs with
      | nil => cases shaped
      | cons c cs =>
        obtain ⟨digit, shaped⟩ : Text.isDecimal c = true ∧
            hasShape (List.replicate n 'd' ++ shape) cs = true := by simpa [hasShape] using shaped
        obtain ⟨field, rest, rfl, ⟨length, digits⟩, shaped⟩ := ih.1 shaped
        exact ⟨c :: field, rest, rfl,
          ⟨congrArg (· + 1) length, List.forall_mem_cons.2 ⟨digit, digits⟩⟩, shaped⟩
    · rintro ⟨field, rest, rfl, ⟨length, digits⟩, shaped⟩
      obtain ⟨c, field, rfl⟩ := List.exists_cons_of_length_eq_add_one length
      obtain ⟨digit, digits⟩ := List.forall_mem_cons.1 digits
      have others : hasShape (List.replicate n 'd' ++ shape) (field ++ rest) = true :=
        ih.2 ⟨field, rest, rfl, ⟨Nat.succ_inj.1 length, digits⟩, shaped⟩
      simpa [hasShape, digit] using others

theorem hasShape_three_iff {n : Nat} {separator : Char} (verbatim : separator ≠ 'd')
    {cs : List Char} :
    hasShape (List.replicate n 'd' ++ separator :: (List.replicate 2 'd' ++ separator ::
        (List.replicate 2 'd' ++ []))) cs = true ↔
      ∃ a b c, IsField n a ∧ IsField 2 b ∧ IsField 2 c ∧
        cs = a ++ separator :: b ++ separator :: c := by
  simp only [hasShape_digits_iff, hasShape_cons_iff verbatim, hasShape_nil_iff]
  constructor
  · rintro ⟨a, _, rfl, first, _, rfl, b, _, rfl, second, _, rfl, c, _, rfl, third, rfl⟩
    exact ⟨a, b, c, first, second, third, by simp⟩
  · rintro ⟨a, b, c, first, second, third, rfl⟩
    exact ⟨a, _, List.append_assoc .., first, _, rfl, b, _, rfl, second, _, rfl, c, [],
      (List.append_nil c).symm, third, rfl⟩

theorem hasShape_date_iff {cs : List Char} :
    hasShape "dddd-dd-dd".toList cs = true ↔
      ∃ year month day, IsField 4 year ∧ IsField 2 month ∧ IsField 2 day ∧
        cs = year ++ '-' :: month ++ '-' :: day :=
  hasShape_three_iff (n := 4) (show '-' ≠ 'd' by decide)

theorem hasShape_clock_iff {cs : List Char} :
    hasShape "dd:dd:dd".toList cs = true ↔
      ∃ hour minute second, IsField 2 hour ∧ IsField 2 minute ∧ IsField 2 second ∧
        cs = hour ++ ':' :: minute ++ ':' :: second :=
  hasShape_three_iff (n := 2) (show ':' ≠ 'd' by decide)

theorem hasShape_offset_iff {sign : Char} (verbatim : sign ≠ 'd') {cs : List Char} :
    hasShape (sign :: "dd:dd".toList) cs = true ↔
      ∃ hour minute, IsField 2 hour ∧ IsField 2 minute ∧ cs = sign :: hour ++ ':' :: minute := by
  have shape : sign :: "dd:dd".toList =
      sign :: (List.replicate 2 'd' ++ ':' :: (List.replicate 2 'd' ++ [])) := rfl
  rw [shape]
  simp only [hasShape_cons_iff verbatim, hasShape_digits_iff,
    hasShape_cons_iff (show ':' ≠ 'd' by decide), hasShape_nil_iff]
  constructor
  · rintro ⟨_, rfl, hour, _, rfl, first, _, rfl, minute, _, rfl, second, rfl⟩
    exact ⟨hour, minute, first, second, by simp⟩
  · rintro ⟨hour, minute, first, second, rfl⟩
    exact ⟨_, rfl, hour, _, rfl, first, _, rfl, minute, [], (List.append_nil minute).symm, second,
      rfl⟩

theorem zoneFits_iff {cs : List Char} :
    zoneFits cs = true ↔ ∃ zone : Zone, zone.IsShaped ∧ zone.chars = cs := by
  have plus : hasShape "+dd:dd".toList cs = true ↔ _ :=
    hasShape_offset_iff (show '+' ≠ 'd' by decide)
  have minus : hasShape "-dd:dd".toList cs = true ↔ _ :=
    hasShape_offset_iff (show '-' ≠ 'd' by decide)
  simp only [zoneFits, Bool.or_eq_true, beq_iff_eq, plus, minus]
  constructor
  · rintro (((rfl | rfl) | ⟨hour, minute, first, second, rfl⟩) |
      ⟨hour, minute, first, second, rfl⟩)
    · exact ⟨.universal 'Z', .inl rfl, rfl⟩
    · exact ⟨.universal 'z', .inr rfl, rfl⟩
    · exact ⟨.offset false hour minute, ⟨first, second⟩, rfl⟩
    · exact ⟨.offset true hour minute, ⟨first, second⟩, rfl⟩
  · rintro ⟨_ | ⟨west, hour, minute⟩, shaped, rfl⟩
    · rcases shaped with rfl | rfl
      · exact .inl (.inl (.inl rfl))
      · exact .inl (.inl (.inr rfl))
    · obtain ⟨first, second⟩ := shaped
      cases west with
      | false => exact .inl (.inr ⟨hour, minute, first, second, rfl⟩)
      | true => exact .inr ⟨hour, minute, first, second, rfl⟩

theorem length_date {s : Spelling} (shaped : s.IsShaped) : s.date.length = 10 := by
  simp [Spelling.date, shaped.year.1, shaped.month.1, shaped.day.1]

theorem length_clock {s : Spelling} (shaped : s.IsShaped) : s.clock.length = 8 := by
  simp [Spelling.clock, shaped.hour.1, shaped.minute.1, shaped.second.1]

theorem Zone.IsShaped.head {zone : Zone} (shaped : zone.IsShaped) :
    ∃ c rest, zone.chars = c :: rest ∧ Text.isDecimal c = false ∧ c ≠ '.' := by
  cases zone with
  | universal mark => rcases shaped with rfl | rfl <;> exact ⟨_, _, rfl, rfl, by decide⟩
  | offset west hour minute => cases west <;> exact ⟨_, _, rfl, rfl, by decide⟩

def splitTail (rest : List Char) : List Char × List Char :=
  match rest with
  | '.' :: rest => rest.span Text.isDecimal
  | _ => ([], rest)

theorem splitTail_of_ne {c : Char} (noPoint : c ≠ '.') (rest : List Char) :
    splitTail (c :: rest) = ([], c :: rest) := by
  unfold splitTail
  split
  · next same =>
    cases same
    exact absurd rfl noPoint
  · rfl

theorem splitTail_spelling {s : Spelling} (shaped : s.IsShaped) :
    splitTail s.tail = (s.fraction, s.zone.chars) := by
  obtain ⟨c, rest, zone, noDigit, noPoint⟩ := shaped.zone.head
  unfold Spelling.tail
  split
  · next none => rw [none, zone, List.nil_append, splitTail_of_ne noPoint]
  · next some =>
    change (s.fraction ++ s.zone.chars).span Text.isDecimal = _
    rw [List.span_eq_takeWhile_dropWhile, zone, List.takeWhile_append_of_pos shaped.fraction,
      List.dropWhile_append_of_pos shaped.fraction]
    simp [noDigit]

theorem parts?_eq_some_iff {cs : List Char} {parts : Parts} :
    parts? cs = some parts ↔
      hasShape "dddd-dd-dd".toList (cs.take 10) = true ∧
      (cs[10]? = some 'T' ∨ cs[10]? = some 't') ∧
      hasShape "dd:dd:dd".toList ((cs.drop 11).take 8) = true ∧
      zoneFits (splitTail (cs.drop 19)).2 = true ∧
      ((cs.drop 19).head? = some '.' → (splitTail (cs.drop 19)).1 ≠ []) ∧
      ⟨cs.take 10, (cs.drop 11).take 8, '.' :: (if (splitTail (cs.drop 19)).1.isEmpty then ['0']
        else (splitTail (cs.drop 19)).1.take 6), (splitTail (cs.drop 19)).2⟩ = parts := by
  have opened : parts? cs =
      if hasShape "dddd-dd-dd".toList (cs.take 10) && (cs[10]? == some 'T' || cs[10]? == some 't')
        && hasShape "dd:dd:dd".toList ((cs.drop 11).take 8) && zoneFits (splitTail (cs.drop 19)).2
        && !((cs.drop 19).head? == some '.' && (splitTail (cs.drop 19)).1.isEmpty)
      then some _ else none := rfl
  rw [opened, Option.ite_none_right_eq_some, Option.some_inj]
  simp only [Bool.and_eq_true, Bool.or_eq_true, beq_iff_eq, Bool.not_eq_true', and_assoc,
    Bool.and_eq_false_imp, List.isEmpty_eq_false_iff]
  rfl

theorem chars_eq (s : Spelling) : s.chars = s.date ++ s.mark :: (s.clock ++ s.tail) := by
  simp [Spelling.chars]

theorem parts?_spelling {s : Spelling} (shaped : s.IsShaped) : parts? s.chars = some s.parts := by
  have date : s.chars.take 10 = s.date := by
    rw [chars_eq, List.take_left' (length_date shaped)]
  have mark : s.chars[10]? = some s.mark := by
    rw [chars_eq, List.getElem?_append_right (Nat.le_of_eq (length_date shaped)),
      length_date shaped]
    rfl
  have behindMark : s.chars.drop 11 = s.clock ++ s.tail := by
    rw [chars_eq, ← List.singleton_append, ← List.append_assoc]
    exact List.drop_left' (by simp [length_date shaped])
  have clock : (s.chars.drop 11).take 8 = s.clock := by
    rw [behindMark, List.take_left' (length_clock shaped)]
  have tail : s.chars.drop 19 = s.tail := by
    rw [← List.drop_drop (i := 8) (j := 11), behindMark, List.drop_left' (length_clock shaped)]
  rw [parts?_eq_some_iff, date, mark, clock, tail, splitTail_spelling shaped]
  refine ⟨hasShape_date_iff.2 ⟨_, _, _, shaped.year, shaped.month, shaped.day, rfl⟩, ?_,
    hasShape_clock_iff.2 ⟨_, _, _, shaped.hour, shaped.minute, shaped.second, rfl⟩,
    zoneFits_iff.2 ⟨_, shaped.zone, rfl⟩, ?_, rfl⟩
  · simpa using shaped.mark
  · intro point none
    obtain ⟨c, rest, zone, -, noPoint⟩ := shaped.zone.head
    rw [Spelling.tail, if_pos none, zone] at point
    exact noPoint (Option.some_inj.1 point)

theorem eq_of_splitTail {rest : List Char}
    (full : rest.head? = some '.' → (splitTail rest).1 ≠ []) :
    (∀ c ∈ (splitTail rest).1, Text.isDecimal c = true) ∧
      rest = (if (splitTail rest).1 = [] then [] else '.' :: (splitTail rest).1) ++
        (splitTail rest).2 := by
  unfold splitTail at full ⊢
  split
  · next rest =>
    have some : (rest.span Text.isDecimal).1 ≠ [] := full rfl
    rw [List.span_eq_takeWhile_dropWhile] at some ⊢
    refine ⟨fun c mem => List.all_eq_true.1 List.all_takeWhile c mem, ?_⟩
    rw [if_neg some, List.cons_append, List.takeWhile_append_dropWhile]
  · exact ⟨List.forall_mem_nil _, rfl⟩

theorem exists_spelling {cs : List Char} {parts : Parts} (read : parts? cs = some parts) :
    ∃ s : Spelling, s.IsShaped ∧ s.chars = cs := by
  obtain ⟨date, mark, clock, zoned, full, -⟩ := parts?_eq_some_iff.1 read
  obtain ⟨year, month, day, year_, month_, day_, date⟩ := hasShape_date_iff.1 date
  obtain ⟨hour, minute, second, hour_, minute_, second_, clock⟩ := hasShape_clock_iff.1 clock
  obtain ⟨zone, zone_, zoned⟩ := zoneFits_iff.1 zoned
  obtain ⟨digits, tail⟩ := eq_of_splitTail full
  obtain ⟨mark, mark_, isMark⟩ : ∃ mark, cs[10]? = some mark ∧ (mark = 'T' ∨ mark = 't') := by
    rcases mark with mark | mark
    · exact ⟨_, mark, .inl rfl⟩
    · exact ⟨_, mark, .inr rfl⟩
  let s : Spelling :=
    ⟨year, month, day, mark, hour, minute, second, (splitTail (cs.drop 19)).1, zone⟩
  refine ⟨s, ⟨year_, month_, day_, isMark, hour_, minute_, second_, digits, zone_⟩, ?_⟩
  have behindDate : cs.drop 10 = mark :: cs.drop 11 := by
    obtain ⟨inside, found⟩ := List.getElem?_eq_some_iff.1 mark_
    rw [List.drop_eq_getElem_cons inside, found]
  calc s.chars
    _ = s.date ++ mark :: (s.clock ++ s.tail) := chars_eq s
    _ = cs.take 10 ++ mark :: ((cs.drop 11).take 8 ++ cs.drop 19) := by
      rw [date, clock, tail, ← zoned]
      rfl
    _ = cs := by
      rw [← List.drop_drop (i := 8) (j := 11), List.take_append_drop, ← behindDate,
        List.take_append_drop]

namespace Spelling

/-- The fields are in range: what may stand in the two places of a field is checked there, and the
day, the second and the offset again as numbers. -/
structure IsSound (s : Spelling) : Prop where
  month : monthFits s.month = true
  day : dayFits s.day = true
  hour : hourFits s.hour = true
  minute : minuteFits s.minute = true
  second : secondFits s.second = true
  fraction : ∀ c ∈ s.fraction.take 6, Text.isAsciiDigit c = true
  year : number s.year ≠ 0
  date : number s.day ≤ Date.daysInMonth (number s.year) (number s.month)
  leap : number s.second ≤ 59
  offset : -1440 < s.zone.minutes ∧ s.zone.minutes < 1440

def timestamp (s : Spelling) : Timestamp where
  date := ⟨number s.year, number s.month, number s.day⟩
  hour := number s.hour
  minute := number s.minute
  second := number s.second
  micros := number s.fractionDigits * Nat.pow 10 (6 - s.fractionDigits.length)
  offsetMinutes := s.zone.minutes

end Spelling

theorem offsetOf_chars {zone : Zone} (shaped : zone.IsShaped) :
    offsetOf zone.chars = zone.minutes := by
  cases zone with
  | universal mark => rcases shaped with rfl | rfl <;> rfl
  | offset west hour minute =>
    obtain ⟨⟨hour_, -⟩, ⟨minute_, -⟩⟩ := shaped
    obtain ⟨a, b, rfl⟩ := List.length_eq_two.1 hour_
    obtain ⟨c, d, rfl⟩ := List.length_eq_two.1 minute_
    cases west <;> rfl

section sound

variable {s : Spelling} (shaped : s.IsShaped)

include shaped

theorem date_fields :
    s.date.take 4 = s.year ∧ (s.date.drop 5).take 2 = s.month ∧
      (s.date.drop 8).take 2 = s.day := by
  obtain ⟨_, _, _, _, year⟩ := List.length_eq_four.1 shaped.year.1
  obtain ⟨_, _, month⟩ := List.length_eq_two.1 shaped.month.1
  obtain ⟨_, _, day⟩ := List.length_eq_two.1 shaped.day.1
  simp [Spelling.date, year, month, day]

theorem clock_fields :
    s.clock.take 2 = s.hour ∧ (s.clock.drop 3).take 2 = s.minute ∧
      (s.clock.drop 6).take 2 = s.second := by
  obtain ⟨_, _, hour⟩ := List.length_eq_two.1 shaped.hour.1
  obtain ⟨_, _, minute⟩ := List.length_eq_two.1 shaped.minute.1
  obtain ⟨_, _, second⟩ := List.length_eq_two.1 shaped.second.1
  simp [Spelling.clock, hour, minute, second]

theorem fieldsFit_parts :
    fieldsFit s.parts = true ↔ monthFits s.month = true ∧ dayFits s.day = true ∧
      hourFits s.hour = true ∧ minuteFits s.minute = true ∧ secondFits s.second = true ∧
      (s.fractionDigits[0]?).any Text.isAsciiDigit = true := by
  obtain ⟨-, month, day⟩ := date_fields shaped
  obtain ⟨hour, minute, second⟩ := clock_fields shaped
  have opened : fieldsFit s.parts = (monthFits ((s.date.drop 5).take 2) &&
      dayFits ((s.date.drop 8).take 2) && hourFits (s.clock.take 2) &&
      minuteFits ((s.clock.drop 3).take 2) && secondFits ((s.clock.drop 6).take 2) &&
      (s.fractionDigits[0]?).any Text.isAsciiDigit) := rfl
  rw [opened, month, day, hour, minute, second]
  simp only [Bool.and_eq_true, and_assoc]

omit shaped in
theorem foreignDigits_parts :
    foreignDigits s.parts = [] ↔ ∀ c ∈ s.fractionDigits, Text.isAsciiDigit c = true := by
  have opened : foreignDigits s.parts = s.fractionDigits.dropWhile Text.isAsciiDigit := rfl
  rw [opened, List.dropWhile_eq_nil_iff]

omit shaped in
theorem fractionDigits_iff :
    (s.fractionDigits[0]?).any Text.isAsciiDigit = true ∧
        (∀ c ∈ s.fractionDigits, Text.isAsciiDigit c = true) ↔
      ∀ c ∈ s.fraction.take 6, Text.isAsciiDigit c = true := by
  unfold Spelling.fractionDigits
  cases s.fraction with
  | nil => simp [Text.isAsciiDigit]
  | cons c cs => simp

theorem ofParts_spelling_eq_ok_iff {t : Timestamp} :
    ofParts s.parts = .ok t ↔ s.IsSound ∧ s.timestamp = t := by
  obtain ⟨year, month, day⟩ := date_fields shaped
  obtain ⟨hour, minute, second⟩ := clock_fields shaped
  have opened : ofParts s.parts =
      if !fieldsFit s.parts then .error _
      else if !(foreignDigits s.parts).isEmpty then .error _
      else if number (s.date.take 4) = 0 then .error _
      else if Date.daysInMonth (number (s.date.take 4)) (number ((s.date.drop 5).take 2)) <
          number ((s.date.drop 8).take 2) then .error _
      else if 59 < number ((s.clock.drop 6).take 2) then .error _
      else if offsetOf s.zone.chars ≤ -1440 ∨ 1440 ≤ offsetOf s.zone.chars then .error _
      else .ok ⟨⟨number (s.date.take 4), number ((s.date.drop 5).take 2),
          number ((s.date.drop 8).take 2)⟩, number (s.clock.take 2),
        number ((s.clock.drop 3).take 2), number ((s.clock.drop 6).take 2),
        s.timestamp.micros, offsetOf s.zone.chars⟩ := rfl
  rw [opened, year, month, day, hour, minute, second, offsetOf_chars shaped.zone]
  constructor
  · intro read
    split_ifs at read with misfit foreign zero late leap wide
    cases read
    obtain ⟨month, day, hour, minute, second, some⟩ :=
      (fieldsFit_parts shaped).1 (by simpa using misfit)
    have digits := fractionDigits_iff.1 ⟨some, foreignDigits_parts.1 (by simpa using foreign)⟩
    exact ⟨⟨month, day, hour, minute, second, digits, zero, Nat.not_lt.1 late,
      Nat.not_lt.1 leap, by omega⟩, rfl⟩
  · rintro ⟨sound, rfl⟩
    obtain ⟨some, digits⟩ := fractionDigits_iff.2 sound.fraction
    have fits := (fieldsFit_parts shaped).2
      ⟨sound.month, sound.day, sound.hour, sound.minute, sound.second, some⟩
    have offset := sound.offset
    rw [if_neg (by simp [fits]), if_neg (by simp [foreignDigits_parts.2 digits]),
      if_neg sound.year, if_neg (Nat.not_lt.2 sound.date), if_neg (Nat.not_lt.2 sound.leap),
      if_neg (by omega)]
    rfl

end sound

structure Writes (text : String) (s : Spelling) : Prop where
  shaped : s.IsShaped
  chars : s.chars = Text.strip text.toList

theorem parse_of_writes {text : String} {s : Spelling} (writes : Writes text s) :
    parse (.str text) = ofParts s.parts := by
  rw [parse, ← writes.chars, parts?_spelling writes.shaped]

theorem parse_eq_ok_iff {text : String} {t : Timestamp} :
    parse (.str text) = .ok t ↔ ∃ s, Writes text s ∧ s.IsSound ∧ s.timestamp = t := by
  constructor
  · intro read
    cases split_ : parts? (Text.strip text.toList) with
    | none => simp [parse, split_] at read
    | some parts =>
      obtain ⟨s, shaped, chars⟩ := exists_spelling split_
      have writes : Writes text s := ⟨shaped, chars⟩
      rw [parse_of_writes writes] at read
      exact ⟨s, writes, (ofParts_spelling_eq_ok_iff shaped).1 read⟩
  · rintro ⟨s, writes, sound⟩
    rw [parse_of_writes writes]
    exact (ofParts_spelling_eq_ok_iff writes.shaped).2 sound

theorem isTimestamp_iff {text : String} :
    isTimestamp (.str text) = true ↔ ∃ s, Writes text s ∧ s.IsSound := by
  have accepted : isTimestamp (.str text) = true ↔ ∃ t, parse (.str text) = .ok t := by
    rw [isTimestamp]
    cases parse (.str text) <;> simp [Except.isOk, Except.toBool]
  rw [accepted]
  constructor
  · rintro ⟨t, read⟩
    obtain ⟨s, writes, sound, -⟩ := parse_eq_ok_iff.1 read
    exact ⟨s, writes, sound⟩
  · rintro ⟨s, writes, sound⟩
    exact ⟨s.timestamp, parse_eq_ok_iff.2 ⟨s, writes, sound, rfl⟩⟩

structure Spelling.IsReal (s : Spelling) : Prop where
  year : 1 ≤ number s.year ∧ number s.year ≤ 9999
  month : 1 ≤ number s.month ∧ number s.month ≤ 12
  day : 1 ≤ number s.day ∧ number s.day ≤ Date.daysInMonth (number s.year) (number s.month)
  hour : number s.hour ≤ 23
  minute : number s.minute ≤ 59
  second : number s.second ≤ 59

theorem Spelling.IsSound.isReal {s : Spelling} (shaped : s.IsShaped) (sound : s.IsSound) :
    s.IsReal where
  year := by
    have high := number_lt s.year
    rw [shaped.year.1] at high
    exact ⟨Nat.pos_of_ne_zero sound.year, Nat.le_of_lt_succ high⟩
  month := number_of_monthFits sound.month
  day := ⟨(number_of_dayFits sound.day).1, sound.date⟩
  hour := number_of_hourFits sound.hour
  minute := number_of_minuteFits sound.minute
  second := sound.leap

theorem Zone.eq_of_chars {zone other : Zone} (shaped : zone.IsShaped) (shaped' : other.IsShaped)
    (same : zone.chars = other.chars) : zone = other := by
  cases zone with
  | universal mark =>
    cases other with
    | universal mark' => rw [(List.cons.inj same).1]
    | offset west hour minute => simpa [Zone.chars] using congrArg List.length same
  | offset west hour minute =>
    cases other with
    | universal mark' => simpa [Zone.chars] using congrArg List.length same
    | offset west' hour' minute' =>
      obtain ⟨sign, fields⟩ := List.cons.inj same
      obtain ⟨rfl, rest⟩ := List.append_inj fields (shaped.1.1.trans shaped'.1.1.symm)
      obtain ⟨-, rfl⟩ := List.cons.inj rest
      cases west <;> cases west' <;> first | rfl | exact absurd sign (by decide)

theorem Spelling.eq_of_chars {s t : Spelling} (shaped : s.IsShaped) (shaped' : t.IsShaped)
    (same : s.chars = t.chars) : s = t := by
  rw [chars_eq, chars_eq] at same
  obtain ⟨date, rest⟩ :=
    List.append_inj same ((length_date shaped).trans (length_date shaped').symm)
  obtain ⟨mark, rest⟩ := List.cons.inj rest
  obtain ⟨clock, tail⟩ :=
    List.append_inj rest ((length_clock shaped).trans (length_clock shaped').symm)
  obtain ⟨year, month, day⟩ := date_fields shaped
  obtain ⟨year', month', day'⟩ := date_fields shaped'
  rw [date, year'] at year
  rw [date, month'] at month
  rw [date, day'] at day
  obtain ⟨hour, minute, second⟩ := clock_fields shaped
  obtain ⟨hour', minute', second'⟩ := clock_fields shaped'
  rw [clock, hour'] at hour
  rw [clock, minute'] at minute
  rw [clock, second'] at second
  have ends := splitTail_spelling shaped
  rw [tail, splitTail_spelling shaped'] at ends
  obtain ⟨fraction, zone⟩ := Prod.mk.inj ends
  have zone := Zone.eq_of_chars shaped'.zone shaped.zone zone
  cases s
  cases t
  rw [Spelling.mk.injEq]
  exact ⟨year.symm, month.symm, day.symm, mark, hour.symm, minute.symm, second.symm,
    fraction.symm, zone.symm⟩

theorem Writes.unique {text : String} {s t : Spelling} (writes : Writes text s)
    (writes' : Writes text t) : s = t :=
  Spelling.eq_of_chars writes.shaped writes'.shaped (writes.chars.trans writes'.chars.symm)

end StateFlow.Timestamp
