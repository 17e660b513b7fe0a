import Mathlib.Data.String.Basic
import Mathlib.Order.WithBot
import StateFlow.Proofs.Number
import StateFlow.Proofs.Rule.Names

/-!
The comparators of a family as one order. Every family ranks the values that it takes: texts by
their characters, numbers by the rationals that they denote, with an infinity at each end, and
instants by their milliseconds. `comparators_are_coherent` says that the comparators ask for the
ranks only, so that they are one order, and that a comparator with a path asks the same as the one
with a literal.
-/
namespace StateFlow

namespace Number

def Place.rank : Place → WithBot (WithTop ℚ)
  | .below => ⊥
  | .ratio num shift => ((num / 2 ^ shift : ℚ) : WithTop ℚ)
  | .above => ((⊤ : WithTop ℚ) : WithBot (WithTop ℚ))

theorem compare_coe (p q : ℚ) :
    compare (((p : WithTop ℚ) : WithBot (WithTop ℚ))) ((q : WithTop ℚ) : WithBot (WithTop ℚ)) =
      compare p q := by
  rcases lt_trichotomy p q with less | rfl | greater
  · rw [compare_lt_iff_lt.2 less, compare_lt_iff_lt]
    exact_mod_cast less
  · rw [compare_eq_iff_eq.2 rfl, compare_eq_iff_eq.2 rfl]
  · rw [compare_gt_iff_gt.2 greater, compare_gt_iff_gt]
    exact_mod_cast greater

theorem Place.compare_eq_rank (a b : Place) : a.compare b = Ord.compare a.rank b.rank := by
  have low (q : WithTop ℚ) : (⊥ : WithBot (WithTop ℚ)) < q := WithBot.bot_lt_coe q
  have high (q : ℚ) : ((q : WithTop ℚ) : WithBot (WithTop ℚ)) < ((⊤ : WithTop ℚ)) :=
    WithBot.coe_lt_coe.2 (WithTop.coe_lt_top q)
  symm
  cases a with
  | below =>
    cases b with
    | below => exact compare_eq_iff_eq.2 rfl
    | ratio num shift => exact compare_lt_iff_lt.2 (low _)
    | above => exact compare_lt_iff_lt.2 (low _)
  | ratio num shift =>
    cases b with
    | below => exact compare_gt_iff_gt.2 (low _)
    | ratio other less =>
      exact (compare_coe _ _).trans (compare_shiftLeft num other shift less).symm
    | above => exact compare_lt_iff_lt.2 (high _)
  | above =>
    cases b with
    | below => exact compare_gt_iff_gt.2 (low _)
    | ratio num shift => exact compare_gt_iff_gt.2 (high _)
    | above => exact compare_eq_iff_eq.2 rfl

theorem compare?_eq_rank (x y : Number) :
    x.compare? y = (x.place?.map Place.rank).bind fun p =>
      (y.place?.map Place.rank).map fun q => Ord.compare p q := by
  cases first : x.place? <;> cases second : y.place? <;>
    simp [compare?, first, second, Place.compare_eq_rank]

end Number

namespace Operand

def relates (family : Family) (rel : Relation) (x y : Json) : Bool :=
  ((compare? family x y).map rel.holds).getD false

/-- A value that a family takes and that its order has a place for: a NaN has none. -/
def Fits (family : Family) (value : Json) : Prop :=
  ∃ coerced, coerce family value = .ok coerced ∧ coerced ≠ .number (.real .nan)

/-- The comparisons of a family are one order of the values that it takes, and are false of all
other values. -/
structure Coherent (family : Family) : Prop where
  misfit {x y : Json} (misfits : ¬ Fits family x ∨ ¬ Fits family y) (rel : Relation) :
    relates family rel x y = false
  exactlyOne {x y : Json} (first : Fits family x) (second : Fits family y) :
    ∃! rel, rel ∈ [Relation.lessThan, .equals, .greaterThan] ∧ relates family rel x y = true
  lessThanEquals (x y : Json) : relates family .lessThanEquals x y =
    (relates family .lessThan x y || relates family .equals x y)
  greaterThanEquals (x y : Json) : relates family .greaterThanEquals x y =
    (relates family .greaterThan x y || relates family .equals x y)
  converse (x y : Json) : relates family .lessThan x y = relates family .greaterThan y x
  equivalence : Equivalence fun x y : { value // Fits family value } =>
    relates family .equals x y = true
  transitive {x y z : Json} (first : relates family .lessThan x y = true)
    (second : relates family .lessThan y z = true) : relates family .lessThan x z = true

section ranks

theorem holds_lessThan_iff {α : Type} [LinearOrder α] {a b : α} :
    Relation.lessThan.holds (compare a b) = true ↔ a < b := by
  rw [Relation.holds, beq_iff_eq, compare_lt_iff_lt]

theorem holds_equals_iff {α : Type} [LinearOrder α] {a b : α} :
    Relation.equals.holds (compare a b) = true ↔ a = b := by
  rw [Relation.holds, beq_iff_eq, compare_eq_iff_eq]

theorem holds_swap (o : Ordering) :
    Relation.greaterThan.holds o.swap = Relation.lessThan.holds o := by
  cases o <;> rfl

/-- A family compares by ranks in a linear order, and takes the values that have one. -/
structure Ranks (family : Family) {α : Type} [LinearOrder α] (rank : Json → Option α) : Prop where
  compares (x y : Json) :
    compare? family x y = (rank x).bind fun a => (rank y).map fun b => compare a b
  fits_iff (value : Json) : Fits family value ↔ ∃ a, rank value = some a

variable {family : Family} {α : Type} [LinearOrder α] {rank : Json → Option α}
  (ranks : Ranks family rank)

include ranks

theorem Ranks.relates_eq {x y : Json} {a b : α} (first : rank x = some a)
    (second : rank y = some b) (rel : Relation) :
    relates family rel x y = rel.holds (compare a b) := by
  simp [relates, ranks.compares, first, second]

theorem Ranks.relates_of_misfit {x y : Json} (misfits : ¬ Fits family x ∨ ¬ Fits family y)
    (rel : Relation) : relates family rel x y = false := by
  simp only [ranks.fits_iff, ← Option.isSome_iff_exists, Option.not_isSome_iff_eq_none] at misfits
  rcases misfits with noRank | noRank
  · simp [relates, ranks.compares, noRank]
  · simp [relates, ranks.compares, noRank]

theorem Ranks.exists_rank {x y : Json} {rel : Relation} (related : relates family rel x y = true) :
    ∃ a b, rank x = some a ∧ rank y = some b ∧ rel.holds (compare a b) = true := by
  by_cases misfits : ¬ Fits family x ∨ ¬ Fits family y
  · simp [ranks.relates_of_misfit misfits] at related
  · obtain ⟨first, second⟩ := not_or.1 misfits
    obtain ⟨a, first⟩ := (ranks.fits_iff x).1 (not_not.1 first)
    obtain ⟨b, second⟩ := (ranks.fits_iff y).1 (not_not.1 second)
    exact ⟨a, b, first, second, ranks.relates_eq first second rel ▸ related⟩

theorem Ranks.coherent : Coherent family where
  misfit := ranks.relates_of_misfit
  exactlyOne := by
    intro x y first second
    obtain ⟨a, first⟩ := (ranks.fits_iff x).1 first
    obtain ⟨b, second⟩ := (ranks.fits_iff y).1 second
    simp only [ranks.relates_eq first second]
    cases compare a b with
    | lt => exact ⟨.lessThan, by decide, by rintro ⟨⟩ <;> decide⟩
    | eq => exact ⟨.equals, by decide, by rintro ⟨⟩ <;> decide⟩
    | gt => exact ⟨.greaterThan, by decide, by rintro ⟨⟩ <;> decide⟩
  lessThanEquals x y := by
    simp only [relates]
    rcases compare? family x y with _ | ⟨_ | _ | _⟩ <;> rfl
  greaterThanEquals x y := by
    simp only [relates]
    rcases compare? family x y with _ | ⟨_ | _ | _⟩ <;> rfl
  converse x y := by
    by_cases misfits : ¬ Fits family x ∨ ¬ Fits family y
    · rw [ranks.relates_of_misfit misfits, ranks.relates_of_misfit misfits.symm]
    · obtain ⟨first, second⟩ := not_or.1 misfits
      obtain ⟨a, first⟩ := (ranks.fits_iff x).1 (not_not.1 first)
      obtain ⟨b, second⟩ := (ranks.fits_iff y).1 (not_not.1 second)
      rw [ranks.relates_eq first second, ranks.relates_eq second first,
        Std.OrientedOrd.eq_swap (a := b), holds_swap]
  equivalence := by
    have equals {x y : { value // Fits family value }} :
        relates family .equals x y = true ↔ rank x = rank y := by
      obtain ⟨a, first⟩ := (ranks.fits_iff x).1 x.2
      obtain ⟨b, second⟩ := (ranks.fits_iff y).1 y.2
      rw [ranks.relates_eq first second, holds_equals_iff, first, second, Option.some_inj]
    exact ⟨fun x => equals.2 rfl, fun same => equals.2 (equals.1 same).symm,
      fun first second => equals.2 ((equals.1 first).trans (equals.1 second))⟩
  transitive {x y z} first second := by
    obtain ⟨a, b, x_, y_, less⟩ := ranks.exists_rank first
    obtain ⟨b', c, y_', z_, less'⟩ := ranks.exists_rank second
    obtain rfl := Option.some_inj.1 (y_.symm.trans y_')
    rw [holds_lessThan_iff] at less less'
    rw [ranks.relates_eq x_ z_, holds_lessThan_iff]
    exact less.trans less'

end ranks

theorem Ranks.of_reader {family : Family} {α β : Type} [LinearOrder α]
    {read : Json → Except CoercionError β} (wrap : β → Coerced) {place : β → Option α}
    (reads : ∀ value, coerce family value = (read value).map wrap)
    (compares : ∀ x y, compare? family x y =
      (read x).toOption.bind fun a => (read y).toOption.bind fun b =>
        (place a).bind fun p => (place b).map fun q => compare p q)
    (places : ∀ b, wrap b ≠ .number (.real .nan) ↔ ∃ p, place b = some p) :
    Ranks family fun value => (read value).toOption.bind place where
  compares x y := by
    rw [compares]
    cases read x with
    | error cause => rfl
    | ok a =>
      cases read y with
      | error cause => cases found : place a <;> simp [Except.toOption, found]
      | ok b => rfl
  fits_iff value := by
    rw [Fits, reads]
    cases read value with
    | error cause => simp [Except.map, Except.toOption]
    | ok b => simp [Except.map, Except.toOption, ← places]

theorem compareTexts_eq (s t : String) : compareTexts s t = compare s t := by
  unfold compareTexts
  rcases lt_trichotomy s t with less | same | greater
  · rw [compare_lt_iff_lt.2 less, if_neg less.ne, if_pos less]
  · rw [compare_eq_iff_eq.2 same, if_pos same]
  · rw [compare_gt_iff_gt.2 greater, if_neg greater.ne', if_neg greater.asymm]

theorem exists_place_iff (x : Number) :
    Coerced.number x ≠ .number (.real .nan) ↔ ∃ p, x.place?.map Number.Place.rank = some p := by
  rcases x with n | ⟨negative, m, e⟩ | _ | _ <;> simp [Number.place?]

theorem ranks_text : Ranks .text fun value => (text value).toOption.bind some :=
  .of_reader .text (fun _ => rfl) (fun x y => by simp [compare?, compareTexts_eq])
    (fun s => by simp)

theorem ranks_numeric :
    Ranks .numeric fun value =>
      (number value).toOption.bind fun x => x.place?.map Number.Place.rank :=
  .of_reader .number (fun _ => rfl)
    (fun x y => by simp [compare?, Number.compare?_eq_rank]) exists_place_iff

theorem ranks_timestamp : Ranks .timestamp fun value => (instant value).toOption.bind some :=
  .of_reader (fun millis => .number (.int millis)) (fun _ => rfl)
    (fun x y => by simp [compare?]) (fun millis => by simp)

theorem ranks_boolean : Ranks .boolean fun value => (boolean value).toOption.bind some :=
  .of_reader .boolean (fun _ => rfl) (fun x y => by simp [compare?])
    (fun b => by simp)

theorem coherent (family : Family) : Coherent family := by
  cases family with
  | text => exact ranks_text.coherent
  | numeric => exact ranks_numeric.coherent
  | timestamp => exact ranks_timestamp.coherent
  | boolean => exact ranks_boolean.coherent

structure StandAs {α : Type} [LT α] (family : Family) (x y : Json) (a b : α) : Prop where
  lessThan : relates family .lessThan x y = true ↔ a < b
  equals : relates family .equals x y = true ↔ a = b

theorem Ranks.standAs {family : Family} {α : Type} [LinearOrder α] {rank : Json → Option α}
    (ranks : Ranks family rank) {x y : Json} {a b : α} (first : rank x = some a)
    (second : rank y = some b) : StandAs family x y a b where
  lessThan := by rw [ranks.relates_eq first second, holds_lessThan_iff]
  equals := by rw [ranks.relates_eq first second, holds_equals_iff]

theorem standAs_of_number {x y : Json} {m n : Number} {p q : ℚ} (first : number x = .ok m)
    (second : number y = .ok n) (left : m.toRat? = some p) (right : n.toRat? = some q) :
    StandAs .numeric x y p q := by
  have compared : compare? .numeric x y = some (compare p q) := by
    simp [compare?, first, second, Except.toOption, Number.compare?_of_toRat left right]
  constructor
  · rw [relates, compared, Option.map_some, Option.getD_some, holds_lessThan_iff]
  · rw [relates, compared, Option.map_some, Option.getD_some, holds_equals_iff]

theorem standAs_of_instant {x y : Json} {m n : Int} (first : instant x = .ok m)
    (second : instant y = .ok n) : StandAs .timestamp x y m n :=
  ranks_timestamp.standAs (by rw [first]; rfl) (by rw [second]; rfl)

theorem standAs_of_text (s t : String) : StandAs .text (.str s) (.str t) s.toList t.toList := by
  have stand : StandAs .text (.str s) (.str t) s t := ranks_text.standAs rfl rfl
  exact ⟨stand.lessThan.trans String.lt_iff_toList_lt, stand.equals.trans String.toList_inj.symm⟩

end Operand

namespace Rule

open Operand

section asked

variable {family : Family} {rel : Relation} {subject : String} {operand data context x y : Json}

theorem evaluate_relation (path : Bool) (next : Json)
    (first : Path.first data context (.str subject) = .ok x)
    (second : (if path then Path.first data context operand else .ok operand) = .ok y) :
    evaluate data context (.comparison subject (.relation family rel path) operand next) =
      .ok (relates family rel x y) := by
  rw [evaluate, compareWith, if_neg (by simp), first]
  cases path with
  | true =>
    change (Path.first data context operand >>= _) = _
    rw [show Path.first data context operand = .ok y from second]
    rfl
  | false =>
    cases second
    rfl

theorem evaluate_path (next : Json) (second : Path.first data context operand = .ok y) :
    evaluate data context (.comparison subject (.relation family rel true) operand next) =
      evaluate data context (.comparison subject (.relation family rel false) y next) := by
  rw [evaluate, evaluate, compareWith, compareWith, if_neg (by simp), if_neg (by simp)]
  cases Path.first data context (.str subject) with
  | error cause => rfl
  | ok x =>
    change (Path.first data context operand >>= _) = _
    rw [second]
    rfl

end asked

/-- The comparators of a relation, with a literal or with a path, ask for it of the two values that
they select; so they do where their names are taken apart. -/
structure AskFor (family : Family) (rel : Relation) : Prop where
  answer (path : Bool) {subject : String} {operand data context x y : Json} (next : Json)
    (first : Path.first data context (.str subject) = .ok x)
    (second : (if path then Path.first data context operand else .ok operand) = .ok y) :
    evaluate data context (.comparison subject (.relation family rel path) operand next) =
      .ok (relates family rel x y)
  byName {path : Bool} (known : .relation family rel path ∈ Comparator.known) {subject : String}
    {operand data context x y : Json} (first : Path.first data context (.str subject) = .ok x)
    (second : (if path then Path.first data context operand else .ok operand) = .ok y) :
    evaluateByName subject (Comparator.relation family rel path).name operand data context =
      .ok (relates family rel x y)
  path {subject : String} {operand data context y : Json} (next : Json)
    (second : Path.first data context operand = .ok y) :
    evaluate data context (.comparison subject (.relation family rel true) operand next) =
      evaluate data context (.comparison subject (.relation family rel false) y next)

theorem askFor (family : Family) (rel : Relation) : AskFor family rel where
  answer path _ _ _ _ _ _ next first second := evaluate_relation path next first second
  byName {path} known subject operand data context x y first second := by
    have asked : evaluate data context
        (.comparison subject (.relation family rel path) operand .null) =
          .ok (relates family rel x y) := evaluate_relation path .null first second
    rw [evaluate] at asked
    rw [evaluateByName_eq known, asked]
    rfl
  path next second := evaluate_path next second

/-- The comparators of a family are one order of the values that it takes: of texts by their
characters, of numbers by the rationals that they are, and of instants. They ask for it of the
values that they select, and it does not matter whether an operand is given or selected. -/
theorem comparators_are_coherent :
    (∀ family, Coherent family) ∧
    (∀ (s t : String), StandAs .text (.str s) (.str t) s.toList t.toList) ∧
    (∀ x y m n (p q : ℚ), number x = .ok m → number y = .ok n → m.toRat? = some p →
      n.toRat? = some q → StandAs .numeric x y p q) ∧
    (∀ x y m n, instant x = .ok m → instant y = .ok n → StandAs .timestamp x y m n) ∧
    ∀ family rel, AskFor family rel :=
  ⟨coherent, standAs_of_text, fun _ _ _ _ _ _ => standAs_of_number,
    fun _ _ _ _ => standAs_of_instant, askFor⟩

/-- A whole number, the double that is nearest to it and the number as a text; and one instant in
two zones, with fractions of different lengths. -/
def closeValues : Json :=
  .obj [("a", .int 9007199254740993), ("b", .real (.finite false 4503599627370496 1)),
    ("c", .str " 9_007_199_254_740_993 "), ("d", .str "2020-01-01T00:00:00.25Z"),
    ("e", .str "2020-01-01T05:30:00.250+05:30")]

theorem comparators_are_coherent_close :
    evaluate closeValues .null
        (.comparison "$.b" (.relation .numeric .lessThan true) (.str "$.a") .null) = .ok true ∧
      evaluate closeValues .null
        (.comparison "$.a" (.relation .numeric .equals true) (.str "$.c") .null) = .ok true ∧
      evaluate closeValues .null
        (.comparison "$.d" (.relation .timestamp .equals true) (.str "$.e") .null) = .ok true := by
  obtain ⟨-, -, numbers, instants, asks⟩ := comparators_are_coherent
  have whole : number (.int 9007199254740993) = .ok (.int 9007199254740993) := rfl
  have nearest : number (.real (.finite false 4503599627370496 1)) =
      .ok (.real (.finite false 4503599627370496 1)) := rfl
  have written : number (.str " 9_007_199_254_740_993 ") = .ok (.int 9007199254740993) := rfl
  have first : instant (.str "2020-01-01T00:00:00.25Z") = .ok 1577836800250 := rfl
  have second : instant (.str "2020-01-01T05:30:00.250+05:30") = .ok 1577836800250 := rfl
  refine ⟨?_, ?_, ?_⟩
  · rw [(asks .numeric .lessThan).answer true .null rfl rfl]
    have less : Binary64.magnitude 4503599627370496 1 < (9007199254740993 : Int) := by
      norm_num [Binary64.magnitude]
    exact congrArg _ ((numbers _ _ _ _ _ _ nearest whole rfl rfl).lessThan.2 less)
  · rw [(asks .numeric .equals).answer true .null rfl rfl]
    exact congrArg _ ((numbers _ _ _ _ _ _ whole written rfl rfl).equals.2 rfl)
  · rw [(asks .timestamp .equals).answer true .null rfl rfl]
    exact congrArg _ ((instants _ _ _ _ first second).equals.2 rfl)

end Rule

end StateFlow
