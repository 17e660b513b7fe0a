import Mathlib.Data.List.DropRight
import StateFlow.Proofs.Json.Writable
import StateFlow.Proofs.Rule.Writable

/-!
Rules by name. A rule can also be kept with the words of its comparators and operators. They are then
taken apart whenever the rule is evaluated: a name begins with its family and goes on with an
operation, and both are looked up in tables. Here a lookup can fail, two values can have no order, a
negation can be empty and a path can select an empty list. `accepted_rule_goes_right` says that for
the rules the reader accepts nothing of this happens: only paths fail, with an error of theirs where
its text can be written, and the outcome is that of `Rule.evaluate`.
-/
namespace StateFlow

namespace Path

theorem ne_nil_of_query {root : Json} {path : String} {found : List Find}
    (selected : query root path = .ok (some found)) : found ≠ [] := by
  unfold query at selected
  split at selected
  · cases selected
  · obtain ⟨steps, -, selected⟩ := bind_eq_ok.1 selected
    obtain ⟨all, -, selected⟩ := bind_eq_ok.1 selected
    split at selected
    · cases selected
    · next full =>
      cases selected
      exact full

theorem ne_nil_of_values {root path : Json} {found : List Json}
    (given : values root path = .ok found) : found ≠ [] := by
  obtain ⟨finds, selected, rfl⟩ := map_eq_ok.1 given
  rw [ne_eq, List.map_eq_nil_iff]
  unfold select at selected
  split at selected
  · cases selected
  · split at selected
    · next queried =>
      cases selected
      exact ne_nil_of_query queried
    · cases selected
    · cases selected

end Path

namespace Operand

/-- What the coercions give. An instant is a number, of milliseconds. -/
inductive Coerced where
  | text (s : String)
  | number (x : Number)
  | boolean (b : Bool)

/-- Only values of one kind have an order, in which a NaN has no place. -/
def Coerced.order? : Coerced → Coerced → Option (Option Ordering)
  | .text s, .text t => some (some (compareTexts s t))
  | .number x, .number y => some (x.compare? y)
  | .boolean a, .boolean b => some (some (compare a b))
  | _, _ => none

def coerce (family : Family) (value : Json) : Except CoercionError Coerced :=
  match family with
  | .text => (text value).map .text
  | .numeric => (number value).map .number
  | .timestamp => (instant value).map fun millis => .number (.int millis)
  | .boolean => (boolean value).map .boolean

def coercions : List (String × (Json → Except CoercionError Coerced)) :=
  [("String", coerce .text), ("Numeric", coerce .numeric), ("Timestamp", coerce .timestamp),
    ("Boolean", coerce .boolean)]

theorem lookup_coercions (family : Family) :
    coercions.lookup family.name = some (coerce family) := by
  cases family <;> rfl

theorem compare?_int (m n : Int) : Number.compare? (.int m) (.int n) = some (compare m n) := by
  simp [Number.compare?, Number.place?, Number.Place.compare]

theorem order?_of_coerce {family : Family} {x y : Json} {left right : Coerced}
    (first : coerce family x = .ok left) (second : coerce family y = .ok right) :
    left.order? right = some (compare? family x y) := by
  cases family with
  | text =>
    obtain ⟨s, s_, rfl⟩ := map_eq_ok.1 first
    obtain ⟨t, t_, rfl⟩ := map_eq_ok.1 second
    simp [compare?, s_, t_, Coerced.order?, Except.toOption]
  | numeric =>
    obtain ⟨m, m_, rfl⟩ := map_eq_ok.1 first
    obtain ⟨n, n_, rfl⟩ := map_eq_ok.1 second
    simp [compare?, m_, n_, Coerced.order?, Except.toOption]
  | timestamp =>
    obtain ⟨m, m_, rfl⟩ := map_eq_ok.1 first
    obtain ⟨n, n_, rfl⟩ := map_eq_ok.1 second
    simp [compare?, m_, n_, Coerced.order?, Except.toOption, compare?_int]
  | boolean =>
    obtain ⟨a, a_, rfl⟩ := map_eq_ok.1 first
    obtain ⟨b, b_, rfl⟩ := map_eq_ok.1 second
    simp [compare?, a_, b_, Coerced.order?, Except.toOption]

theorem compare?_of_coerce_error {family : Family} {x y : Json} {error : CoercionError}
    (fails : coerce family x = .error error ∨ coerce family y = .error error) :
    compare? family x y = none := by
  cases family <;> simp only [coerce, map_eq_error] at fails <;>
    rcases fails with fails | fails <;> simp [compare?, fails, Except.toOption]

end Operand

namespace Rule

open Operand

inductive Mishap where
  | path (cause : PathError)
  | unwritable
  | emptyFinds (path : Json)
  | noFamily (name : String)
  | noOperation (operation : String)
  | noOrder (left right : Coerced)
  | noNestedRule

def Mishap.ofReported : Reported PathError → Mishap
  | .told cause => .path cause
  | .unwritable => .unwritable

def families : List (String × List String) :=
  let orders := ["Equals", "GreaterThan", "GreaterThanEquals", "LessThan", "LessThanEquals"]
  [("String", orders), ("Numeric", orders), ("Timestamp", orders), ("Boolean", ["Equals"])]

def operations : List (String × Relation) :=
  [("Equals", .equals), ("GreaterThan", .greaterThan), ("GreaterThanEquals", .greaterThanEquals),
    ("LessThan", .lessThan), ("LessThanEquals", .lessThanEquals)]

def typeTests : List (String × TypeTest) :=
  [("IsNull", .isNull), ("IsNumeric", .isNumeric), ("IsString", .isString),
    ("IsBoolean", .isBoolean), ("IsTimestamp", .isTimestamp)]

def valueTest? : Comparator → Option TypeTest
  | .typeTest .isPresent => none
  | .typeTest test => some test
  | _ => none

def pathNames : List String :=
  families.flatMap fun (family, names) => names.map fun operation => family ++ operation ++ "Path"

def familyIn? (name : String) : Option String :=
  (families.map Prod.fst).find? fun family => family.toList.isPrefixOf name.toList

/-- The name without its family, and without its last four letters if they say that the operand is a
path. -/
def operationIn (name : String) : String :=
  let letters := name.toList
  let kept := if name ∈ pathNames then letters.rdrop 4 else letters
  String.ofList (kept.drop ((familyIn? name).getD "").toList.length)

def firstFind (data context path : Json) : Except Mishap Json :=
  let (root, path) := Path.rooted data (Path.contextRoot context) path
  if path = .str "$" then .ok root
  else match Path.values root path with
    | .ok (value :: _) => .ok value
    | .ok [] => .error (.emptyFinds path)
    | .error cause => .error (.ofReported cause)

/-- An operation on two values that were coerced. Values of different kinds are not equal. -/
def operate (operation : String) (left right : Coerced) : Except Mishap Bool :=
  match operations.lookup operation, left.order? right with
  | none, _ => .error (.noOperation operation)
  | some rel, some order => .ok ((order.map rel.holds).getD false)
  | some .equals, none => .ok false
  | some _, none => .error (.noOrder left right)

/-- Values that a family does not take never match. -/
def compareByName (name : String) (value operand : Json) : Except Mishap Bool :=
  match (familyIn? name).bind fun family => coercions.lookup family with
  | none => .error (.noFamily name)
  | some coerce =>
    match coerce value, coerce operand with
    | .ok left, .ok right => operate (operationIn name) left right
    | _, _ => .ok false

def isPresent (data context : Json) (subject : String) : Except Mishap Bool :=
  match firstFind data context (.str subject) with
  | .ok _ => .ok true
  | .error (.path _) => .ok false
  | .error mishap => .error mishap

def evaluateByName (subject name : String) (operand data context : Json) : Except Mishap Bool :=
  if name = "IsPresent" then do
    pure (Json.bool (← isPresent data context subject) == operand)
  else do
    let value ← firstFind data context (.str subject)
    match typeTests.lookup name with
    | some test => pure (Json.bool (test.holds value) == operand)
    | none =>
      let operand ← if name ∈ pathNames then firstFind data context operand else pure operand
      if name = "StringMatches" then pure (accepts operand value)
      else if name = "CaseInsensitiveStringEquals" then pure (sameLetters value operand)
      else compareByName name value operand

end Rule

/-- A rule with the words of its comparators and operators. -/
inductive NamedRule where
  | comparison (subject comparator : String) (operand next : Json)
  | combinator (operator : String) (rules : List NamedRule) (next : Json)

namespace NamedRule

open Rule (Mishap)

mutual
def evaluate (data context : Json) : NamedRule → Except Mishap Bool
  | .comparison subject comparator operand _ =>
    Rule.evaluateByName subject comparator operand data context
  | .combinator operator rules _ =>
    if operator = "And" then evaluateAll data context rules
    else if operator = "Or" then evaluateAny data context rules
    else evaluateNot data context rules
def evaluateAll (data context : Json) : List NamedRule → Except Mishap Bool
  | [] => .ok true
  | rule :: rules => do
    if ← evaluate data context rule then evaluateAll data context rules else pure false
def evaluateAny (data context : Json) : List NamedRule → Except Mishap Bool
  | [] => .ok false
  | rule :: rules => do
    if ← evaluate data context rule then pure true else evaluateAny data context rules
def evaluateNot (data context : Json) : List NamedRule → Except Mishap Bool
  | [] => .error .noNestedRule
  | rule :: _ => (evaluate data context rule).map (!·)
end

end NamedRule

namespace Rule

open Operand

mutual
def named : Rule → NamedRule
  | .comparison subject comparator operand next =>
    .comparison subject comparator.name operand next
  | .all rules next => .combinator "And" (namedAll rules) next
  | .any rules next => .combinator "Or" (namedAll rules) next
  | .not rule next => .combinator "Not" [named rule] next
def namedAll : List Rule → List NamedRule
  | [] => []
  | rule :: rules => named rule :: namedAll rules
end

theorem eq_of_name_eq {comparator : Comparator} (known : comparator ∈ Comparator.known)
    (other : Comparator) (alsoKnown : other ∈ Comparator.known)
    (same : comparator.name = other.name) : comparator = other := by
  have found := (name_of_known known).2.2
  rw [same, (name_of_known alsoKnown).2.2] at found
  exact (Option.some.inj found).symm

section names

variable {comparator : Comparator} (known : comparator ∈ Comparator.known)

include known

theorem familyIn?_name : familyIn? comparator.name = comparator.family?.map Family.name := by
  revert comparator
  decide +kernel

theorem mem_pathNames_iff : comparator.name ∈ pathNames ↔ comparator.takesPath = true := by
  have listed : pathNames = (Comparator.known.filter Comparator.takesPath).map Comparator.name := by
    decide +kernel
  simp only [listed, List.mem_map, List.mem_filter]
  constructor
  · rintro ⟨other, ⟨alsoKnown, takes⟩, same⟩
    exact eq_of_name_eq alsoKnown comparator known same ▸ takes
  · intro takes
    exact ⟨comparator, ⟨known, takes⟩, rfl⟩

theorem operationIn_name : operationIn comparator.name = comparator.operation := by
  simp only [operationIn, familyIn?_name known, mem_pathNames_iff known]
  cases comparator with
  | relation family rel path =>
    cases path with
    | false => simp [Comparator.name, Comparator.family?, Comparator.takesPath,
        Comparator.operation, List.drop_left']
    | true =>
      -- the last four letters go first, then those of the family
      have kept : (family.name.toList ++ rel.name.toList ++ ['P', 'a', 't', 'h']).rdrop 4 =
          family.name.toList ++ rel.name.toList := List.rdrop_append_length
      simp [Comparator.name, Comparator.family?, Comparator.takesPath, Comparator.operation,
        List.drop_left', -List.append_assoc, kept]
  | stringMatches => decide +kernel
  | _ => simp [Comparator.name, Comparator.family?, Comparator.takesPath, Comparator.operation]

theorem name_eq_isPresent_iff :
    comparator.name = "IsPresent" ↔ comparator = .typeTest .isPresent := by
  refine ⟨eq_of_name_eq known (.typeTest .isPresent) (by decide), ?_⟩
  rintro rfl
  rfl

theorem lookup_typeTests_name :
    typeTests.lookup comparator.name = valueTest? comparator := by
  revert comparator
  decide +kernel

end names

theorem lookup_operations (rel : Relation) : operations.lookup rel.name = some rel := by
  cases rel <;> rfl

theorem compareByName_relation {family : Family} {rel : Relation} {path : Bool}
    (known : .relation family rel path ∈ Comparator.known) (value operand : Json) :
    compareByName (Comparator.relation family rel path).name value operand =
      .ok ((Comparator.relation family rel path).holds value operand) := by
  simp only [compareByName, familyIn?_name known, operationIn_name known, Comparator.family?,
    Option.map_some, Option.bind_some, lookup_coercions, Comparator.holds]
  -- a value that is not coerced makes the comparison false on both sides
  cases first : coerce family value with
  | error cause => simp [compare?_of_coerce_error (.inl first)]
  | ok left =>
    cases second : coerce family operand with
    | error cause => simp [compare?_of_coerce_error (.inr second)]
    | ok right =>
      simp [operate, Comparator.operation, lookup_operations, order?_of_coerce first second]

theorem firstFind_eq (data context path : Json) :
    firstFind data context path = (Path.first data context path).mapError .ofReported := by
  unfold firstFind Path.first
  generalize Path.rooted data (Path.contextRoot context) path = rooted
  obtain ⟨root, path⟩ := rooted
  dsimp only
  split
  · rfl
  · cases selected : Path.values root path with
    | error cause => rfl
    | ok found =>
      cases found with
      | nil => exact absurd rfl (Path.ne_nil_of_values selected)
      | cons value more => rfl

theorem evaluateByName_eq {comparator : Comparator} (known : comparator ∈ Comparator.known)
    (subject : String) (operand data context : Json) :
    evaluateByName subject comparator.name operand data context =
      (compareWith subject comparator operand data context).mapError .ofReported := by
  simp only [evaluateByName, compareWith, name_eq_isPresent_iff known, isPresent, firstFind_eq,
    lookup_typeTests_name known, mem_pathNames_iff known]
  split
  · rcases Path.first data context (.str subject) with ⟨_ | _⟩ | _ <;> rfl
  · next other =>
    cases Path.first data context (.str subject) with
    | error cause => rfl
    | ok value =>
      cases comparator with
      | relation family rel path =>
        have noMatches : (Comparator.relation family rel path).name ≠ "StringMatches" :=
          fun same => nomatch eq_of_name_eq known .stringMatches (by decide) same
        have noLetters : (Comparator.relation family rel path).name ≠
            "CaseInsensitiveStringEquals" :=
          fun same => nomatch eq_of_name_eq known .sameLetters (by decide) same
        simp only [valueTest?, Comparator.takesPath, if_neg noMatches, if_neg noLetters,
          compareByName_relation known]
        cases path with
        | false => rfl
        | true =>
          cases Path.first data context operand with
          | error cause => rfl
          | ok found => rfl
      | stringMatches => rfl
      | sameLetters => rfl
      | typeTest test =>
        cases test with
        | isPresent => exact absurd rfl other
        | _ => rfl

mutual
/-- All comparators of the rule are known. The name `BooleanLessThanPath`, which none of these has,
would be that of an operation `LessThanPath` on a literal, which no table holds. -/
def HasKnown : Rule → Prop
  | .comparison _ comparator _ _ => comparator ∈ Comparator.known
  | .all rules _ => HaveKnown rules
  | .any rules _ => HaveKnown rules
  | .not rule _ => HasKnown rule
def HaveKnown : List Rule → Prop
  | [] => True
  | rule :: rules => HasKnown rule ∧ HaveKnown rules
end

mutual
theorem hasKnown_of_denotes :
    ∀ (rule : Rule) {top : Bool} {raw : Json}, Denotes top raw rule → rule.HasKnown
  | .comparison .., _, _, denotes => by
    cases denotes with
    | comparison _ known => exact known
    | joined _ _ _ _ joins => cases joins
  | .all rules _, _, _, denotes => by
    cases denotes with
    | joined _ _ _ nested joins =>
      cases joins
      exact haveKnown_of_denote _ nested
  | .any rules _, _, _, denotes => by
    cases denotes with
    | joined _ _ _ nested joins =>
      cases joins
      exact haveKnown_of_denote _ nested
  | .not rule _, _, _, denotes => by
    cases denotes with
    | joined _ _ _ nested joins =>
      cases joins
      obtain ⟨_, _, denotes, -, -⟩ := List.forall₂_cons_right_iff.1 nested
      exact hasKnown_of_denotes rule denotes
theorem haveKnown_of_denote :
    ∀ (rules : List Rule) {raws : List Json}, List.Forall₂ (Denotes false) raws rules →
      HaveKnown rules
  | [], _, _ => trivial
  | rule :: rules, _, nested => by
    obtain ⟨_, _, denotes, more, -⟩ := List.forall₂_cons_right_iff.1 nested
    exact ⟨hasKnown_of_denotes rule denotes, haveKnown_of_denote rules more⟩
end

mutual
theorem evaluate_named (data context : Json) :
    ∀ rule : Rule, rule.HasKnown →
      rule.named.evaluate data context = (rule.evaluate data context).mapError .ofReported
  | .comparison subject comparator operand _, known =>
    evaluateByName_eq known subject operand data context
  | .all rules _, known => evaluateAll_named data context rules known
  | .any rules _, known => evaluateAny_named data context rules known
  | .not rule _, known => by
    have same : (rule.named.evaluate data context).map (!·) =
        ((rule.evaluate data context).map (!·)).mapError .ofReported := by
      rw [evaluate_named data context rule known]
      cases rule.evaluate data context <;> rfl
    exact same
theorem evaluateAll_named (data context : Json) :
    ∀ rules : List Rule, HaveKnown rules →
      NamedRule.evaluateAll data context (namedAll rules) =
        (evaluateAll data context rules).mapError .ofReported
  | [], _ => rfl
  | rule :: rules, known => by
    simp only [namedAll, NamedRule.evaluateAll, evaluateAll,
      evaluate_named data context rule known.1, evaluateAll_named data context rules known.2]
    rcases rule.evaluate data context with cause | ⟨_ | _⟩ <;> rfl
theorem evaluateAny_named (data context : Json) :
    ∀ rules : List Rule, HaveKnown rules →
      NamedRule.evaluateAny data context (namedAll rules) =
        (evaluateAny data context rules).mapError .ofReported
  | [], _ => rfl
  | rule :: rules, known => by
    simp only [namedAll, NamedRule.evaluateAny, evaluateAny,
      evaluate_named data context rule known.1, evaluateAny_named data context rules known.2]
    rcases rule.evaluate data context with cause | ⟨_ | _⟩ <;> rfl
end

/-- An accepted rule is true or false or fails with the error of a path, whatever the data are, and
it comes to that also where its names are taken apart. Only data and contexts that no text holds may
bring about another failure: the text of that error cannot be written. -/
theorem accepted_rule_goes_right {raw : Json} (distinct : raw.Distinct) {location : String}
    {top : Bool} {rule : Rule} (accepted : parse location top raw = .ok rule)
    (data context : Json) :
    (∃ truth, rule.named.evaluate data context = .ok truth ∧
        rule.evaluate data context = .ok truth) ∨
      (∃ cause, rule.named.evaluate data context = .error (.path cause) ∧
        rule.evaluate data context = .error (.told cause)) ∨
      (data.IsVast ∨ context.IsVast) ∧
        rule.named.evaluate data context = .error .unwritable ∧
          rule.evaluate data context = .error .unwritable := by
  have denotes := (parse_eq_ok_iff distinct location top rule).1 accepted
  rw [evaluate_named data context rule (hasKnown_of_denotes rule denotes)]
  cases evaluated : rule.evaluate data context with
  | ok truth => exact .inl ⟨truth, rfl, rfl⟩
  | error cause =>
    cases cause with
    | told cause => exact .inr (.inl ⟨cause, rfl, rfl⟩)
    | unwritable =>
      refine .inr (.inr ⟨?_, rfl, rfl⟩)
      by_contra writable
      simp only [Json.isVast_iff, not_or, Bool.not_eq_false] at writable
      exact evaluate_ne_unwritable writable.1 writable.2 rule denotes evaluated

def oddData : Json :=
  .obj [("a", .bool false), ("b", .str "x"), ("c", .obj [])]

theorem accepted_rule_goes_right_neither :
    neither.Distinct ∧ parse "C.Choices[0]" true neither = .ok neitherRule ∧
      neitherRule.named.evaluate oddData .null = .ok true ∧
        neitherRule.evaluate oddData .null = .ok true := by
  have accepted : parse "C.Choices[0]" true neither = .ok neitherRule :=
    (parse_eq_ok_iff distinct_neither "C.Choices[0]" true neitherRule).2 denotes_neither
  have holds : neitherRule.evaluate oddData .null = .ok true := rfl
  refine ⟨distinct_neither, accepted, ?_, holds⟩
  rcases accepted_rule_goes_right distinct_neither accepted oddData .null with
    ⟨truth, same, evaluated⟩ | ⟨cause, -, fails⟩ | ⟨-, -, fails⟩
  · rwa [← Except.ok.inj (holds.symm.trans evaluated)] at same
  · cases holds.symm.trans fails
  · cases holds.symm.trans fails

end Rule

end StateFlow
