import Mathlib.Data.List.Forall2
import Mathlib.Data.List.Nodup
import StateFlow.Proofs.Except
import StateFlow.Rule.Parse

/-!
The grammar of choice rules. `Rule.Denotes` tells which values are rules and of which trees, without
the order in which a reader looks at them; `parse_accepts_grammar` says that the reader accepts
exactly these values, and makes exactly these trees of them.
-/
namespace StateFlow

namespace Json

theorem isSome_lookup_iff {key : String} {fields : List (String × Json)} :
    (lookup key fields).isSome = true ↔ key ∈ fields.map Prod.fst := by
  induction fields with
  | nil => simp [lookup]
  | cons field rest ih =>
    obtain ⟨k, v⟩ := field
    by_cases same : k = key
    · simp [lookup, same]
    · simp [lookup, same, ih, Ne.symm same]

theorem distinct_of_lookup {key : String} {fields : List (String × Json)} {value : Json}
    (distinct : DistinctFields fields) (found : lookup key fields = some value) :
    value.Distinct := by
  induction fields with
  | nil => cases found
  | cons field rest ih =>
    obtain ⟨k, v⟩ := field
    obtain ⟨first, others⟩ := distinct
    unfold lookup at found
    split at found
    · cases found
      exact first
    · exact ih others found

theorem distinct_of_mem {items : List Json} (distinct : DistinctItems items) {item : Json}
    (mem : item ∈ items) : item.Distinct := by
  induction items with
  | nil => cases mem
  | cons first rest ih =>
    obtain ⟨head, others⟩ := distinct
    cases mem with
    | head => exact head
    | tail _ mem => exact ih others mem

def asItems : Json → List Json
  | .arr items => items
  | value => [value]

theorem distinct_of_mem_asItems {value item : Json} (distinct : value.Distinct)
    (mem : item ∈ value.asItems) : item.Distinct := by
  cases value with
  | arr items => exact distinct_of_mem distinct mem
  | _ => exact List.mem_singleton.1 mem ▸ distinct

theorem sizeOf_le_of_mem_asItems {value item : Json} (mem : item ∈ value.asItems) :
    sizeOf item ≤ sizeOf value := by
  cases value with
  | arr items =>
    have smaller : sizeOf item < sizeOf items := List.sizeOf_lt_of_mem mem
    simp only [arr.sizeOf_spec]
    omega
  | _ => exact (List.mem_singleton.1 mem ▸ Nat.le_refl _)

end Json

namespace Rule

/-- The members of a rule: one of a key of its own, and others of the given keys. -/
def HasOnly (key : String) (others : List String) (fields : List (String × Json)) : Prop :=
  ∀ k ∈ fields.map Prod.fst, k = key ∨ k ∈ others

instance (key : String) (others : List String) (fields : List (String × Json)) :
    Decidable (HasOnly key others fields) :=
  inferInstanceAs (Decidable (∀ k ∈ fields.map Prod.fst, k = key ∨ k ∈ others))

def SaysNext (top : Bool) (fields : List (String × Json)) : Prop :=
  top = true → ∃ target, Json.lookup "Next" fields = some (.str target)

def nextIn (fields : List (String × Json)) : Json := (Json.lookup "Next" fields).getD .null

/-- A comparator with a path takes a path, a test takes a truth value, and others take all. -/
def Takes (comparator : Comparator) (operand : Json) : Prop :=
  (comparator.takesPath = true → ∃ path, operand = .str path ∧ path.toList.head? = some '$') ∧
    (comparator.isTypeTest = true → ∃ truth, operand = .bool truth)

/-- The rule that an operator makes of nested rules: at least one, and a single one to negate. -/
inductive Joins (next : Json) : Operator → List Rule → Rule → Prop
  | all (first : Rule) (others : List Rule) :
    Joins next .all (first :: others) (.all (first :: others) next)
  | any (first : Rule) (others : List Rule) :
    Joins next .any (first :: others) (.any (first :: others) next)
  | not (rule : Rule) : Joins next .not [rule] (.not rule next)

/-- The values that are rules, with their trees. -/
inductive Denotes : Bool → Json → Rule → Prop
  | comparison {top : Bool} {fields : List (String × Json)} {comparator : Comparator}
    {subject : String} {operand : Json} (leads : SaysNext top fields)
    (known : comparator ∈ Comparator.known)
    (only : HasOnly comparator.name ["Variable", "Next", "Comment"] fields)
    (subject_ : Json.lookup "Variable" fields = some (.str subject))
    (path : subject.toList.head? = some '$')
    (operand_ : Json.lookup comparator.name fields = some operand)
    (takes : Takes comparator operand) :
    Denotes top (.obj fields) (.comparison subject comparator operand (nextIn fields))
  | joined {top : Bool} {fields : List (String × Json)} {op : Operator} {value : Json}
    {rules : List Rule} {rule : Rule} (leads : SaysNext top fields)
    (only : HasOnly op.word ["Next", "Comment"] fields)
    (value_ : Json.lookup op.word fields = some value)
    (nested : List.Forall₂ (Denotes false) value.asItems rules)
    (joins : Joins (nextIn fields) op rules rule) :
    Denotes top (.obj fields) rule

theorem mem_comparatorsIn {key : String} {fields : List (String × Json)} :
    key ∈ comparatorsIn fields ↔ key ∈ fields.map Prod.fst ∧
      key ∉ ["Variable", "Next", "Comment"] ∧ key ∉ operators.map Operator.word := by
  simp only [comparatorsIn, List.mem_filter, Bool.and_eq_true, decide_eq_true_eq]

theorem mem_operatorsIn {op : Operator} {fields : List (String × Json)} :
    op ∈ operatorsIn fields ↔ op.word ∈ fields.map Prod.fst := by
  have listed : op ∈ operators := by cases op <;> decide
  rw [operatorsIn, List.mem_filter, Json.isSome_lookup_iff, and_iff_right listed]

theorem eq_singleton_of_mem {α : Type} {items : List α} {a : α} (nodup : items.Nodup)
    (only : ∀ b, b ∈ items ↔ b = a) : items = [a] :=
  List.perm_singleton.1 <| (List.perm_ext_iff_of_nodup nodup (List.nodup_singleton a)).2 fun b =>
    (only b).trans List.mem_singleton.symm

theorem name_of_known {comparator : Comparator} (known : comparator ∈ Comparator.known) :
    comparator.name ∉ ["Variable", "Next", "Comment"] ∧
      comparator.name ∉ operators.map Operator.word ∧
      Comparator.ofName? comparator.name = some comparator := by
  revert comparator
  decide +kernel

theorem word_injective : Function.Injective Operator.word := by
  intro op other same
  cases op <;> cases other <;> first | rfl | simp [Operator.word] at same

theorem operatorsIn_of_hasOnly {op : Operator} {fields : List (String × Json)}
    (only : HasOnly op.word ["Next", "Comment"] fields) (given : op.word ∈ fields.map Prod.fst) :
    operatorsIn fields = [op] := by
  refine eq_singleton_of_mem (List.Nodup.filter _ (by decide)) fun other => ?_
  rw [mem_operatorsIn]
  refine ⟨fun mem => ?_, fun same => same ▸ given⟩
  rcases only other.word mem with same | reserved
  · exact word_injective same
  · cases other <;> simp [Operator.word] at reserved

theorem comparatorsIn_of_hasOnly {op : Operator} {fields : List (String × Json)}
    (only : HasOnly op.word ["Next", "Comment"] fields) : comparatorsIn fields = [] := by
  refine List.eq_nil_iff_forall_not_mem.2 fun key mem => ?_
  obtain ⟨inside, unreserved, noWord⟩ := mem_comparatorsIn.1 mem
  rcases only key inside with rfl | reserved
  · exact noWord (List.mem_map_of_mem (by cases op <;> decide))
  · exact unreserved (.tail _ reserved)

theorem hasOnly_of_operatorsIn {op : Operator} {fields : List (String × Json)}
    (single : operatorsIn fields = [op]) (alone : comparatorsIn fields = [])
    (noVariable : (Json.lookup "Variable" fields).isSome = false) :
    HasOnly op.word ["Next", "Comment"] fields := by
  intro key inside
  by_cases isWord : key ∈ operators.map Operator.word
  · obtain ⟨other, -, rfl⟩ := List.mem_map.1 isWord
    have mem := mem_operatorsIn.2 inside
    rw [single, List.mem_singleton] at mem
    exact .inl (mem ▸ rfl)
  · have reserved : key ∈ ["Variable", "Next", "Comment"] := by
      by_contra unreserved
      have mem := mem_comparatorsIn.2 ⟨inside, unreserved, isWord⟩
      simp [alone] at mem
    refine .inr ((List.mem_cons.1 reserved).resolve_left ?_)
    rintro rfl
    simp [Json.isSome_lookup_iff.2 inside] at noVariable

theorem comparatorsIn_eq_singleton_iff {fields : List (String × Json)}
    (nodup : (fields.map Prod.fst).Nodup) {comparator : Comparator}
    (known : comparator ∈ Comparator.known) :
    operatorsIn fields = [] ∧ comparatorsIn fields = [comparator.name] ↔
      comparator.name ∈ fields.map Prod.fst ∧
        HasOnly comparator.name ["Variable", "Next", "Comment"] fields := by
  obtain ⟨unreserved, noWord, -⟩ := name_of_known known
  constructor
  · rintro ⟨noOperator, single⟩
    have mem : comparator.name ∈ comparatorsIn fields := by simp [single]
    refine ⟨(mem_comparatorsIn.1 mem).1, fun key inside => ?_⟩
    by_contra other
    obtain ⟨differs, outside⟩ := not_or.1 other
    have noOther : key ∉ operators.map Operator.word := fun isWord => by
      obtain ⟨op, -, rfl⟩ := List.mem_map.1 isWord
      have mem := mem_operatorsIn.2 inside
      simp [noOperator] at mem
    have mem := mem_comparatorsIn.2 ⟨inside, outside, noOther⟩
    rw [single, List.mem_singleton] at mem
    exact differs mem
  · rintro ⟨given, only⟩
    refine ⟨List.eq_nil_iff_forall_not_mem.2 fun op mem => ?_,
      eq_singleton_of_mem (nodup.filter _) fun key => ?_⟩
    · have isWord : op.word ∈ operators.map Operator.word :=
        List.mem_map_of_mem (by cases op <;> decide)
      rcases only op.word (mem_operatorsIn.1 mem) with same | reserved
      · exact noWord (same ▸ isWord)
      · cases op <;> simp [Operator.word] at reserved
    · refine ⟨fun mem => ?_, fun same => same ▸ mem_comparatorsIn.2 ⟨given, unreserved, noWord⟩⟩
      obtain ⟨inside, outside, -⟩ := mem_comparatorsIn.1 mem
      exact (only key inside).resolve_right outside

theorem saysNext_iff {top : Bool} {fields : List (String × Json)} :
    SaysNext top fields ↔ (top && !isText (nextIn fields)) = false := by
  cases top with
  | false => simp [SaysNext]
  | true =>
    cases found : Json.lookup "Next" fields with
    | none => simp [SaysNext, nextIn, found, isText]
    | some value => cases value <;> simp [SaysNext, nextIn, found, isText]

theorem isPathText_iff {value : Json} :
    isPathText value = true ↔ ∃ path, value = .str path ∧ path.toList.head? = some '$' := by
  cases value <;> simp [isPathText]

theorem isTruthValue_iff {value : Json} :
    isTruthValue value = true ↔ ∃ truth, value = .bool truth := by
  cases value <;> simp [isTruthValue]

theorem takes_iff {comparator : Comparator} {operand : Json} :
    Takes comparator operand ↔ ¬ (comparator.takesPath ∧ !isPathText operand) ∧
      ¬ (comparator.isTypeTest ∧ !isTruthValue operand) := by
  rw [Takes, ← isPathText_iff, ← isTruthValue_iff]
  simp

inductive Compares (fields : List (String × Json)) : Rule → Prop
  | mk {comparator : Comparator} {subject : String} {operand : Json}
    (known : comparator ∈ Comparator.known) (single : comparatorsIn fields = [comparator.name])
    (subject_ : Json.lookup "Variable" fields = some (.str subject))
    (path : subject.toList.head? = some '$')
    (operand_ : Json.lookup comparator.name fields = some operand)
    (takes : Takes comparator operand) :
    Compares fields (.comparison subject comparator operand (nextIn fields))

theorem ofComparison_eq_ok_iff {location : String} {fields : List (String × Json)} {rule : Rule} :
    ofComparison location fields = .ok rule ↔ Compares fields rule := by
  constructor
  · intro read
    unfold ofComparison at read
    split at read
    · next name single =>
      split at read
      · cases read
      · next comparator subject found subject_ =>
        obtain rfl := Comparator.name_of_ofName? found
        have mem : comparator.name ∈ comparatorsIn fields := by simp [single]
        obtain ⟨operand, operand_⟩ := Option.isSome_iff_exists.1
          (Json.isSome_lookup_iff.2 (mem_comparatorsIn.1 mem).1)
        simp only [operand_, Option.getD_some] at read
        split_ifs at read with noPath badPath badTruth
        cases read
        exact .mk (List.mem_of_find?_eq_some found) single subject_ (by simpa using noPath)
          operand_ (takes_iff.2 ⟨badPath, badTruth⟩)
      · cases read
    · cases read
  · rintro ⟨known, single, subject_, path, operand_, takes⟩
    obtain ⟨noPath, noTruth⟩ := takes_iff.1 takes
    simp only [ofComparison, single, (name_of_known known).2.2, subject_, operand_,
      Option.getD_some, path, ne_eq, not_true_eq_false, if_false]
    rw [if_neg noPath, if_neg noTruth]
    rfl

theorem parse_obj_eq_ok_iff {location : String} {top : Bool} {fields : List (String × Json)}
    {rule : Rule} :
    parse location top (.obj fields) = .ok rule ↔ SaysNext top fields ∧
      (operatorsIn fields = [] ∧ Compares fields rule ∨
        ∃ op value, HasOnly op.word ["Next", "Comment"] fields ∧
          Json.lookup op.word fields = some value ∧
          joinNested location op (nextIn fields) value = .ok rule) := by
  constructor
  · intro read
    unfold parse at read
    dsimp only at read
    split at read
    · cases read
    · next named =>
      refine ⟨saysNext_iff.2 (by simpa [nextIn] using named), ?_⟩
      split at read
      · next plain => exact .inl ⟨plain, ofComparison_eq_ok_iff.1 read⟩
      · next op more found =>
        split_ifs at read with mixed
        obtain ⟨noMore, alone, noVariable⟩ : more = [] ∧ comparatorsIn fields = [] ∧
            (Json.lookup "Variable" fields).isSome = false := by
          simpa [not_or] using mixed
        subst noMore
        split at read
        · cases read
        · next value value_ =>
          exact .inr ⟨op, value, hasOnly_of_operatorsIn found alone noVariable, value_, read⟩
  · rintro ⟨leads, ⟨plain, compares⟩ | ⟨op, value, only, value_, joined⟩⟩
    · rw [parse_of_comparison (saysNext_iff.1 leads) plain]
      exact ofComparison_eq_ok_iff.2 compares
    · have given := Json.isSome_lookup_iff.1 (Option.isSome_of_eq_some value_)
      have noVariable : Json.lookup "Variable" fields = none := by
        by_contra present
        have inside := Json.isSome_lookup_iff.1 (Option.isSome_iff_ne_none.2 present)
        rcases only _ inside with same | reserved
        · cases op <;> simp [Operator.word] at same
        · simp at reserved
      rw [parse_of_operator (saysNext_iff.1 leads) (operatorsIn_of_hasOnly only given)
        (comparatorsIn_of_hasOnly only) noVariable value_]
      exact joined

section nested

theorem parseItems_eq_ok_iff {items : List Json} {rules : List Rule}
    (reads : ∀ item ∈ items, ∀ location rule,
      parse location false item = .ok rule ↔ Denotes false item rule)
    (location : String) (index : Nat) :
    parseItems location index items = .ok rules ↔ List.Forall₂ (Denotes false) items rules := by
  induction items generalizing index rules with
  | nil =>
    rw [parseItems, List.forall₂_nil_left_iff, Except.ok.injEq, eq_comm]
  | cons item items ih =>
    obtain ⟨first, others⟩ := List.forall_mem_cons.1 reads
    rw [parseItems, List.forall₂_cons_left_iff]
    simp only [bind_eq_ok, first, ih others, pure, Except.pure, Except.ok.injEq]
    constructor
    · rintro ⟨rule, denotes, more, nested, rfl⟩
      exact ⟨rule, more, denotes, nested, rfl⟩
    · rintro ⟨rule, more, denotes, nested, rfl⟩
      exact ⟨rule, denotes, more, nested, rfl⟩

theorem joins_iff {next : Json} {op : Operator} {first rule : Rule} {others : List Rule} :
    Joins next op (first :: others) rule ↔ (op = .not → others = []) ∧
      (match op with
        | .all => .all (first :: others) next
        | .any => .any (first :: others) next
        | .not => .not first next) = rule := by
  constructor
  · intro joins
    cases joins <;> simp
  · rintro ⟨single, rfl⟩
    cases op with
    | all => exact .all first others
    | any => exact .any first others
    | not => exact single rfl ▸ .not first

theorem joinNested_eq_ok_iff {value : Json}
    (reads : ∀ item ∈ value.asItems, ∀ location rule,
      parse location false item = .ok rule ↔ Denotes false item rule)
    (location : String) (op : Operator) (next : Json) {rule : Rule} :
    joinNested location op next value = .ok rule ↔
      ∃ rules, List.Forall₂ (Denotes false) value.asItems rules ∧ Joins next op rules rule := by
  unfold joinNested
  split
  · constructor
    · intro read
      cases read
    · rintro ⟨rules, nested, joins⟩
      cases nested
      cases joins
  · next item items =>
    obtain ⟨first, others⟩ := List.forall_mem_cons.1 reads
    simp only [Json.asItems, List.forall₂_cons_left_iff]
    split
    · next many =>
      constructor
      · intro read
        cases read
      · rintro ⟨rules, ⟨rule, more, denotes, nested, rfl⟩, joins⟩
        obtain rfl := (joins_iff.1 joins).1 many.1
        exact absurd (List.forall₂_nil_right_iff.1 nested) many.2
    · next few =>
      simp only [bind_eq_ok, first, parseItems_eq_ok_iff others, pure, Except.pure,
        Except.ok.injEq]
      constructor
      · rintro ⟨rule, denotes, more, nested, same⟩
        refine ⟨rule :: more, ⟨rule, more, denotes, nested, rfl⟩, joins_iff.2 ⟨fun isNot => ?_, same⟩⟩
        have noMore : items = [] := by
          by_contra full
          exact few ⟨isNot, full⟩
        subst noMore
        exact List.forall₂_nil_left_iff.1 nested
      · rintro ⟨rules, ⟨rule, more, denotes, nested, rfl⟩, joins⟩
        exact ⟨rule, denotes, more, nested, (joins_iff.1 joins).2⟩
  · next notEmpty notList =>
    have single : value.asItems = [value] := by
      cases value with
      | arr items =>
        cases items with
        | nil => exact absurd rfl notEmpty
        | cons item items => exact absurd rfl (notList item items)
      | _ => rfl
    rw [single] at reads ⊢
    simp only [bind_eq_ok, reads value (List.mem_singleton_self value), pure, Except.pure,
      Except.ok.injEq, List.forall₂_cons_left_iff, List.forall₂_nil_left_iff]
    constructor
    · rintro ⟨nested, denotes, same⟩
      refine ⟨[nested], ⟨nested, [], denotes, rfl, rfl⟩, joins_iff.2 ⟨fun _ => rfl, ?_⟩⟩
      exact same
    · rintro ⟨rules, ⟨nested, more, denotes, rfl, rfl⟩, joins⟩
      exact ⟨nested, denotes, (joins_iff.1 joins).2⟩

end nested

theorem parse_eq_ok_iff {raw : Json} (distinct : raw.Distinct) (location : String) (top : Bool)
    (rule : Rule) : parse location top raw = .ok rule ↔ Denotes top raw rule := by
  induction size : sizeOf raw using Nat.strongRecOn generalizing raw location top rule with
  | _ _ ih =>
  cases raw with
  | obj fields =>
    obtain ⟨nodup, inner⟩ : (fields.map Prod.fst).Nodup ∧ Json.DistinctFields fields := distinct
    -- nested rules stand in the member of an operator, which is smaller than the whole object
    have reads {key : String} {value : Json} (found : Json.lookup key fields = some value) :
        ∀ item ∈ value.asItems, ∀ location rule,
          parse location false item = .ok rule ↔ Denotes false item rule := by
      intro item mem location rule
      have small := sizeOf_of_lookup found
      have smaller := Json.sizeOf_le_of_mem_asItems mem
      refine ih (sizeOf item) ?_ ?_ location false rule rfl
      · simp only [← size, Json.obj.sizeOf_spec]
        omega
      · exact Json.distinct_of_mem_asItems (Json.distinct_of_lookup inner found) mem
    rw [parse_obj_eq_ok_iff]
    constructor
    · rintro ⟨leads, ⟨plain, compares⟩ | ⟨op, value, only, value_, joined⟩⟩
      · obtain ⟨known, single, subject_, path, operand_, takes⟩ := compares
        have alone := ((comparatorsIn_eq_singleton_iff nodup known).1 ⟨plain, single⟩).2
        exact .comparison leads known alone subject_ path operand_ takes
      · obtain ⟨rules, nested, joins⟩ :=
          (joinNested_eq_ok_iff (reads value_) location op (nextIn fields)).1 joined
        exact .joined leads only value_ nested joins
    · intro denotes
      cases denotes with
      | comparison leads known only subject_ path operand_ takes =>
        have given := Json.isSome_lookup_iff.1 (Option.isSome_of_eq_some operand_)
        obtain ⟨plain, single⟩ := (comparatorsIn_eq_singleton_iff nodup known).2 ⟨given, only⟩
        exact ⟨leads, .inl ⟨plain, .mk known single subject_ path operand_ takes⟩⟩
      | joined leads only value_ nested joins =>
        refine ⟨leads, .inr ⟨_, _, only, value_, ?_⟩⟩
        exact (joinNested_eq_ok_iff (reads value_) location _ _).2 ⟨_, nested, joins⟩
  | _ =>
    constructor
    · intro read
      rw [parse] at read
      · cases read
      · intro fields same
        cases same
    · intro denotes
      cases denotes

/-- A value is read as a rule exactly if the grammar makes it one, and as the tree that the grammar
gives it; every other value is refused. -/
theorem parse_accepts_grammar {raw : Json} (distinct : raw.Distinct) (location : String)
    (top : Bool) :
    (∀ rule, parse location top raw = .ok rule ↔ Denotes top raw rule) ∧
      ((∃ error, parse location top raw = .error error) ↔ ¬ ∃ rule, Denotes top raw rule) := by
  have accepts := parse_eq_ok_iff distinct location top
  refine ⟨accepts, ?_⟩
  simp only [← accepts]
  cases parse location top raw <;> simp

def tests : List Json :=
  [.obj [("Variable", .str "$.a"), ("IsNull", .bool true)],
    .obj [("NumericLessThanPath", .str "$.c"), ("Comment", .null), ("Variable", .str "$.b")]]

def testRules : List Rule :=
  [.comparison "$.a" (.typeTest .isNull) (.bool true) .null,
    .comparison "$.b" (.relation .numeric .lessThan true) (.str "$.c") .null]

theorem denotes_tests : List.Forall₂ (Denotes false) tests testRules := by
  refine .cons ?_ (.cons ?_ .nil)
  · exact .comparison nofun (by decide +kernel) (by decide +kernel) rfl rfl rfl
      ⟨nofun, fun _ => ⟨true, rfl⟩⟩
  · exact .comparison nofun (by decide +kernel) (by decide +kernel) rfl rfl rfl
      ⟨fun _ => ⟨"$.c", rfl, rfl⟩, nofun⟩

def neither : Json :=
  .obj [("Not", .obj [("Or", .arr tests)]), ("Next", .str "A")]

def neitherRule : Rule :=
  .not (.any testRules .null) (.str "A")

theorem denotes_neither : Denotes true neither neitherRule := by
  have either : Denotes false (.obj [("Or", .arr tests)]) (.any testRules .null) :=
    @Denotes.joined false _ .any _ _ _ nofun (by decide +kernel) rfl denotes_tests (.any _ _)
  exact @Denotes.joined true _ .not _ _ _ (fun _ => ⟨"A", rfl⟩) (by decide +kernel) rfl
    (.cons either .nil) (.not _)

theorem distinct_neither : neither.Distinct := by
  simp [neither, tests, Json.Distinct, Json.DistinctFields, Json.DistinctItems]

theorem parse_accepts_grammar_neither :
    neither.Distinct ∧ parse "C.Choices[0]" true neither = .ok neitherRule :=
  ⟨distinct_neither, ((parse_accepts_grammar distinct_neither "C.Choices[0]" true).1
    neitherRule).2 denotes_neither⟩

end Rule

end StateFlow
