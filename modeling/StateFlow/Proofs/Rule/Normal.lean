import Mathlib.Data.List.Forall2
import Mathlib.Logic.Relation
import StateFlow.Rule.Evaluate

/-!
Rewriting of rules. A negation is pushed through `And` and `Or`, two negations fall away, and an
`And` directly inside an `And` or an `Or` directly inside an `Or` is joined with it, at any depth.
`rewriting_keeps_outcome` says that no such rewriting changes what a rule comes to, which path it
fails on included, and that every rule can be rewritten until nothing of this is left.
-/
namespace StateFlow.Rule

/-- All of the rules, or any of them. -/
def gather (every : Bool) (rules : List Rule) (next : Json) : Rule :=
  if every then .all rules next else .any rules next

def withNext (next : Json) : Rule → Rule
  | .comparison subject comparator operand _ => .comparison subject comparator operand next
  | .all rules _ => .all rules next
  | .any rules _ => .any rules next
  | .not rule _ => .not rule next

theorem withNext_next (rule : Rule) : rule.withNext rule.next = rule := by
  cases rule <;> rfl

theorem next_withNext (rule : Rule) (next : Json) : (rule.withNext next).next = next := by
  cases rule <;> rfl

theorem next_gather (every : Bool) (rules : List Rule) (next : Json) :
    (gather every rules next).next = next := by
  cases every <;> rfl

def signed (negative : Bool) (next : Json) (rule : Rule) : Rule :=
  if negative then .not rule next else rule.withNext next

theorem map_signed_false (rules : List Rule) :
    rules.map (fun rule => rule.signed false rule.next) = rules := by
  refine (List.map_congr_left fun rule _ => ?_).trans (List.map_id rules)
  exact withNext_next rule

/-- A single rewriting at some place of the tree. A nested rule keeps its next state where it is
negated. -/
inductive Step : Rule → Rule → Prop
  | deMorgan (every : Bool) (rules : List Rule) (inner next : Json) :
    Step (.not (gather every rules inner) next)
      (gather (!every) (rules.map fun rule => .not rule rule.next) next)
  | doubleNegation (rule : Rule) (inner next : Json) :
    Step (.not (.not rule inner) next) (rule.withNext next)
  | flatten (every : Bool) (before nested after : List Rule) (inner next : Json) :
    Step (gather every (before ++ gather every nested inner :: after) next)
      (gather every (before ++ nested ++ after) next)
  | within (every : Bool) (before : List Rule) {rule other : Rule} (after : List Rule)
    (next : Json) (step : Step rule other) :
    Step (gather every (before ++ rule :: after) next)
      (gather every (before ++ other :: after) next)
  | underNot {rule other : Rule} (next : Json) (step : Step rule other) :
    Step (.not rule next) (.not other next)

def Rewrites : Rule → Rule → Prop := Relation.ReflTransGen Step

mutual
def leaves : Rule → List (String × Comparator × Json)
  | .comparison subject comparator operand _ => [(subject, comparator, operand)]
  | .all rules _ => leavesOf rules
  | .any rules _ => leavesOf rules
  | .not rule _ => leaves rule
def leavesOf : List Rule → List (String × Comparator × Json)
  | [] => []
  | rule :: rules => leaves rule ++ leavesOf rules
end

def isGathered (every : Bool) : Rule → Bool
  | .all _ _ => every
  | .any _ _ => !every
  | _ => false

mutual
/-- Only comparisons are negated, and nothing can be joined with the rule around it. -/
def IsNormal : Rule → Prop
  | .comparison _ _ _ _ => True
  | .all rules _ => AreNormal true rules
  | .any rules _ => AreNormal false rules
  | .not (.comparison _ _ _ _) _ => True
  | .not _ _ => False
def AreNormal (every : Bool) : List Rule → Prop
  | [] => True
  | rule :: rules => (rule.isGathered every = false ∧ IsNormal rule) ∧ AreNormal every rules
end

def parts (every : Bool) : Rule → List Rule
  | .all rules next => if every then rules else [.all rules next]
  | .any rules next => if every then [.any rules next] else rules
  | rule => [rule]

mutual
def normalWith (negative : Bool) (next : Json) : Rule → Rule
  | .comparison subject comparator operand inner =>
    (Rule.comparison subject comparator operand inner).signed negative next
  | .all rules _ => gather (!negative) (normalParts (!negative) negative rules) next
  | .any rules _ => gather negative (normalParts negative negative rules) next
  | .not rule _ => normalWith (!negative) next rule
def normalParts (every negative : Bool) : List Rule → List Rule
  | [] => []
  | rule :: rules =>
    (normalWith negative rule.next rule).parts every ++ normalParts every negative rules
end

def normal (rule : Rule) : Rule := rule.normalWith false rule.next

/-- Rules in order; the first that differs from `every` or fails decides. -/
def evaluateMany (every : Bool) (data context : Json) :
    List Rule → Except (Reported PathError) Bool
  | [] => .ok every
  | rule :: rules => do
    let truth ← rule.evaluate data context
    if truth = every then evaluateMany every data context rules else pure truth

section outcome

variable {data context : Json}

theorem evaluateAll_eq_many (rules : List Rule) :
    evaluateAll data context rules = evaluateMany true data context rules := by
  induction rules with
  | nil => rfl
  | cons rule rules ih =>
    rw [evaluateAll, evaluateMany, ih]
    rcases rule.evaluate data context with cause | ⟨_ | _⟩ <;> rfl

theorem evaluateAny_eq_many (rules : List Rule) :
    evaluateAny data context rules = evaluateMany false data context rules := by
  induction rules with
  | nil => rfl
  | cons rule rules ih =>
    rw [evaluateAny, evaluateMany, ih]
    rcases rule.evaluate data context with cause | ⟨_ | _⟩ <;> rfl

theorem evaluate_gather (every : Bool) (rules : List Rule) (next : Json) :
    (gather every rules next).evaluate data context = evaluateMany every data context rules := by
  cases every
  · exact evaluateAny_eq_many rules
  · exact evaluateAll_eq_many rules

theorem evaluate_withNext (rule : Rule) (next : Json) :
    (rule.withNext next).evaluate data context = rule.evaluate data context := by
  cases rule <;> simp [withNext, evaluate]

theorem evaluateMany_append (every : Bool) (before after : List Rule) :
    evaluateMany every data context (before ++ after) =
      evaluateMany every data context before >>= fun truth =>
        if truth = every then evaluateMany every data context after else .ok truth := by
  induction before with
  | nil => exact (if_pos rfl).symm
  | cons rule before ih =>
    rw [List.cons_append, evaluateMany, evaluateMany, ih]
    cases rule.evaluate data context with
    | error cause => rfl
    | ok truth =>
      by_cases same : truth = every
      · subst same
        simp [bind, Except.bind]
      · simp [bind, Except.bind, pure, Except.pure, same]

theorem evaluateMany_single (every : Bool) (rule : Rule) :
    evaluateMany every data context [rule] = rule.evaluate data context := by
  rw [evaluateMany]
  cases rule.evaluate data context with
  | error cause => rfl
  | ok truth =>
    by_cases same : truth = every <;>
      simp [bind, Except.bind, pure, Except.pure, evaluateMany, same]

theorem map_not_evaluateMany (every : Bool) (rules : List Rule) :
    (evaluateMany every data context rules).map (!·) =
      evaluateMany (!every) data context (rules.map fun rule => .not rule rule.next) := by
  induction rules with
  | nil => rfl
  | cons rule rules ih =>
    rw [List.map_cons, evaluateMany, evaluateMany, ← ih, evaluate]
    cases rule.evaluate data context with
    | error cause => rfl
    | ok truth =>
      by_cases same : truth = every <;>
        simp [bind, Except.bind, pure, Except.pure, Except.map, same]

theorem Step.evaluate_eq {rule other : Rule} (step : Step rule other) :
    other.evaluate data context = rule.evaluate data context := by
  induction step with
  | deMorgan every rules inner next =>
    rw [evaluate, evaluate_gather, evaluate_gather, map_not_evaluateMany]
  | doubleNegation rule inner next =>
    rw [evaluate, evaluate, evaluate_withNext]
    rcases rule.evaluate data context with cause | ⟨_ | _⟩ <;> rfl
  | flatten every before nested after inner next =>
    have single : evaluateMany every data context [gather every nested inner] =
        evaluate data context (gather every nested inner) := evaluateMany_single every _
    rw [evaluate_gather] at single
    rw [evaluate_gather, evaluate_gather, List.append_assoc, evaluateMany_append every before,
      evaluateMany_append every before, evaluateMany_append every nested, ← single,
      ← evaluateMany_append, List.singleton_append]
  | within every before after next step ih =>
    rw [evaluate_gather, evaluate_gather, evaluateMany_append, evaluateMany_append,
      evaluateMany, evaluateMany, ih]
  | underNot next step ih => rw [evaluate, evaluate, ih]

end outcome

theorem leaves_gather (every : Bool) (rules : List Rule) (next : Json) :
    (gather every rules next).leaves = leavesOf rules := by
  cases every <;> simp [gather, leaves]

theorem leavesOf_eq_flatMap (rules : List Rule) : leavesOf rules = rules.flatMap leaves := by
  induction rules with
  | nil => rfl
  | cons rule rules ih => rw [leavesOf, ih, List.flatMap_cons]

theorem Step.leaves_eq {rule other : Rule} (step : Step rule other) :
    other.leaves = rule.leaves := by
  induction step with
  | deMorgan every rules inner next =>
    simp [leaves, leaves_gather, leavesOf_eq_flatMap, List.flatMap_map]
  | doubleNegation rule inner next => cases rule <;> simp [withNext, leaves]
  | flatten every before nested after inner next =>
    simp [leaves_gather, leavesOf_eq_flatMap]
  | within every before after next step ih => simp [leaves_gather, leavesOf_eq_flatMap, ih]
  | underNot next step ih => rw [leaves, leaves, ih]

theorem Step.next_eq {rule other : Rule} (step : Step rule other) : other.next = rule.next := by
  cases step with
  | deMorgan every rules inner next => exact next_gather _ _ next
  | doubleNegation rule inner next => exact next_withNext rule next
  | flatten every before nested after inner next => rw [next_gather, next_gather]
  | within every before after next step => rw [next_gather, next_gather]
  | underNot next step => rfl

theorem Rewrites.within (every : Bool) (before : List Rule) {rule other : Rule}
    (after : List Rule) (next : Json) (rewrites : Rewrites rule other) :
    Rewrites (gather every (before ++ rule :: after) next)
      (gather every (before ++ other :: after) next) :=
  rewrites.lift (fun nested => gather every (before ++ nested :: after) next)
    fun _ _ step => .within every before after next step

theorem rewrites_parts (every : Bool) (before after : List Rule) (rule : Rule) (next : Json) :
    Rewrites (gather every (before ++ rule :: after) next)
      (gather every (before ++ rule.parts every ++ after) next) := by
  have whole : Rewrites (gather every (before ++ rule :: after) next)
      (gather every (before ++ [rule] ++ after) next) := by
    rw [List.append_assoc, List.singleton_append]
    exact .refl
  cases rule with
  | comparison subject comparator operand inner => exact whole
  | not rule inner => exact whole
  | all rules inner =>
    cases every with
    | true => exact .single (.flatten true before rules after inner next)
    | false => exact whole
  | any rules inner =>
    cases every with
    | true => exact whole
    | false => exact .single (.flatten false before rules after inner next)

mutual
theorem rewrites_normalWith :
    ∀ (rule : Rule) (negative : Bool) (next : Json),
      Rewrites (rule.signed negative next) (rule.normalWith negative next)
  | .comparison .., _, _ => .refl
  | .all rules inner, negative, next => by
    cases negative with
    | false =>
      have nested := rewrites_normalParts rules true false [] next
      rwa [map_signed_false] at nested
    | true =>
      exact .head (.deMorgan true rules inner next)
        (rewrites_normalParts rules false true [] next)
  | .any rules inner, negative, next => by
    cases negative with
    | false =>
      have nested := rewrites_normalParts rules false false [] next
      rwa [map_signed_false] at nested
    | true =>
      exact .head (.deMorgan false rules inner next)
        (rewrites_normalParts rules true true [] next)
  | .not rule inner, negative, next => by
    cases negative with
    | false => exact rewrites_normalWith rule true next
    | true =>
      exact .head (.doubleNegation rule inner next) (rewrites_normalWith rule false next)
theorem rewrites_normalParts :
    ∀ (rules : List Rule) (every negative : Bool) (before : List Rule) (next : Json),
      Rewrites (gather every (before ++ rules.map fun rule => rule.signed negative rule.next) next)
        (gather every (before ++ normalParts every negative rules) next)
  | [], _, _, _, _ => .refl
  | rule :: rules, every, negative, before, next => by
    have first := Rewrites.within every before
      (rules.map fun rule => rule.signed negative rule.next) next
      (rewrites_normalWith rule negative rule.next)
    have joined := rewrites_parts every before
      (rules.map fun rule => rule.signed negative rule.next)
      (rule.normalWith negative rule.next) next
    have others := rewrites_normalParts rules every negative
      (before ++ (rule.normalWith negative rule.next).parts every) next
    rw [List.append_assoc before _ (normalParts every negative rules)] at others
    exact (first.trans joined).trans others
end

theorem areNormal_append {every : Bool} {rules others : List Rule}
    (first : AreNormal every rules) (second : AreNormal every others) :
    AreNormal every (rules ++ others) := by
  induction rules with
  | nil => exact second
  | cons rule rules ih => exact ⟨first.1, ih first.2⟩

theorem isNormal_gather {every : Bool} {rules : List Rule} (normal : AreNormal every rules)
    (next : Json) : (gather every rules next).IsNormal := by
  cases every <;> simpa [gather, IsNormal] using normal

theorem IsNormal.parts {rule : Rule} (normal : rule.IsNormal) (every : Bool) :
    AreNormal every (rule.parts every) := by
  cases rule with
  | comparison subject comparator operand next => exact ⟨⟨rfl, normal⟩, trivial⟩
  | not rule next => exact ⟨⟨rfl, normal⟩, trivial⟩
  | all rules next =>
    cases every with
    | true => simpa [Rule.parts, IsNormal] using normal
    | false => exact ⟨⟨rfl, normal⟩, trivial⟩
  | any rules next =>
    cases every with
    | true => exact ⟨⟨rfl, normal⟩, trivial⟩
    | false => simpa [Rule.parts, IsNormal] using normal

mutual
theorem isNormal_normalWith :
    ∀ (rule : Rule) (negative : Bool) (next : Json), (rule.normalWith negative next).IsNormal
  | .comparison .., negative, _ => by cases negative <;> trivial
  | .all rules _, negative, next =>
    isNormal_gather (areNormal_normalParts rules (!negative) negative) next
  | .any rules _, negative, next =>
    isNormal_gather (areNormal_normalParts rules negative negative) next
  | .not rule _, negative, next => isNormal_normalWith rule (!negative) next
theorem areNormal_normalParts :
    ∀ (rules : List Rule) (every negative : Bool), AreNormal every (normalParts every negative rules)
  | [], _, _ => trivial
  | rule :: rules, every, negative =>
    areNormal_append ((isNormal_normalWith rule negative rule.next).parts every)
      (areNormal_normalParts rules every negative)
end

theorem rewrites_normal (rule : Rule) : Rewrites rule rule.normal := by
  have rewrites := rewrites_normalWith rule false rule.next
  rwa [signed, if_neg Bool.false_ne_true, withNext_next] at rewrites

theorem Rewrites.evaluate_eq {rule other : Rule} (rewrites : Rewrites rule other)
    (data context : Json) : other.evaluate data context = rule.evaluate data context := by
  induction rewrites with
  | refl => rfl
  | tail _ step ih => exact step.evaluate_eq.trans ih

theorem Rewrites.leaves_eq {rule other : Rule} (rewrites : Rewrites rule other) :
    other.leaves = rule.leaves := by
  induction rewrites with
  | refl => rfl
  | tail _ step ih => exact step.leaves_eq.trans ih

theorem Rewrites.next_eq {rule other : Rule} (rewrites : Rewrites rule other) :
    other.next = rule.next := by
  induction rewrites with
  | refl => rfl
  | tail _ step ih => exact step.next_eq.trans ih

theorem chooseNext_of_rewrites (state : String) (default data context : Json)
    {rules others : List Rule} (rewrites : List.Forall₂ Rewrites rules others) :
    chooseNext state default data context others = chooseNext state default data context rules := by
  induction rewrites with
  | nil => rfl
  | cons first _ ih => rw [chooseNext, chooseNext, first.evaluate_eq, first.next_eq, ih]

/-- However a rule is rewritten, it comes to the same, be it true, false or a failing path; its
comparisons stay in their order and it leads to the same state. Every rule can be rewritten until
only comparisons are negated and nothing can be joined. -/
theorem rewriting_keeps_outcome (rule : Rule) :
    (∀ other, Rewrites rule other →
      other.leaves = rule.leaves ∧ other.next = rule.next ∧
        ∀ data context, other.evaluate data context = rule.evaluate data context) ∧
    Rewrites rule rule.normal ∧ rule.normal.IsNormal :=
  ⟨fun _ rewrites => ⟨rewrites.leaves_eq, rewrites.next_eq, rewrites.evaluate_eq⟩,
    rewrites_normal rule, isNormal_normalWith rule false rule.next⟩

def presence (path : String) : Rule :=
  .comparison path (.typeTest .isPresent) (.bool true) .null

def nullity (path : String) : Rule :=
  .comparison path (.typeTest .isNull) (.bool true) .null

def entangled : Rule :=
  .not (.any [presence "$.a", .not (.all [nullity "$.b", presence "$"] .null) .null] .null)
    (.str "A")

def disentangled : Rule :=
  .all [.not (presence "$.a") .null, nullity "$.b", presence "$"] (.str "A")

theorem rewriting_keeps_outcome_entangled :
    Rewrites entangled disentangled ∧ ∃ cause,
      entangled.evaluate (.obj []) .null = .error cause ∧
        disentangled.evaluate (.obj []) .null = .error cause := by
  have rewrites : Rewrites entangled disentangled :=
    .head (.deMorgan false _ .null (.str "A")) <|
    .head (.within true [.not (presence "$.a") .null] [] (.str "A")
      (.doubleNegation _ .null .null)) <|
    .single (.flatten true [.not (presence "$.a") .null] [nullity "$.b", presence "$"] [] .null
      (.str "A"))
  have fails : ∃ cause, entangled.evaluate (.obj []) .null = .error cause := ⟨_, rfl⟩
  obtain ⟨cause, fails⟩ := fails
  obtain ⟨-, -, same⟩ := (rewriting_keeps_outcome entangled).1 disentangled rewrites
  exact ⟨rewrites, cause, fails, (same (.obj []) .null).trans fails⟩

end StateFlow.Rule
