import StateFlow.Machine.Load
import StateFlow.Proofs.Rule.Writable

/-!
Choices. `Chooses` tells what the rules of a choice and its default come to, without the pass over
the rules, and `chooseNext_takes_first_match` says that the pass comes to the same. A default that
counts as false lets rules fail, but it is never chosen. A rule that comes out with an error whose
text cannot be written is the end of a choice with a default as well.
-/
namespace StateFlow

/-- A rule that a choice passes over: it is false, or it fails on a path while there is a default. -/
def Rule.IsPassed (default data context : Json) (rule : Rule) : Prop :=
  rule.evaluate data context = .ok false ∨
    default ≠ .null ∧ ∃ cause, rule.evaluate data context = .error (.told cause)

theorem Rule.isPassed_null_iff {data context : Json} {rule : Rule} :
    rule.IsPassed .null data context ↔ rule.evaluate data context = .ok false := by
  simp [IsPassed]

theorem Rule.isPassed_iff {default data context : Json} (given : default ≠ .null) {rule : Rule} :
    rule.IsPassed default data context ↔
      rule.evaluate data context ≠ .ok true ∧
        rule.evaluate data context ≠ .error .unwritable := by
  rw [IsPassed]
  cases rule.evaluate data context with
  | error cause => cases cause <;> simp [given]
  | ok holds => cases holds <;> simp

/-- Behind rules that are passed over stands one with an error whose text cannot be written. -/
def Rule.ComeOutUnwritten (default data context : Json) (rules : List Rule) : Prop :=
  ∃ before rule after, rules = before ++ rule :: after ∧
    (∀ other ∈ before, other.IsPassed default data context) ∧
      rule.evaluate data context = .error .unwritable

section choice

variable {state : String} {default data context : Json}

/-- What a choice comes to. Only rules that are passed over stand before the one that decides, and
where all of them are passed over the default does, unless it counts as false. -/
inductive Chooses (state : String) (default data context : Json) :
    List Rule → Except (Reported ChoiceError) Json → Prop
  | matched (before : List Rule) {rule : Rule} (after : List Rule)
    (passed : ∀ other ∈ before, other.IsPassed default data context)
    (holds : rule.evaluate data context = .ok true) :
    Chooses state default data context (before ++ rule :: after) (.ok rule.next)
  | failed (before : List Rule) {rule : Rule} {cause : PathError} (after : List Rule)
    (passed : ∀ other ∈ before, other.IsPassed default data context)
    (noDefault : default = .null) (fails : rule.evaluate data context = .error (.told cause)) :
    Chooses state default data context (before ++ rule :: after) (.error (.told (.path cause)))
  | unwritten (before : List Rule) {rule : Rule} (after : List Rule)
    (passed : ∀ other ∈ before, other.IsPassed default data context)
    (fails : rule.evaluate data context = .error .unwritable) :
    Chooses state default data context (before ++ rule :: after) (.error .unwritable)
  | default {rules : List Rule} (passed : ∀ rule ∈ rules, rule.IsPassed default data context)
    (given : default.isFalsy = false) :
    Chooses state default data context rules (.ok default)
  | nothing {rules : List Rule} (passed : ∀ rule ∈ rules, rule.IsPassed default data context)
    (falsy : default.isFalsy = true) :
    Chooses state default data context rules (.error (.told (.noMatch state)))

theorem Chooses.behind {rules : List Rule} {outcome : Except (Reported ChoiceError) Json}
    (chooses : Chooses state default data context rules outcome) {rule : Rule}
    (first : rule.IsPassed default data context) :
    Chooses state default data context (rule :: rules) outcome := by
  cases chooses with
  | matched before after passed holds =>
    exact .matched (rule :: before) after (List.forall_mem_cons.2 ⟨first, passed⟩) holds
  | failed before after passed noDefault fails =>
    exact .failed (rule :: before) after (List.forall_mem_cons.2 ⟨first, passed⟩) noDefault fails
  | unwritten before after passed fails =>
    exact .unwritten (rule :: before) after (List.forall_mem_cons.2 ⟨first, passed⟩) fails
  | default passed given => exact .default (List.forall_mem_cons.2 ⟨first, passed⟩) given
  | nothing passed falsy => exact .nothing (List.forall_mem_cons.2 ⟨first, passed⟩) falsy

theorem chooses_chooseNext (rules : List Rule) :
    Chooses state default data context rules (chooseNext state default data context rules) := by
  induction rules with
  | nil =>
    unfold chooseNext
    split
    · next falsy => exact .nothing nofun falsy
    · next given => exact .default nofun (by simpa using given)
  | cons rule rules ih =>
    unfold chooseNext
    split
    · next holds => exact .matched [] rules nofun holds
    · next false_ => exact ih.behind (.inl false_)
    · next cause fails =>
      split
      · next noDefault => exact .failed [] rules nofun noDefault fails
      · next given => exact ih.behind (.inr ⟨given, cause, fails⟩)
    · next fails => exact .unwritten [] rules nofun fails

theorem chooseNext_append {before : List Rule}
    (passed : ∀ rule ∈ before, rule.IsPassed default data context) (rules : List Rule) :
    chooseNext state default data context (before ++ rules) =
      chooseNext state default data context rules := by
  induction before with
  | nil => rfl
  | cons rule before ih =>
    obtain ⟨first, passed⟩ := List.forall_mem_cons.1 passed
    rw [List.cons_append, chooseNext]
    rcases first with false_ | ⟨given, cause, fails⟩
    · rw [false_]
      exact ih passed
    · rw [fails]
      simpa [given] using ih passed

theorem Chooses.chooseNext_eq {rules : List Rule} {outcome : Except (Reported ChoiceError) Json}
    (chooses : Chooses state default data context rules outcome) :
    chooseNext state default data context rules = outcome := by
  cases chooses with
  | matched before after passed holds => rw [chooseNext_append passed, chooseNext, holds]
  | failed before after passed noDefault fails =>
    rw [chooseNext_append passed, chooseNext, fails]
    simp [noDefault]
  | unwritten before after passed fails => rw [chooseNext_append passed, chooseNext, fails]
  | default passed given =>
    rw [← List.append_nil rules, chooseNext_append passed, chooseNext]
    simp [given]
  | nothing passed falsy =>
    rw [← List.append_nil rules, chooseNext_append passed, chooseNext]
    simp [falsy]

theorem chooseNext_eq_iff {rules : List Rule} {outcome : Except (Reported ChoiceError) Json} :
    chooseNext state default data context rules = outcome ↔
      Chooses state default data context rules outcome :=
  ⟨fun same => same ▸ chooses_chooseNext rules, Chooses.chooseNext_eq⟩

theorem chooseNext_noMatch_iff {rules : List Rule} :
    chooseNext state default data context rules = .error (.told (.noMatch state)) ↔
      default.isFalsy = true ∧ ∀ rule ∈ rules, rule.IsPassed default data context := by
  refine ⟨fun fails => ?_, fun ⟨falsy, passed⟩ => (Chooses.nothing passed falsy).chooseNext_eq⟩
  cases chooseNext_eq_iff.1 fails with
  | nothing passed falsy => exact ⟨falsy, passed⟩

theorem chooseNext_unwritable_iff {rules : List Rule} :
    chooseNext state default data context rules = .error .unwritable ↔
      Rule.ComeOutUnwritten default data context rules := by
  constructor
  · intro failed
    cases chooseNext_eq_iff.1 failed with
    | unwritten before after passed fails => exact ⟨before, _, after, rfl, passed, fails⟩
  · rintro ⟨before, rule, after, rfl, passed, fails⟩
    exact (Chooses.unwritten before after passed fails).chooseNext_eq

theorem chooseNext_fails_iff (given : default ≠ .null) {rules : List Rule}
    {error : Reported ChoiceError} :
    chooseNext state default data context rules = .error error ↔
      error = .told (.noMatch state) ∧ default.isFalsy = true ∧
          (∀ rule ∈ rules, rule.IsPassed default data context) ∨
        error = .unwritable ∧ Rule.ComeOutUnwritten default data context rules := by
  rw [← @chooseNext_noMatch_iff state, ← @chooseNext_unwritable_iff state]
  constructor
  · intro fails
    cases chooseNext_eq_iff.1 fails with
    | failed before after passed noDefault _ => exact absurd noDefault given
    | unwritten => exact .inr ⟨rfl, fails⟩
    | nothing => exact .inl ⟨rfl, fails⟩
  · rintro (⟨rfl, fails⟩ | ⟨rfl, fails⟩)
    · exact fails
    · exact fails

/-- With a default, and data that can be written, an accepted choice fails exactly if no rule is true
and the default counts as false. -/
theorem chooseNext_fails_iff_of_writable (given : default ≠ .null)
    (data_ : data.isWritable = true) (context_ : context.isWritable = true) {rules : List Rule}
    (accepted : ∀ rule ∈ rules, ∃ raw, Rule.Denotes true raw rule) :
    (∃ error, chooseNext state default data context rules = .error error) ↔
      default.isFalsy = true ∧ ∀ rule ∈ rules, rule.evaluate data context ≠ .ok true := by
  have writable : ∀ rule ∈ rules, rule.evaluate data context ≠ .error .unwritable := by
    intro rule mem
    obtain ⟨raw, denotes⟩ := accepted rule mem
    exact Rule.evaluate_ne_unwritable data_ context_ rule denotes
  have passed : (∀ rule ∈ rules, rule.IsPassed default data context) ↔
      ∀ rule ∈ rules, rule.evaluate data context ≠ .ok true :=
    forall₂_congr fun rule mem => by simp [Rule.isPassed_iff given, writable rule mem]
  simp only [chooseNext_fails_iff given, ← passed]
  constructor
  · rintro ⟨error, ⟨-, nothing⟩ | ⟨-, before, rule, after, rfl, -, fails⟩⟩
    · exact nothing
    · exact absurd fails (writable rule (by simp))
  · exact fun nothing => ⟨_, .inl ⟨rfl, nothing⟩⟩

end choice

/-- A choice takes the first rule that is true. Without a default the first failure before it is the
outcome, and nothing matches exactly if all rules are false. With a default failures on paths are
passed over, and the choice fails exactly if all rules are passed over and the default counts as
false, or if the text of an error cannot be written. -/
theorem chooseNext_takes_first_match (state : String) (data context : Json) (rules : List Rule) :
    (∀ default outcome, chooseNext state default data context rules = outcome ↔
      Chooses state default data context rules outcome) ∧
    (chooseNext state .null data context rules = .error (.told (.noMatch state)) ↔
      ∀ rule ∈ rules, rule.evaluate data context = .ok false) ∧
    ∀ default, default ≠ .null → ∀ error,
      (chooseNext state default data context rules = .error error ↔
        error = .told (.noMatch state) ∧ default.isFalsy = true ∧
            (∀ rule ∈ rules, rule.IsPassed default data context) ∨
          error = .unwritable ∧ Rule.ComeOutUnwritten default data context rules) := by
  refine ⟨fun _ _ => chooseNext_eq_iff, ?_, fun _ given _ => chooseNext_fails_iff given⟩
  simp only [chooseNext_noMatch_iff, Rule.isPassed_null_iff]
  exact and_iff_right rfl

def Rule.unreadable : Rule := .comparison "$.b" (.typeTest .isNull) (.bool true) (.str "B")

def Rule.certain : Rule := .comparison "$" (.typeTest .isPresent) (.bool true) (.str "C")

def Rule.dataWith (n : Int) : Json := .obj [("a", .int n)]

theorem Rule.evaluate_unreadable (n : Int) :
    Rule.unreadable.evaluate (dataWith n) (.obj []) =
      .error (PathError.invalid "$.b" (dataWith n) none).reported := rfl

def vastData : Json := Rule.dataWith Text.writableBound

/-- A rule that fails is passed over for the sake of a default, which is not needed then, but not
where the text of the failure cannot be written. -/
theorem chooseNext_takes_first_match_behind_failure :
    Json.str "D" ≠ .null ∧
    (∃ cause, Rule.unreadable.evaluate (.obj []) (.obj []) = .error (.told cause)) ∧
    chooseNext "A" (.str "D") (.obj []) (.obj []) [.unreadable, .certain] = .ok (.str "C") ∧
    (∀ error,
      chooseNext "A" (.str "D") (.obj []) (.obj []) [.unreadable, .certain] ≠ .error error) ∧
    chooseNext "A" (.str "D") vastData (.obj []) [.unreadable, .certain] =
      .error .unwritable := by
  have given : Json.str "D" ≠ .null := nofun
  have fails : ∃ cause, Rule.unreadable.evaluate (.obj []) (.obj []) = .error (.told cause) :=
    ⟨_, rfl⟩
  have holds : Rule.certain.evaluate (.obj []) (.obj []) = .ok true := rfl
  have unwritten : Rule.unreadable.evaluate vastData (.obj []) = .error .unwritable := by
    rw [vastData, Rule.evaluate_unreadable]
    exact congrArg _ (Reported.report_eq_unwritable.2 (by decide +kernel))
  have chosen := ((chooseNext_takes_first_match "A" (.obj []) (.obj [])
    [.unreadable, .certain]).1 (.str "D") _).2
      (.matched [.unreadable] [] (by simpa using .inr ⟨given, fails⟩) holds)
  have failed := ((chooseNext_takes_first_match "A" vastData (.obj [])
    [.unreadable, .certain]).2.2 _ given .unwritable).2
      (.inr ⟨rfl, [], .unreadable, [.certain], rfl, nofun, unwritten⟩)
  exact ⟨given, fails, chosen, fun error => chosen ▸ nofun, failed⟩

def emptyDefaultChoices : List Json :=
  [.obj [("Variable", .str "$"), ("IsPresent", .bool false), ("Next", .str "A")]]

def emptyDefaultStates : List (String × Json) :=
  [("A", .obj [("Type", .str "Choice"), ("Choices", .arr emptyDefaultChoices),
      ("Default", .str "")]),
    ("", .obj [("Type", .str "Succeed")])]

def emptyDefault : Json :=
  .obj [("m", .obj [("StartAt", .str "A"), ("States", .obj emptyDefaultStates)])]

def emptyDefaultMachine : Machine where
  name := "m"
  comment := .null
  startAt := "A"
  states :=
    [.base "A" .null
        (.choice [.comparison "$" (.typeTest .isPresent) (.bool false) (.str "A")] (.str "")),
      .base "" .null .succeed]

theorem load_emptyDefault : Definition.load emptyDefault = .ok ⟨[emptyDefaultMachine]⟩ := by
  have choices : State.readChoices "A" 0 emptyDefaultChoices =
      .ok [.comparison "$" (.typeTest .isPresent) (.bool false) (.str "A")] := by
    rw [emptyDefaultChoices, State.readChoices, Rule.parse_of_comparison rfl rfl]
    rfl
  have states : Machine.loadStates emptyDefaultStates = .ok emptyDefaultMachine.states :=
    bind_eq_ok.2 ⟨_, map_eq_ok.2 ⟨_, bind_eq_ok.2 ⟨_, choices, rfl⟩, rfl⟩, rfl⟩
  have machine : Machine.load "m"
      (.obj [("StartAt", .str "A"), ("States", .obj emptyDefaultStates)]) =
        .ok emptyDefaultMachine := bind_eq_ok.2 ⟨_, states, rfl⟩
  exact map_eq_ok.2 ⟨_, bind_eq_ok.2 ⟨_, machine, rfl⟩, rfl⟩

/-- A choice with a default may fail, although there is a state of that name. -/
theorem choice_fails_with_empty_default :
    ¬ ∀ raw definition, Definition.load raw = .ok definition → ∀ machine ∈ definition.machines,
      ∀ state ∈ machine.states, ∀ choices default, state.kind = .choice choices default →
        default ≠ .null → ∀ data context,
          ∃ next, chooseNext state.name default data context choices = .ok next := by
  intro never
  obtain ⟨next, chosen⟩ := never emptyDefault _ load_emptyDefault emptyDefaultMachine
    List.mem_cons_self _ List.mem_cons_self _ _ rfl nofun (.obj []) (.obj [])
  cases chosen

end StateFlow
