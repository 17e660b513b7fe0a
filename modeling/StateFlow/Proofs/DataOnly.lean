import StateFlow.Execution

/-!
States that keep to their data: none of their paths begins with two dollar signs, and they wait for
no instant. `act_plain` says that what such a state does is told by its data, whatever the context
object and the clock are; only the context that a task is called with differs.
-/
namespace StateFlow

def Json.isContextPath : Json → Bool
  | .str s => ['$', '$'].isPrefixOf s.toList
  | _ => false

namespace Path

theorem rooted_of_data {α : Type} {path : Json} (own : path.isContextPath = false)
    (data context : α) : rooted data context path = (data, path) := by
  cases path with
  | str s =>
    have own : ['$', '$'].isPrefixOf s.toList = false := own
    simp [rooted, own]
  | _ => rfl

theorem applyTo_of_data {path : Json} (own : path.isContextPath = false) (data : Data)
    (context other : Json) : applyTo data context path = applyTo data other path := by
  simp only [applyTo, rooted_of_data own]

theorem first_of_data {path : Json} (own : path.isContextPath = false) (data context other : Json) :
    first data context path = first data other path := by
  simp only [first, rooted_of_data own]

end Path

namespace Rule

mutual
/-- No variable of the rule, and no operand that is a path, is in the context object. -/
def keepsToData : Rule → Bool
  | .comparison subject comparator operand _ =>
    !(Json.str subject).isContextPath && !(comparator.takesPath && operand.isContextPath)
  | .all rules _ | .any rules _ => allKeepToData rules
  | .not rule _ => keepsToData rule
def allKeepToData : List Rule → Bool
  | [] => true
  | rule :: rules => keepsToData rule && allKeepToData rules
end

theorem compareWith_of_data {subject : String} {comparator : Comparator} {operand : Json}
    (own : (Json.str subject).isContextPath = false)
    (operandOwn : comparator.takesPath = true → operand.isContextPath = false)
    (data context other : Json) :
    compareWith subject comparator operand data context =
      compareWith subject comparator operand data other := by
  simp only [compareWith, Path.first_of_data own data context other]
  cases takes : comparator.takesPath with
  | false => rfl
  | true => simp only [Path.first_of_data (operandOwn takes) data context other]

mutual
theorem evaluate_of_data (data context other : Json) :
    ∀ rule : Rule, rule.keepsToData = true → evaluate data context rule = evaluate data other rule
  | .comparison subject comparator operand next, keeps => by
    simp only [keepsToData, Bool.and_eq_true, Bool.not_eq_true', Bool.and_eq_false_imp] at keeps
    exact compareWith_of_data keeps.1 keeps.2 data context other
  | .all rules next, keeps => evaluateAll_of_data data context other rules keeps
  | .any rules next, keeps => evaluateAny_of_data data context other rules keeps
  | .not rule next, keeps => by
    rw [evaluate, evaluate, evaluate_of_data data context other rule keeps]
theorem evaluateAll_of_data (data context other : Json) :
    ∀ rules : List Rule, allKeepToData rules = true →
      evaluateAll data context rules = evaluateAll data other rules
  | [], _ => rfl
  | rule :: rules, keeps => by
    obtain ⟨first, rest⟩ := Bool.and_eq_true_iff.1 keeps
    rw [evaluateAll, evaluateAll, evaluate_of_data data context other rule first,
      evaluateAll_of_data data context other rules rest]
theorem evaluateAny_of_data (data context other : Json) :
    ∀ rules : List Rule, allKeepToData rules = true →
      evaluateAny data context rules = evaluateAny data other rules
  | [], _ => rfl
  | rule :: rules, keeps => by
    obtain ⟨first, rest⟩ := Bool.and_eq_true_iff.1 keeps
    rw [evaluateAny, evaluateAny, evaluate_of_data data context other rule first,
      evaluateAny_of_data data context other rules rest]
end

end Rule

theorem chooseNext_of_data {rules : List Rule} (keeps : Rule.allKeepToData rules = true)
    (state : String) (default data context other : Json) :
    chooseNext state default data context rules = chooseNext state default data other rules := by
  induction rules with
  | nil => rfl
  | cons rule rules ih =>
    obtain ⟨first, rest⟩ := Bool.and_eq_true_iff.1 keeps
    rw [chooseNext, chooseNext, Rule.evaluate_of_data data context other rule first, ih rest]

namespace Delay

def keepsToData : Delay → Bool
  | .unset | .seconds _ => true
  | .secondsPath path => !path.isContextPath
  | .timestamp _ | .timestampPath _ => false

theorem duration_of_data {delay : Delay} (keeps : delay.keepsToData = true) (state : String)
    (input context other : Json) (now later : Int) :
    delay.duration state input context now = delay.duration state input other later := by
  cases delay with
  | secondsPath path =>
    have own : path.isContextPath = false := by simpa [keepsToData] using keeps
    simp only [duration, resolve, Path.first_of_data own input context other]
  | timestamp value => cases keeps
  | timestampPath path => cases keeps
  | _ => rfl

end Delay

namespace State

/-- No path of the state is in the context object, and it waits for no instant. -/
def keepsToData (state : State) : Bool :=
  !state.inputPath.isContextPath && !state.outputPath.isContextPath &&
    match state.kind with
    | .wait delay => delay.keepsToData
    | .choice choices _ => Rule.allKeepToData choices
    | _ => true

variable {state : State}

theorem effectiveInput_of_data (keeps : state.keepsToData = true) (data : Data)
    (context other : Json) :
    state.effectiveInput data context = state.effectiveInput data other := by
  simp only [keepsToData, Bool.and_eq_true, Bool.not_eq_true'] at keeps
  rw [effectiveInput, effectiveInput, Path.applyTo_of_data keeps.1.1 data context other]

theorem outputOf_of_data (keeps : state.keepsToData = true) (data : Data) (context other : Json) :
    state.outputOf data context = state.outputOf data other := by
  simp only [keepsToData, Bool.and_eq_true, Bool.not_eq_true'] at keeps
  rw [outputOf, outputOf, Path.applyTo_of_data keeps.1.2 data context other]

theorem merge_of_data (keeps : state.keepsToData = true) (data result : Data)
    (context other : Json) : state.merge data result context = state.merge data result other := by
  have output (placed : Data) := state.outputOf_of_data keeps placed context other
  simp only [merge, output]

end State

def Action.plain : Action → Action
  | .call called => .call { called with context := .null }
  | action => action

namespace State

variable {state : State}

theorem act_plain (keeps : state.keepsToData = true) (data : Data) (context other : Json)
    (now later : Int) :
    (state.act data context now).map Action.plain =
      (state.act data other later).map Action.plain := by
  have input := state.effectiveInput_of_data keeps data context other
  have kept := keeps
  simp only [keepsToData, Bool.and_eq_true] at kept
  unfold act
  split
  · next handler timeout kind =>
    rw [input]
    -- the task is called with the context, which a plain action leaves out
    cases state.effectiveInput data other with
    | error failure => rfl
    | ok value => cases ownTimeout timeout <;> rfl
  · simp only [input, merge_of_data keeps data _ context other]
  · next delay kind =>
    have delays : delay.keepsToData = true := by simpa [kind] using kept.2
    simp only [input, delay.duration_of_data delays state.name _ context other now later]
  · next choices default kind =>
    have rules : Rule.allKeepToData choices = true := by simpa [kind] using kept.2
    simp only [input, chooseNext_of_data rules state.name default _ context other]
  · simp only [input, state.outputOf_of_data keeps _ context other]
  · rfl
  · rfl
  · rfl

end State

end StateFlow
