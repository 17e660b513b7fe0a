import Mathlib.Data.Rat.Floor
import StateFlow.Proofs.Loading
import StateFlow.Proofs.Number
import StateFlow.Proofs.Operation

/-!
The time that a task may take. A task has its own time in seconds, which is positive or no number at
all, and is called with whole milliseconds. `overrides_iff` says when that takes precedence over the
time that the invoker is configured with: if the seconds by a thousand are finite and one or more.
A shorter time counts as none, and from one that is not finite there are no whole milliseconds.
-/
namespace StateFlow

namespace Binary64

theorem truncate?_of_nonneg {x : Binary64} {q : ℚ} (value : x.toRat? = some q) (nonneg : 0 ≤ q) :
    x.truncate? = some ⌊q⌋ := by
  cases x with
  | finite negative m e =>
    have quotient : ⌊magnitude m e⌋ = (((ratio m e).1 / (ratio m e).2 : ℕ) : ℤ) := by
      rw [magnitude_eq_ratio, Rat.floor_natCast_div_natCast, Int.natCast_ediv]
    cases value
    cases negative with
    | false => exact congrArg some quotient.symm
    | true =>
      -- a zero with a sign
      have zero : magnitude m e = 0 :=
        le_antisymm (neg_nonneg.1 nonneg) (magnitude_nonneg m e)
      have whole : (((ratio m e).1 / (ratio m e).2 : ℕ) : ℤ) = 0 := by
        rw [← quotient, zero, Int.floor_zero]
      have truncated : (finite true m e).truncate? =
          some (-(((ratio m e).1 / (ratio m e).2 : ℕ) : ℤ)) := rfl
      rw [truncated, whole, if_pos rfl, zero, neg_zero, neg_zero, Int.floor_zero]
  | infinite negative => cases value
  | nan => cases value

end Binary64

namespace Number

theorem whole_of_nonneg {x : Number} {q : ℚ} (value : x.toRat? = some q) (nonneg : 0 ≤ q) :
    x.whole = .ok ⌊q⌋ := by
  cases x with
  | int n =>
    cases value
    rw [whole, Int.floor_intCast]
  | real x => rw [whole, Binary64.truncate?_of_nonneg value nonneg]

theorem whole_of_none {x : Number} (value : x.toRat? = none) : ∃ cause, x.whole = .error cause := by
  cases x with
  | int n => cases value
  | real x =>
    cases x with
    | finite negative m e => cases value
    | infinite negative => exact ⟨_, rfl⟩
    | nan => exact ⟨_, rfl⟩

theorem isPositive_of_toRat {x : Number} {q : ℚ} (value : x.toRat? = some q) :
    State.isPositive x = decide (0 < q) := by
  have zero : (Number.int 0).toRat? = some 0 := by simp [toRat?]
  rw [State.isPositive, compare?_of_toRat value zero]
  rcases lt_trichotomy q 0 with less | rfl | greater
  · simp [compare_lt_iff_lt.2 less, less.le]
  · simp
  · simp [compare_gt_iff_gt.2 greater, greater]

theorem eq_false_of_isPositive {negative : Bool} {m : Nat} {e : Int}
    (positive : State.isPositive (.real (.finite negative m e)) = true) : negative = false := by
  cases negative with
  | false => rfl
  | true =>
    have value : (Number.real (.finite true m e)).toRat? = some (-Binary64.magnitude m e) := rfl
    rw [isPositive_of_toRat value, decide_eq_true_eq] at positive
    exact absurd (Binary64.magnitude_nonneg m e) (not_le.2 (neg_pos.1 positive))

theorem exists_thousandfold (m : Nat) (e : Int) :
    ∃ num den : Nat, 0 < den ∧ (num : ℚ) / den = Binary64.magnitude m e * 1000 ∧
      (Number.real (.finite false m e)).thousandfold = .real (.ofRatio false num den) := by
  obtain ⟨num, den, positive, product, rounds⟩ :=
    Binary64.exists_mul m (1000 * 2 ^ 43) e (-43)
  refine ⟨num, den, positive, by rw [product, Binary64.magnitude_thousand], ?_⟩
  rw [thousandfold, Binary64.ofNat_thousand, rounds]

/-- What the thousandfold of a number that is positive comes to, if it is finite: it is not negative,
and one or more from a thousandth on. -/
theorem thousandfold_bounds {x : Number} (positive : State.isPositive x = true) {p : ℚ}
    (value : x.thousandfold.toRat? = some p) :
    ∃ q, x.toRat? = some q ∧ 0 ≤ p ∧ (1 / 1000 ≤ q → 1 ≤ p) := by
  cases x with
  | int n =>
    have real : (Number.int n).toRat? = some (n : ℚ) := rfl
    rw [isPositive_of_toRat real, decide_eq_true_eq] at positive
    obtain rfl : ((1000 * n : ℤ) : ℚ) = p := Option.some.inj value
    push_cast
    exact ⟨n, rfl, by linarith, fun least => by linarith⟩
  | real x =>
    cases x with
    | finite negative m e =>
      obtain rfl := eq_false_of_isPositive positive
      obtain ⟨num, den, divisor, product, rounds⟩ := exists_thousandfold m e
      rw [rounds] at value
      -- small whole numbers have doubles of their own, below which no product is rounded
      have bound {n : Nat} (small : n < 2 ^ 53) (le : (n : ℚ) ≤ Binary64.magnitude m e * 1000) :
          (n : ℚ) ≤ p := by
        have whole : Binary64.magnitude n 0 = n := by simp [Binary64.magnitude]
        rw [← whole, ← product] at le
        rw [← whole]
        exact Binary64.le_of_toRat divisor small (by decide) le value
      have nonneg := Binary64.magnitude_nonneg m e
      refine ⟨Binary64.magnitude m e, rfl, ?_, fun least => ?_⟩
      · exact_mod_cast bound (n := 0) (by decide) (by simpa using nonneg)
      · exact_mod_cast bound (n := 1) (by decide) (by push_cast; linarith)
    | infinite negative => cases value
    | nan => cases value

end Number

namespace State

theorem isPositive_of_readTimeout {name : String} {raw : Json} {seconds : Number}
    (h : readTimeout name raw = .ok (some seconds)) : isPositive seconds = true := by
  unfold readTimeout at h
  split at h
  · cases h
  · split at h
    · split at h
      · next positive =>
        cases h
        exact positive
      · cases h
    · cases h

theorem isPositive_of_readTask {name handler : String} {raw : Json} {seconds : Number}
    (h : readTask name raw = .ok (.task handler (some seconds))) : isPositive seconds = true := by
  unfold readTask at h
  split at h
  · split at h
    · obtain ⟨timeout, read, h⟩ := bind_eq_ok.1 h
      cases h
      exact isPositive_of_readTimeout read
    · cases h
  · cases h

theorem isPositive_of_load {name handler : String} {raw : Json} {state : State} {seconds : Number}
    (h : load name raw = .ok state) (kind : state.kind = .task handler (some seconds)) :
    isPositive seconds = true :=
  isPositive_of_readTask (readTask_of_load h kind)

theorem act_task {state : State} {handler : String} {timeout : Option Number}
    {data input : Data} {context : Json} (kind : state.kind = .task handler timeout)
    (read : Path.applyTo data context state.inputPath = .ok input) (now : Int) :
    state.act data context now =
      (ownTimeout timeout).map fun own => .call ⟨handler, input.value, context, own⟩ := by
  simp only [act, kind, effectiveInput, read]
  cases ownTimeout timeout <;> rfl

/-- Every invoker gives a call as much time: the seconds by a thousand without their fraction. -/
def Overrides (state : State) (seconds : Number) (data : Data) (context : Json) (now : Int) : Prop :=
  ∃ call product, state.act data context now = .ok (.call call) ∧
    seconds.thousandfold.toRat? = some product ∧
    ∀ (invoker : Invoker) tag, (invoker.invocation tag call).timeoutMillis = .int ⌊product⌋

section act

variable {state : State} {handler : String} {seconds : Number} {data input : Data} {context : Json}

theorem timeoutMillis_of_some (positive : isPositive seconds = true) {product : ℚ}
    (value : seconds.thousandfold.toRat? = some product) (invoker : Invoker) (tag : String) :
    (invoker.invocation tag ⟨handler, input.value, context, some ⌊product⌋⟩).timeoutMillis =
      .int (if product < 1 then invoker.timeoutMillis else ⌊product⌋) := by
  obtain ⟨q, -, nonneg, -⟩ := Number.thousandfold_bounds positive value
  have zero : ⌊product⌋ = 0 ↔ product < 1 := by
    rw [Int.floor_eq_zero_iff, Set.mem_Ico, and_iff_right nonneg]
  have chosen : (invoker.invocation tag ⟨handler, input.value, context, some ⌊product⌋⟩).timeoutMillis =
      if ⌊product⌋ == 0 then .int invoker.timeoutMillis else .int ⌊product⌋ := rfl
  rw [chosen, apply_ite Number.int]
  simp only [beq_iff_eq, zero]

variable (kind : state.kind = .task handler (some seconds))
  (read : Path.applyTo data context state.inputPath = .ok input)

include kind read

theorem act_of_some (positive : isPositive seconds = true) {product : ℚ}
    (value : seconds.thousandfold.toRat? = some product) (now : Int) :
    state.act data context now = .ok (.call ⟨handler, input.value, context, some ⌊product⌋⟩) := by
  obtain ⟨q, -, nonneg, -⟩ := Number.thousandfold_bounds positive value
  rw [act_task kind read, ownTimeout, Number.whole_of_nonneg value nonneg]
  rfl

theorem act_of_none (value : seconds.thousandfold.toRat? = none) (now : Int) :
    ∃ cause, state.act data context now = .error (.timeout cause) := by
  obtain ⟨cause, fails⟩ := Number.whole_of_none value
  refine ⟨cause, ?_⟩
  rw [act_task kind read, ownTimeout, fails]
  rfl

theorem overrides_iff_of_isPositive (positive : isPositive seconds = true) (now : Int) :
    state.Overrides seconds data context now ↔
      ∃ product, seconds.thousandfold.toRat? = some product ∧ 1 ≤ product := by
  constructor
  · rintro ⟨call, product, acts, value, takes⟩
    refine ⟨product, value, not_lt.1 fun short => ?_⟩
    obtain rfl := Action.call.inj
      (Except.ok.inj (acts.symm.trans (act_of_some kind read positive value now)))
    -- an invoker that is configured with another time
    have own := takes ⟨⌊product⌋ + 1, Invoker.usualRoot, none⟩ ""
    rw [timeoutMillis_of_some positive value, if_pos short] at own
    exact absurd (Number.int.inj own) (by simp)
  · rintro ⟨product, value, long⟩
    refine ⟨_, product, act_of_some kind read positive value now, value, fun invoker tag => ?_⟩
    rw [timeoutMillis_of_some positive value, if_neg (not_lt.2 long)]

end act

/-- The time of a task overrides the configured one exactly if its thousandfold is finite and one or
more. A shorter one leaves the call to the configured time, and with one that is not finite the task
fails before any call. -/
theorem overrides_iff {raw : Json} {definition : Definition} {machine : Machine} {state : State}
    {handler : String} {seconds : Number} {data input : Data} {context : Json}
    (loaded : Definition.load raw = .ok definition) (mem : machine ∈ definition.machines)
    (mem' : state ∈ machine.states) (kind : state.kind = .task handler (some seconds))
    (read : Path.applyTo data context state.inputPath = .ok input) (now : Int) :
    (state.Overrides seconds data context now ↔
      ∃ product, seconds.thousandfold.toRat? = some product ∧ 1 ≤ product) ∧
    (∀ product, seconds.thousandfold.toRat? = some product → product < 1 →
      ∃ call, state.act data context now = .ok (.call call) ∧ ∀ (invoker : Invoker) tag,
        (invoker.invocation tag call).timeoutMillis = .int invoker.timeoutMillis) ∧
    (seconds.thousandfold.toRat? = none →
      ∃ cause, state.act data context now = .error (.timeout cause)) := by
  obtain ⟨name, source, own⟩ := Definition.exists_of_load loaded machine mem state mem'
  have positive := isPositive_of_load own kind
  refine ⟨overrides_iff_of_isPositive kind read positive now, fun product value short => ?_,
    fun value => act_of_none kind read value now⟩
  refine ⟨_, act_of_some kind read positive value now, fun invoker tag => ?_⟩
  rw [timeoutMillis_of_some positive value, if_pos short]

theorem overrides_of_millisecond {raw : Json} {definition : Definition} {machine : Machine}
    {state : State} {handler : String} {seconds : Number} {data input : Data} {context : Json}
    (loaded : Definition.load raw = .ok definition) (mem : machine ∈ definition.machines)
    (mem' : state ∈ machine.states) (kind : state.kind = .task handler (some seconds))
    (read : Path.applyTo data context state.inputPath = .ok input) {q product : ℚ}
    (value : seconds.toRat? = some q) (least : 1 / 1000 ≤ q)
    (finite : seconds.thousandfold.toRat? = some product) (now : Int) :
    state.Overrides seconds data context now := by
  obtain ⟨name, source, own⟩ := Definition.exists_of_load loaded machine mem state mem'
  have positive := isPositive_of_load own kind
  obtain ⟨q', value', -, bound⟩ := Number.thousandfold_bounds positive finite
  obtain rfl : q = q' := Option.some.inj (value.symm.trans value')
  exact (overrides_iff_of_isPositive kind read positive now).2 ⟨product, finite, bound least⟩

def timedState (seconds : Number) : State :=
  .base "A" (.obj [("Type", .str "Task"), ("handler", .str "handlers.echo"),
    ("TimeoutSeconds", seconds.toJson), ("End", .bool true)]) (.task "handlers.echo" (some seconds))

def timedMachine (seconds : Number) : Machine where
  name := "m"
  comment := .null
  startAt := "A"
  states := [timedState seconds]

def timed (seconds : Number) : Json :=
  .obj [("m", .obj [("StartAt", .str "A"), ("States", .obj [("A", .obj [("Type", .str "Task"),
    ("handler", .str "handlers.echo"), ("TimeoutSeconds", seconds.toJson),
    ("End", .bool true)])])])]

def oneAndHalf : Number := .real (.finite false 6755399441055744 (-52))

theorem load_oneAndHalf : Definition.load (timed oneAndHalf) = .ok ⟨[timedMachine oneAndHalf]⟩ := by
  rfl

theorem thousandfold_oneAndHalf : oneAndHalf.thousandfold.toRat? = some 1500 := by
  have same : oneAndHalf.thousandfold = .real (.finite false 6597069766656000 (-42)) := by
    decide +kernel
  rw [same]
  norm_num [Number.toRat?, Binary64.toRat?, Binary64.magnitude]

theorem overrides_iff_oneAndHalf :
    Path.applyTo (.ofJson (.obj [])) .null (timedState oneAndHalf).inputPath =
        .ok (.ofJson (.obj [])) ∧
      (timedState oneAndHalf).Overrides oneAndHalf (.ofJson (.obj [])) .null 0 :=
  ⟨rfl, (overrides_iff load_oneAndHalf List.mem_cons_self List.mem_cons_self rfl rfl 0).1.2
    ⟨1500, thousandfold_oneAndHalf, by norm_num⟩⟩

def tenThousandth : Number := .real (.finite false 7378697629483821 (-66))

theorem load_tenThousandth :
    Definition.load (timed tenThousandth) = .ok ⟨[timedMachine tenThousandth]⟩ := by
  rfl

theorem thousandfold_tenThousandth : ∃ product, product < 1 ∧
    tenThousandth.thousandfold.toRat? = some product := by
  have same : tenThousandth.thousandfold = .real (.finite false 7205759403792794 (-56)) := by
    decide +kernel
  refine ⟨Binary64.magnitude 7205759403792794 (-56), ?_, by rw [same]; rfl⟩
  norm_num [Binary64.magnitude]

/-- Not every time that is accepted overrides the configured one. -/
theorem time_may_not_override :
    ¬ ∀ raw definition, Definition.load raw = .ok definition → ∀ machine ∈ definition.machines,
      ∀ state ∈ machine.states, ∀ handler seconds, state.kind = .task handler (some seconds) →
        ∀ data context input now, Path.applyTo data context state.inputPath = .ok input →
          state.Overrides seconds data context now := by
  intro always
  obtain ⟨product, short, value⟩ := thousandfold_tenThousandth
  have read : Path.applyTo (.ofJson (.obj [])) .null (timedState tenThousandth).inputPath =
      .ok (.ofJson (.obj [])) := rfl
  have overrides : (timedState tenThousandth).Overrides tenThousandth (.ofJson (.obj [])) .null 0 :=
    always _ _ load_tenThousandth _ List.mem_cons_self _ List.mem_cons_self _ _ rfl _ _ _ 0 read
  obtain ⟨product', value', long⟩ :=
    (overrides_iff_of_isPositive rfl read (by decide +kernel) 0).1 overrides
  obtain rfl : product = product' := Option.some.inj (value.symm.trans value')
  exact absurd long (not_le.2 short)

end State

end StateFlow
