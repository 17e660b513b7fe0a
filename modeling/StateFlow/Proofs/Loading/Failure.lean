import StateFlow.Proofs.Loading

/-!
How loading fails. Whatever is wrong with a definition is reported as a fault of it, but for the
keys that are looked up without a check: the `Type` of a state, the `StartAt` of a machine and the
names of next states. `Definition.LooksUp` says which keys those are, in the order of loading, and
`Definition.load_breaks_iff` that loading fails in any other way exactly on a key that is a list or
an object, or a whole number too long to be written into the report.
-/
namespace StateFlow

namespace LoadError

def IsDefinition : LoadError → Prop
  | .definition _ => True
  | .unhashable _ | .unwritable => False

theorem ofKey?_eq_some {key : Json} {error : LoadError} :
    ofKey? key = some error ↔ (key.isHashable = false ∧ error = .unhashable key) ∨
      ∃ n, key = .int n ∧ Text.isWritable n = false ∧ error = .unwritable := by
  cases key with
  | int n =>
    cases writable : Text.isWritable n <;>
      simp [ofKey?, Json.isHashable, Json.isWritable, writable, @eq_comm _ error]
  | _ => simp [ofKey?, Json.isHashable, Json.isWritable, @eq_comm _ error]

theorem not_isDefinition_of_ofKey? {key : Json} {error : LoadError}
    (fault : ofKey? key = some error) : ¬ error.IsDefinition := by
  rcases ofKey?_eq_some.1 fault with ⟨-, rfl⟩ | ⟨n, -, -, rfl⟩ <;> exact id

end LoadError

/-- A step of loading that fails with a fault of the definition only. -/
def Loading.Reports {α : Type} (step : Loading α) : Prop :=
  ∀ error, step = .error error → error.IsDefinition

namespace Loading.Reports

variable {α β : Type}

theorem ok (a : α) : Reports (.ok a) := nofun

theorem definition (cause : DefinitionError) :
    Reports (.error (.definition cause) : Loading α) := by
  intro error same
  cases same
  trivial

theorem bind {step : Loading α} {next : α → Loading β} (first : step.Reports)
    (second : ∀ a, (next a).Reports) : Reports (step >>= next) := by
  intro error failed
  rcases bind_eq_error.1 failed with failed | ⟨a, -, failed⟩
  · exact first error failed
  · exact second a error failed

theorem map {step : Loading α} (f : α → β) (reports : step.Reports) : Reports (step.map f) :=
  fun error failed => reports error (map_eq_error.1 failed)

end Loading.Reports

namespace State

open Loading

theorem reports_checkNext (state : State) : (checkNext state).Reports := by
  unfold checkNext
  split
  · split
    · exact .ok ()
    · exact .definition _
  · split
    · exact .ok ()
    · exact .definition _

theorem reports_readTimeout (name : String) (raw : Json) : (readTimeout name raw).Reports := by
  unfold readTimeout
  split
  · exact .ok none
  · split
    · split
      · exact .ok _
      · exact .definition _
    · exact .definition _

theorem reports_readTask (name : String) (raw : Json) : (readTask name raw).Reports := by
  unfold readTask
  split
  · split
    · exact .bind (reports_readTimeout name _) fun _ => .ok _
    · exact .definition _
  · exact .definition _

theorem reports_readDelay (name : String) (raw : Json) : (readDelay name raw).Reports := by
  unfold readDelay
  split
  · exact .ok _
  · exact .ok _
  · exact .definition _

theorem reports_readChoices (name : String) (index : Nat) (raws : List Json) :
    (readChoices name index raws).Reports := by
  induction raws generalizing index with
  | nil => exact .ok _
  | cons raw raws ih =>
    simp only [readChoices]
    split
    · exact .bind (ih _) fun _ => .ok _
    · exact .definition _

theorem reports_readChoice (name : String) (raw : Json) : (readChoice name raw).Reports := by
  unfold readChoice
  split
  · exact .bind (reports_readChoices name 0 _) fun _ => .ok _
  · exact .definition _

theorem reports_readChecked (name : String) (raw : Json) {kind : Loading StateKind}
    (reports : kind.Reports) : (readChecked name raw kind).Reports :=
  .bind (reports_checkNext _) fun _ => .bind reports fun _ => .ok _

theorem load_breaks_by_type_iff {name : String} {raw : Json} {error : LoadError} :
    load name raw = .error error ∧ ¬ error.IsDefinition ↔
      (∃ fields, raw = .obj fields) ∧ LoadError.ofKey? (raw.field "Type") = some error := by
  unfold load
  split
  · next fields =>
    have known {step : Loading State} {type : String} (reports : step.Reports) :
        step = .error error ∧ ¬ error.IsDefinition ↔
          (∃ inner, Json.obj fields = .obj inner) ∧ LoadError.ofKey? (.str type) = some error := by
      constructor
      · rintro ⟨failed, other⟩
        exact absurd (reports error failed) other
      · rintro ⟨-, fault⟩
        cases fault
    split
    · next same => exact same ▸ known (reports_readChecked name _ (reports_readTask name _))
    · next same => exact same ▸ known (reports_readChecked name _ (.ok _))
    · next same =>
      exact same ▸ known (reports_readChecked name _ (.map _ (reports_readDelay name _)))
    · next same => exact same ▸ known (.map _ (reports_readChoice name _))
    · next same => exact same ▸ known (.ok _)
    · next same => exact same ▸ known (.ok _)
    · next same => exact same ▸ known (reports_readChecked name _ (.ok _))
    · next same => exact same ▸ known (reports_readChecked name _ (.ok _))
    · rw [refuseKey_eq_error]
      constructor
      · rintro ⟨fault | ⟨-, rfl⟩, other⟩
        · exact ⟨⟨fields, rfl⟩, fault⟩
        · exact absurd trivial other
      · rintro ⟨-, fault⟩
        exact ⟨.inl fault, LoadError.not_isDefinition_of_ofKey? fault⟩
  · next noObject =>
    constructor
    · rintro ⟨failed, other⟩
      exact absurd (Reports.definition _ error failed) other
    · rintro ⟨⟨fields, rfl⟩, -⟩
      exact absurd rfl (noObject fields)

end State

namespace Machine

/-- The keys that are looked up while a machine is read: the types of its states up to the first
that cannot be read, the start if all of them can, and what the states name up to the first that is
not one of them. -/
inductive LooksUp (raw : Json) : Json → Prop
  | type {before after : List (String × Json)} {name : String} {fields : List (String × Json)}
      (given : raw.field "States" = .obj (before ++ (name, .obj fields) :: after))
      (earlier : ∀ state ∈ before, ∃ loaded, State.load state.1 state.2 = .ok loaded) :
      LooksUp raw ((Json.obj fields).field "Type")
  | start {given : List (String × Json)} {states : List State}
      (states_given : raw.field "States" = .obj given) (some_given : given ≠ [])
      (loaded : loadStates given = .ok states) : LooksUp raw (raw.field "StartAt")
  | target {given : List (String × Json)} {before after states : List State} {state : State}
      {sooner later : List (String × Json)} {field : String} {key : Json}
      (states_given : raw.field "States" = .obj given) (some_given : given ≠ [])
      (loaded : loadStates given = .ok states)
      (started : names states (raw.field "StartAt") = .ok true)
      (place : states = before ++ state :: after)
      (earlier : ∀ other ∈ before, ∀ transition ∈ other.transitions,
        names states transition.2 = .ok true)
      (inside : state.transitions = sooner ++ (field, key) :: later)
      (named : ∀ transition ∈ sooner, names states transition.2 = .ok true) : LooksUp raw key

theorem loadStates_breaks_iff {given : List (String × Json)} {error : LoadError} :
    loadStates given = .error error ∧ ¬ error.IsDefinition ↔
      ∃ before state after, given = before ++ state :: after ∧
        (∀ other ∈ before, ∃ loaded, State.load other.1 other.2 = .ok loaded) ∧
        (State.load state.1 state.2 = .error error ∧ ¬ error.IsDefinition) := by
  refine traversal_fails_iff
    (fun given => loadStates given = .error error ∧ ¬ error.IsDefinition) ?_ ?_
  · rintro ⟨⟨⟩, -⟩
  · rintro ⟨name, raw⟩ rest
    cases loaded : State.load name raw <;>
      simp [loadStates, loaded, bind_eq_error, pure, Except.pure]

theorem ofKey?_of_names {states : List State} {key : Json} (named : names states key = .ok true) :
    LoadError.ofKey? key = none := by
  cases key with
  | str name => rfl
  | _ => simp [names, Json.isHashable, pure, Except.pure] at named

theorem ofKey?_of_names_error {states : List State} {key : Json} {error : LoadError}
    (refused : names states key = .error error) : LoadError.ofKey? key = some error := by
  cases key <;> simp_all [names, LoadError.ofKey?, Json.isHashable, pure, Except.pure]

theorem look_breaks_iff {states : List State} {key : Json} {error : LoadError}
    {cause : DefinitionError} {α : Type} {next : Loading α} :
    (do if ← names states key then next else refuseKey key cause) = .error error ∧
      ¬ error.IsDefinition ↔
    (names states key = .ok true ∧ next = .error error ∧ ¬ error.IsDefinition) ∨
      LoadError.ofKey? key = some error := by
  cases found : names states key with
  | error fault =>
    have fault := ofKey?_of_names_error found
    have foreign := LoadError.not_isDefinition_of_ofKey? fault
    constructor
    · rintro ⟨refused, -⟩
      cases refused
      exact .inr fault
    · rintro (⟨named, -⟩ | same)
      · cases named
      · cases fault.symm.trans same
        exact ⟨rfl, foreign⟩
  | ok named =>
    cases named with
    | true => simp [bind, Except.bind, ofKey?_of_names found]
    | false =>
      simp only [bind, Except.bind, Bool.false_eq_true, if_false, refuseKey_eq_error,
        false_and, false_or, Except.ok.injEq]
      constructor
      · rintro ⟨fault | ⟨-, rfl⟩, other⟩
        · exact fault
        · exact absurd trivial other
      · exact fun fault => ⟨.inl fault, LoadError.not_isDefinition_of_ofKey? fault⟩

theorem checkTransitions_breaks_iff {machine : String} {states : List State} {state : State}
    {transitions : List (String × Json)} {error : LoadError} :
    checkTransitions machine states state transitions = .error error ∧ ¬ error.IsDefinition ↔
      ∃ before transition after, transitions = before ++ transition :: after ∧
        (∀ other ∈ before, names states other.2 = .ok true) ∧
        LoadError.ofKey? transition.2 = some error := by
  refine traversal_fails_iff (fun transitions =>
    checkTransitions machine states state transitions = .error error ∧ ¬ error.IsDefinition) ?_ ?_
  · rintro ⟨⟨⟩, -⟩
  · exact fun _ _ => look_breaks_iff

theorem checkTransitions_eq_ok {machine : String} {states : List State} {state : State}
    {transitions : List (String × Json)} :
    checkTransitions machine states state transitions = .ok () ↔
      ∀ transition ∈ transitions, names states transition.2 = .ok true := by
  induction transitions with
  | nil => simp [checkTransitions, pure, Except.pure]
  | cons first rest ih =>
    simp only [checkTransitions, List.forall_mem_cons, ← ih]
    cases names states first.2 with
    | error fault => simp [bind, Except.bind]
    | ok named => cases named <;> simp [bind, Except.bind, refuseKey_ne_ok]

theorem checkStates_breaks_iff {machine : String} {states checked : List State}
    {error : LoadError} :
    checkStates machine states checked = .error error ∧ ¬ error.IsDefinition ↔
      ∃ before state after, checked = before ++ state :: after ∧
        (∀ other ∈ before, ∀ transition ∈ other.transitions,
          names states transition.2 = .ok true) ∧
        (checkTransitions machine states state state.transitions = .error error ∧
          ¬ error.IsDefinition) := by
  refine traversal_fails_iff (fun checked =>
    checkStates machine states checked = .error error ∧ ¬ error.IsDefinition)
    ?_ fun state rest => ?_
  · rintro ⟨⟨⟩, -⟩
  · rw [checkStates, ← checkTransitions_eq_ok]
    cases checkTransitions machine states state state.transitions <;> simp [bind, Except.bind]

theorem load_of_states {name : String} {raw : Json} {given : List (String × Json)}
    (states_given : raw.field "States" = .obj given) (some_given : given ≠ []) :
    load name raw = (do
      let states ← loadStates given
      if ← names states (raw.field "StartAt") then
        checkStates name states states
        pure ⟨name, raw.field "Comment", (raw.field "StartAt").display, states⟩
      else refuseKey (raw.field "StartAt") (.noStart (raw.field "StartAt") name)) := by
  obtain ⟨first, rest, rfl⟩ := List.exists_cons_of_ne_nil some_given
  cases raw with
  | obj fields => simp [load, states_given]
  | _ => cases states_given

theorem reports_load_of_no_states {name : String} {raw : Json}
    (no_states : ¬ ∃ given, raw.field "States" = .obj given ∧ given ≠ []) :
    (load name raw).Reports := by
  unfold load
  split
  · split
    · next same => exact absurd ⟨_, same, List.cons_ne_nil _ _⟩ no_states
    · exact .definition _
  · exact .definition _

theorem states_break_iff {given : List (String × Json)} {error : LoadError} :
    loadStates given = .error error ∧ ¬ error.IsDefinition ↔
      ∃ before name fields after, given = before ++ (name, .obj fields) :: after ∧
        (∀ other ∈ before, ∃ loaded, State.load other.1 other.2 = .ok loaded) ∧
        LoadError.ofKey? ((Json.obj fields).field "Type") = some error := by
  rw [loadStates_breaks_iff]
  constructor
  · rintro ⟨before, ⟨name, state⟩, after, place, earlier, failed⟩
    obtain ⟨⟨fields, rfl⟩, fault⟩ := State.load_breaks_by_type_iff.1 failed
    exact ⟨before, name, fields, after, place, earlier, fault⟩
  · rintro ⟨before, name, fields, after, place, earlier, fault⟩
    exact ⟨before, (name, .obj fields), after, place, earlier,
      State.load_breaks_by_type_iff.2 ⟨⟨fields, rfl⟩, fault⟩⟩

theorem load_breaks_by_key_iff {name : String} {raw : Json} {error : LoadError} :
    load name raw = .error error ∧ ¬ error.IsDefinition ↔
      ∃ key, LooksUp raw key ∧ LoadError.ofKey? key = some error := by
  constructor
  · rintro ⟨failed, foreign⟩
    by_cases no_states : ∃ given, raw.field "States" = .obj given ∧ given ≠ []
    case neg => exact absurd (reports_load_of_no_states no_states error failed) foreign
    obtain ⟨given, states_given, some_given⟩ := no_states
    rw [load_of_states states_given some_given] at failed
    rcases bind_eq_error.1 failed with failed | ⟨states, loaded, failed⟩
    · obtain ⟨before, _, fields, after, rfl, earlier, fault⟩ :=
        states_break_iff.1 ⟨failed, foreign⟩
      exact ⟨_, .type states_given earlier, fault⟩
    rcases look_breaks_iff.1 ⟨failed, foreign⟩ with ⟨started, failed, -⟩ | fault
    · obtain failed | ⟨⟨⟩, -, failed⟩ := bind_eq_error.1 failed
      · obtain ⟨before, state, after, place, earlier, failed⟩ :=
          checkStates_breaks_iff.1 ⟨failed, foreign⟩
        obtain ⟨sooner, ⟨field, key⟩, later, inside, named, fault⟩ :=
          checkTransitions_breaks_iff.1 failed
        exact ⟨key, .target states_given some_given loaded started place earlier inside named,
          fault⟩
      · cases failed
    · exact ⟨_, .start states_given some_given loaded, fault⟩
  · rintro ⟨key, looked, fault⟩
    have foreign := LoadError.not_isDefinition_of_ofKey? fault
    refine ⟨?_, foreign⟩
    cases looked with
    | @type before after name fields states_given earlier =>
      have broken := states_break_iff.2 ⟨before, name, fields, after, rfl, earlier, fault⟩
      rw [load_of_states states_given (by simp), broken.1]
      rfl
    | start states_given some_given loaded =>
      rw [load_of_states states_given some_given, loaded]
      exact (look_breaks_iff.2 (.inr fault)).1
    | @target _ _ _ states _ _ _ _ _ states_given some_given loaded started place earlier inside
        named =>
      have broken : checkStates name states states = .error error ∧ ¬ error.IsDefinition :=
        checkStates_breaks_iff.2 ⟨_, _, _, place, earlier,
          checkTransitions_breaks_iff.2 ⟨_, _, _, inside, named, fault⟩⟩
      rw [load_of_states states_given some_given, loaded]
      refine (look_breaks_iff.2 (.inl ⟨started, ?_, foreign⟩)).1
      rw [broken.1]
      rfl

end Machine

namespace Definition

def value? : Json → Option Json
  | .str text => (Json.decode text).toOption
  | raw => some raw

inductive LooksUp (raw key : Json) : Prop
  | machine {fields before after : List (String × Json)} {name : String} {body : Json}
      (given : value? raw = some (.obj fields))
      (place : machinesIn fields = before ++ (name, body) :: after)
      (earlier : ∀ other ∈ before, ∃ loaded, Machine.load other.1 (unwrapped other.2) = .ok loaded)
      (inside : Machine.LooksUp (unwrapped body) key)

theorem loadMachines_breaks_iff {given : List (String × Json)} {error : LoadError} :
    loadMachines given = .error error ∧ ¬ error.IsDefinition ↔
      ∃ before machine after, given = before ++ machine :: after ∧
        (∀ other ∈ before, ∃ loaded, Machine.load other.1 (unwrapped other.2) = .ok loaded) ∧
        (Machine.load machine.1 (unwrapped machine.2) = .error error ∧ ¬ error.IsDefinition) := by
  refine traversal_fails_iff
    (fun given => loadMachines given = .error error ∧ ¬ error.IsDefinition) ?_ ?_
  · rintro ⟨⟨⟩, -⟩
  · rintro ⟨name, raw⟩ rest
    cases loaded : Machine.load name (unwrapped raw) <;>
      simp [loadMachines, loaded, bind_eq_error, pure, Except.pure]

theorem reports_of_no_machines {raw : Json}
    (no_fields : ∀ fields, value? raw ≠ some (.obj fields)) :
    (Definition.load raw).Reports := by
  have ofValue_reports {value : Json} (given : value? raw = some value) :
      (ofValue value).Reports := by
    unfold ofValue
    split
    · next fields => exact absurd given (no_fields fields)
    · exact .definition _
  unfold Definition.load
  split
  · next text =>
    split
    · next value decoded => exact ofValue_reports (by simp [value?, decoded, Except.toOption])
    · exact .definition _
  · next no_text =>
    refine ofValue_reports ?_
    unfold value?
    split
    · next text => exact absurd rfl (no_text text)
    · rfl

theorem load_of_value {raw : Json} {fields : List (String × Json)}
    (given : value? raw = some (.obj fields)) :
    Definition.load raw = (loadMachines (machinesIn fields)).map Definition.mk := by
  unfold value? at given
  split at given
  · next text =>
    cases decoded : Json.decode text with
    | error cause => simp [decoded, Except.toOption] at given
    | ok value =>
      obtain rfl : value = .obj fields := by simpa [decoded, Except.toOption] using given
      simp [Definition.load, decoded, ofValue]
  · cases given
    rfl

/-- Loading fails with anything but a fault of the definition exactly if it looks up a list, an
object or a whole number that is too long to be written. -/
theorem load_breaks_iff (raw : Json) (error : LoadError) :
    Definition.load raw = .error error ∧ ¬ error.IsDefinition ↔
      ∃ key, LooksUp raw key ∧
        ((key.isHashable = false ∧ error = .unhashable key) ∨
          ∃ n, key = .int n ∧ Text.isWritable n = false ∧ error = .unwritable) := by
  simp only [← LoadError.ofKey?_eq_some]
  constructor
  · rintro ⟨failed, foreign⟩
    by_cases has_fields : ∃ fields, value? raw = some (.obj fields)
    case neg => exact absurd (reports_of_no_machines (not_exists.1 has_fields) error failed) foreign
    obtain ⟨fields, given⟩ := has_fields
    rw [load_of_value given, map_eq_error] at failed
    obtain ⟨before, ⟨name, body⟩, after, place, earlier, failed⟩ :=
      loadMachines_breaks_iff.1 ⟨failed, foreign⟩
    obtain ⟨key, inside, fault⟩ := Machine.load_breaks_by_key_iff.1 failed
    exact ⟨key, .machine given place earlier inside, fault⟩
  · rintro ⟨key, ⟨given, place, earlier, inside⟩, fault⟩
    have broken := loadMachines_breaks_iff.2
      ⟨_, _, _, place, earlier, Machine.load_breaks_by_key_iff.2 ⟨key, inside, fault⟩⟩
    rw [load_of_value given, map_eq_error]
    exact broken

/-- A list where the type of a state stands is not reported as a fault of the definition. -/
theorem load_list_type :
    Definition.load (.obj [("m", .obj [("StartAt", .str "A"),
      ("States", .obj [("A", .obj [("Type", .arr [])])])])]) = .error (.unhashable (.arr [])) ∧
    ¬ (LoadError.unhashable (.arr [])).IsDefinition := ⟨rfl, id⟩

end Definition

end StateFlow
