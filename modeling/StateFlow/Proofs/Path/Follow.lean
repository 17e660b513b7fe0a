import StateFlow.Proofs.Path.Lens

/-!
Definite paths in use. `Follows` is what the keys of a path lead to through objects and lists. A
query along a definite path finds that value, and so does an input or an output path, unless the
text of the path looks like one with a slice; a result path finds the place of the value if it reads
the same keys, which it does unless a name has a dollar sign in it (`definite_path_addresses`).
-/
namespace StateFlow

namespace Path

/-- A key is the name of a member, or the index of an item in no more digits than are read. -/
inductive Follows : List (List Char) → Json → Json → Prop
  | here (value : Json) : Follows [] value value
  | member {name : List Char} {rest : List (List Char)} {fields : List (String × Json)}
    {child value : Json} (found : Json.lookup (String.ofList name) fields = some child)
    (below : Follows rest child value) : Follows (name :: rest) (.obj fields) value
  | item {digits : List Char} {rest : List (List Char)} {items : List Json} {child value : Json}
    (numeral : IsNumeral digits) (short : digits.length ≤ Text.digitLimit)
    (found : items[Decimal.value digits]? = some child) (below : Follows rest child value) :
    Follows (digits :: rest) (.arr items) value

theorem child?_item {digits : List Char} (numeral : IsNumeral digits)
    (short : digits.length ≤ Text.digitLimit) (items : List Json) :
    ResultPath.child? (.arr items) (String.ofList digits) = items[Decimal.value digits]? := by
  have read := Text.readInteger_digits numeral.1 numeral.2
  rw [if_neg (Nat.not_lt.2 short)] at read
  rw [ResultPath.child?_arr read, itemAt?_natCast]

theorem Follows.get? {keys : List (List Char)} {data value : Json}
    (follows : Follows keys data value) :
    ResultPath.get? (keys.map String.ofList) data = some value := by
  induction follows with
  | here value => rfl
  | member found below ih =>
    rw [List.map_cons, ResultPath.get?, ResultPath.child?, found, Option.bind_some, ih]
  | item numeral short found below ih =>
    rw [List.map_cons, ResultPath.get?, child?_item numeral short, found, Option.bind_some, ih]

theorem Follows.full {key : List Char} {rest : List (List Char)} {data value : Json}
    (follows : Follows (key :: rest) data value) : data.isFalsy = false := by
  cases follows with
  | @member _ _ fields _ _ found below =>
    cases fields with
    | nil => cases found
    | cons field fields => rfl
  | @item _ _ items _ _ numeral short found below =>
    cases items with
    | nil => cases found
    | cons item items => rfl

theorem trace_of_get? {step : List Char} (full : step ≠ [])
    (plain : ∀ c ∈ step, isNameChar c = true) {find : Find} {child : Json}
    (found : find.value.get? (String.ofList step) = some child) (fuel : Nat)
    (rest : List (List Char)) :
    trace (fuel + 1) (step :: rest) find =
      trace fuel rest (find.part (.member (String.ofList step)) child) := by
  have apart {sign : Char} {more : List Char} (noName : isNameChar sign = false) :
      step ≠ sign :: more := fun same =>
    ne_of_isNameChar (plain sign (by rw [same]; exact List.mem_cons_self)) noName rfl
  have star : step ≠ ['*'] := apart (by decide)
  have points : step ≠ ['.', '.'] := apart (by decide)
  have mark : step ≠ ['!'] := apart (by decide)
  have unfolded := trace.eq_def (fuel + 1) (step :: rest) find
  simpa only [full, false_and, if_false, star, points, mark, found] using unfolded

theorem Follows.exists_trace {keys : List (List Char)} {data value : Json}
    (follows : Follows keys data value)
    (plain : ∀ key ∈ keys, key ≠ [] ∧ ∀ c ∈ key, isNameChar c = true) {fuel : Nat}
    (enough : keys.length < fuel) (position : Option Json.Position) :
    ∃ there, trace fuel keys ⟨data, position⟩ = .ok [⟨value, there⟩] := by
  induction follows generalizing fuel position with
  | here value =>
    cases fuel with
    | zero => cases enough
    | succ fuel => exact ⟨position, rfl⟩
  | @member name rest fields child value found below ih =>
    cases fuel with
    | zero => cases enough
    | succ fuel =>
      obtain ⟨⟨full, named⟩, others⟩ := List.forall_mem_cons.1 plain
      -- a member is taken by its name before anything else is made of the step
      have there : (Find.mk (.obj fields) position).value.get? (String.ofList name) = some child :=
        found
      rw [trace_of_get? full named there]
      exact ih others (Nat.lt_of_succ_lt_succ enough) _
  | @item digits rest items child value numeral short found below ih =>
    cases fuel with
    | zero => cases enough
    | succ fuel =>
      have taken := trace_key (.item digits numeral) fuel rest ⟨.arr items, position⟩
      simp only [ReferenceStep.key, child?_item numeral short, found] at taken
      obtain ⟨there, taken⟩ := taken
      rw [taken]
      exact ih (List.forall_mem_cons.1 plain).2 (Nat.lt_of_succ_lt_succ enough) there

namespace DefinitePath

variable {path : DefinitePath} {data value : Json}

theorem isFalsy_of_follows (full : path.steps ≠ []) (follows : Follows path.keys data value) :
    data.isFalsy = false := by
  obtain ⟨key, rest, same⟩ : ∃ key rest, path.keys = key :: rest :=
    List.exists_cons_of_ne_nil (by simpa [keys] using full)
  rw [same] at follows
  exact follows.full

theorem values_text (full : path.steps ≠ []) (follows : Follows path.keys data value) :
    values data (.str path.text) = .ok [value] := by
  have truthy := isFalsy_of_follows full follows
  have plain : ∀ key ∈ path.keys, key ≠ [] ∧ ∀ c ∈ key, isNameChar c = true := by
    intro key mem
    obtain ⟨step, -, rfl⟩ := List.mem_map.1 mem
    exact ⟨step.key_ne_nil, step.key_chars⟩
  have enough : path.keys.length < depthLimit + path.keys.length := by simp [depthLimit]
  obtain ⟨there, traced⟩ := follows.exists_trace plain enough (some [])
  have asked : query data path.text = .ok (some [⟨value, there⟩]) := by
    simp only [query, truthy, path.text_ne_empty, normalSteps_text full, Find.root, traced, bind,
      Except.bind, Bool.false_eq_true, or_self, if_false]
    rfl
  simp only [values, select, path.text?_text, asked]
  rfl

theorem text_of_nil (none : path.steps = []) : path.text = "$" := by
  simp [text, none]

theorem eq_of_nil (none : path.steps = []) (follows : Follows path.keys data value) :
    data = value := by
  rw [keys, none] at follows
  cases follows with
  | here => rfl

theorem first_text (follows : Follows path.keys data value) (context : Json) :
    first data context (.str path.text) = .ok value := by
  simp only [first, rooted, path.not_context, Bool.false_eq_true, if_false]
  by_cases none : path.steps = []
  · rw [text_of_nil none, if_pos rfl, eq_of_nil none follows]
  · have path_ne : Json.str path.text ≠ .str "$" := by simpa using text_ne_dollar none
    rw [if_neg path_ne, values_text none follows]
    rfl

theorem hasSlice_text_iff (path : DefinitePath) :
    hasSlice [] path.text.toList = true ↔ ['[', ':', ']'].Sublist path.text.toList :=
  hasSlice_iff (path.not_mem_text (by decide) (by decide))

theorem apply_text (follows : Follows path.keys data value) (context : Json) :
    apply data context (.str path.text) =
      .ok (if ['[', ':', ']'].Sublist path.text.toList then .arr [value] else value) := by
  simp only [apply, applyTo, rooted, path.text?_text, path.not_context, reduceCtorEq,
    Option.isNone_some, Bool.false_eq_true, if_false, map_value_project, Data.value_ofJson]
  by_cases none : path.steps = []
  · rw [text_of_nil none, if_pos rfl, eq_of_nil none follows]
    rfl
  · have path_ne : Json.str path.text ≠ .str "$" := by simpa using text_ne_dollar none
    rw [if_neg path_ne, values_text none follows]
    simp only [← path.hasSlice_text_iff]
    rfl

end DefinitePath

end Path

namespace ResultPath

open StateFlow.Path (DefinitePath Follows)

variable {path : DefinitePath} {data value : Json}

theorem apply_text_iff (follows : Follows path.keys data value) :
    apply data (.str path.text) value = .ok data ↔ get? (keys path.text) data = some value := by
  by_cases none : path.steps = []
  · rw [DefinitePath.text_of_nil none, DefinitePath.eq_of_nil none follows]
    exact ⟨fun _ => rfl, fun _ => rfl⟩
  · have noNull : data ≠ .null := by
      rintro rfl
      cases DefinitePath.isFalsy_of_follows none follows
    rw [apply_eq_update path.head?_text path.not_context (DefinitePath.text_ne_dollar none),
      if_neg noNull, mapError_eq_ok]
    exact ⟨get?_update, update_get?⟩

end ResultPath

/-- Where the keys of a definite path lead to a value, a query finds it. An input or an output path
gives it by itself exactly if its text does not look like one with a slice, and else a list of it; a
result path leaves it where it is exactly if the keys that it reads lead there as well, as they do
where no name has a dollar sign in it. -/
theorem definite_path_addresses {path : Path.DefinitePath} {data value : Json}
    (follows : Path.Follows path.keys data value) (context : Json) :
    Path.first data context (.str path.text) = .ok value ∧
    (Path.apply data context (.str path.text) = .ok value ↔
      ¬ ['[', ':', ']'].Sublist path.text.toList) ∧
    (['[', ':', ']'].Sublist path.text.toList →
      Path.apply data context (.str path.text) = .ok (.arr [value])) ∧
    (ResultPath.apply data (.str path.text) value = .ok data ↔
      ResultPath.get? (ResultPath.keys path.text) data = some value) ∧
    ((∀ key ∈ path.keys, '$' ∉ key) →
      ResultPath.apply data (.str path.text) value = .ok data) := by
  have applied := Path.DefinitePath.apply_text follows context
  refine ⟨Path.DefinitePath.first_text follows context, ?_, ?_,
    ResultPath.apply_text_iff follows, ?_⟩
  · by_cases slice : ['[', ':', ']'].Sublist path.text.toList
    · have wrapped : Json.arr [value] ≠ value := fun same => by
        have size := congrArg sizeOf same
        simp at size
        omega
      simp [applied, slice, wrapped]
    · simp [applied, slice]
  · intro slice
    rw [applied, if_pos slice]
  · intro noDollar
    have same : ResultPath.keys path.text = path.keys.map String.ofList :=
      Path.DefinitePath.keys_text fun step mem => noDollar _ (List.mem_map_of_mem mem)
    rw [ResultPath.apply_text_iff follows, same]
    exact follows.get?

namespace Path

def named (bracketed : Bool) (name : List Char) (full : name ≠ [])
    (plain : name.all isNameChar = true) : DefinitePath :=
  ⟨[.member bracketed name full (List.all_eq_true.1 plain)]⟩

def zeroth : DefiniteStep := .item ['0'] ⟨nofun, List.all_eq_true.1 rfl⟩

def colonPath : DefinitePath := named true ['a', ':', 'b'] nofun (by decide)

def dollarPath : DefinitePath := named false ['a', '$', 'b'] nofun (by decide)

theorem follows_colonPath :
    Follows colonPath.keys (.obj [("a:b", .int 1)]) (.int 1) := .member rfl (.here _)

theorem follows_dollarPath :
    Follows dollarPath.keys (.obj [("a$b", .int 1)]) (.int 1) := .member rfl (.here _)

end Path

theorem definite_path_addresses_colon :
    let path : Path.DefinitePath :=
      ⟨(Path.named false ['a', ':', 'b'] nofun (by decide)).steps ++ [Path.zeroth]⟩
    let data := Json.obj [("a:b", .arr [.int 7])]
    path.text = "$.a:b[0]" ∧ Path.Follows path.keys data (.int 7) ∧
      Path.first data .null (.str path.text) = .ok (.int 7) ∧
      Path.apply data .null (.str path.text) = .ok (.int 7) ∧
      ResultPath.apply data (.str path.text) (.int 7) = .ok data := by
  intro path data
  have follows : Path.Follows path.keys data (.int 7) :=
    .member rfl (.item ⟨nofun, List.all_eq_true.1 rfl⟩ (by decide) rfl (.here _))
  obtain ⟨found, plain, -, -, placed⟩ := definite_path_addresses follows .null
  have noDollar : path.keys.all (!·.contains '$') = true := by decide
  exact ⟨rfl, follows, found, plain.2 (by decide),
    placed fun key mem => by simpa using List.all_eq_true.1 noDollar key mem⟩

/-- A colon in a name in brackets makes a list of the value, and a dollar sign in a name two keys. -/
theorem definite_path_misses :
    (¬ ∀ (path : Path.DefinitePath) (data value : Json), Path.Follows path.keys data value →
      Path.apply data .null (.str path.text) = .ok value) ∧
    ¬ ∀ (path : Path.DefinitePath) (data value : Json), Path.Follows path.keys data value →
      ResultPath.apply data (.str path.text) value = .ok data := by
  constructor
  · intro always
    have same := always _ _ _ Path.follows_colonPath
    rw [Path.DefinitePath.apply_text Path.follows_colonPath, if_pos (by decide)] at same
    cases same
  · intro always
    have same := always _ _ _ Path.follows_dollarPath
    cases (ResultPath.apply_text_iff Path.follows_dollarPath).1 same

end StateFlow
