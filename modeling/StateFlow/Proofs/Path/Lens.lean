import Mathlib.Data.List.TakeDrop
import StateFlow.Path
import StateFlow.Proofs.Except
import StateFlow.Proofs.Path.Reference
import StateFlow.Proofs.Path.Unshared
import StateFlow.Proofs.Text.Numeral

/-!
Reading and writing at a reference path. `ResultPath.get?` is the value at the place where
`ResultPath.update` puts one, and the two obey the laws of a lens for keys of any kind. A query
along a reference path finds exactly that value, so input paths and result paths form a lens as
well: `reference_path_is_lens`.
-/
namespace StateFlow

namespace ResultPath

def child? (value : Json) (key : String) : Option Json :=
  match value with
  | .obj fields => Json.lookup key fields
  | .arr items =>
    match Text.readInteger key with
    | .ok index => Path.itemAt? items index
    | .error _ => none
  | _ => none

def get? : List String → Json → Option Json
  | [], value => some value
  | key :: rest, value => (child? value key).bind (get? rest)

variable {path : String} {keys : List String}

theorem update_cons_eq_ok {key : String} {rest : List String} {value root changed : Json}
    (updated : update path value (key :: rest) root = .ok changed) :
    (∃ items index place item, root = .arr items ∧ Text.readInteger key = .ok index ∧
      Path.place? items.length index = some place ∧
      update path value rest (items.getD place .null) = .ok item ∧
      changed = .arr (items.set place item)) ∨
    (∃ fields member, root = .obj fields ∧
      update path value rest ((Json.lookup key fields).getD (.obj [])) = .ok member ∧
      changed = .obj (Json.insert key member fields)) := by
  cases root with
  | arr items =>
    simp only [update] at updated
    split at updated
    · cases updated
    · next index read =>
      split at updated
      · cases updated
      · next place found =>
        obtain ⟨item, inner, same⟩ := map_eq_ok.1 updated
        exact .inl ⟨items, index, place, item, rfl, read, found, inner, same.symm⟩
  | obj fields =>
    obtain ⟨member, inner, same⟩ := map_eq_ok.1 updated
    exact .inr ⟨fields, member, rfl, inner, same.symm⟩
  | _ => cases updated

theorem child?_arr {items : List Json} {key : String} {index : Int}
    (read : Text.readInteger key = .ok index) :
    child? (.arr items) key = Path.itemAt? items index := by
  simp [child?, read]

theorem get?_update {value root changed : Json}
    (updated : update path value keys root = .ok changed) : get? keys changed = some value := by
  induction keys generalizing root changed with
  | nil =>
    cases updated
    rfl
  | cons key rest ih =>
    rcases update_cons_eq_ok updated with
      ⟨items, index, place, item, rfl, read, found, inner, rfl⟩ | ⟨fields, member, rfl, inner, rfl⟩
    · have inside : place < items.length := Path.place?_lt found
      have child : child? (.arr (items.set place item)) key = some item := by
        rw [child?_arr read, Path.itemAt?, List.length_set, found]
        simp [inside]
      rw [get?, child, Option.bind_some, ih inner]
    · have child : child? (.obj (Json.insert key member fields)) key = some member := by
        simp [child?, Json.lookup_insert]
      rw [get?, child, Option.bind_some, ih inner]

theorem update_get? {value root : Json} (there : get? keys root = some value) :
    update path value keys root = .ok root := by
  induction keys generalizing root with
  | nil =>
    cases there
    rfl
  | cons key rest ih =>
    obtain ⟨child, found, inner⟩ := Option.bind_eq_some_iff.1 there
    have inner := ih inner
    cases root with
    | arr items =>
      simp only [child?] at found
      split at found
      · next index read =>
        obtain ⟨place, placed, item⟩ := Option.bind_eq_some_iff.1 found
        obtain ⟨inside, rfl⟩ := List.getElem?_eq_some_iff.1 item
        have same : items.getD place .null = items[place] := by simp [List.getD, inside]
        simp only [update, read, placed, same, inner, Except.map, List.set_getElem_self]
      · cases found
    | obj fields =>
      have found : Json.lookup key fields = some child := found
      simp [update, found, inner, Except.map, Json.insert_of_lookup]
    | _ => cases found

theorem update_update {value next root changed : Json}
    (updated : update path value keys root = .ok changed) :
    update path next keys changed = update path next keys root := by
  induction keys generalizing root changed with
  | nil => rfl
  | cons key rest ih =>
    rcases update_cons_eq_ok updated with
      ⟨items, index, place, item, rfl, read, found, inner, rfl⟩ | ⟨fields, member, rfl, inner, rfl⟩
    · have inside : place < items.length := Path.place?_lt found
      have same : (items.set place item).getD place .null = item := by simp [List.getD, inside]
      simp only [update, read, List.length_set, found, same, ih inner, List.set_set]
    · simp only [update, Json.lookup_insert, if_true, Option.getD_some, ih inner,
        Json.insert_insert]

theorem update_error {value next root : Json} {error : ResultPathError}
    (refused : update path value keys root = .error error) :
    update path next keys root = .error error := by
  induction keys generalizing root with
  | nil => cases refused
  | cons key rest ih =>
    cases root with
    | arr items =>
      simp only [update] at refused ⊢
      split at refused
      · exact refused
      · split at refused
        · exact refused
        · rw [ih (map_eq_error.1 refused)]
          rfl
    | obj fields =>
      simp only [update] at refused ⊢
      rw [ih (map_eq_error.1 refused)]
      rfl
    | _ => exact refused

theorem isFalsy_update {value root changed : Json} (full : keys ≠ [])
    (updated : update path value keys root = .ok changed) : changed.isFalsy = false := by
  obtain ⟨key, rest, rfl⟩ := List.exists_cons_of_ne_nil full
  rcases update_cons_eq_ok updated with
    ⟨items, index, place, item, rfl, read, found, inner, rfl⟩ | ⟨fields, member, rfl, inner, rfl⟩
  · have inside : place < items.length := Path.place?_lt found
    have := List.length_pos_iff.1 (Nat.zero_lt_of_lt inside)
    simpa [Json.isFalsy] using this
  · cases fields with
    | nil => rfl
    | cons field fields =>
      obtain ⟨name, first⟩ := field
      rw [Json.insert]
      split <;> rfl

end ResultPath

namespace Path

theorem signedDigits_suffix (cs : List Char) : (signedDigits cs).2 <:+ cs := by
  unfold signedDigits
  split
  · next rest =>
    rw [List.span_eq_takeWhile_dropWhile]
    exact (List.dropWhile_suffix _).trans (List.suffix_cons _ _)
  · rw [List.span_eq_takeWhile_dropWhile]
    exact List.dropWhile_suffix _

theorem slice?_of_not_mem {cs : List Char} (noColon : ':' ∉ cs) : slice? cs = none := by
  unfold slice?
  split
  · next start rest same =>
    have suffix := signedDigits_suffix cs
    rw [same] at suffix
    exact absurd (suffix.mem List.mem_cons_self) noColon
  · rfl

def signs : List Char := ['*', '.', '!', '(', '?', ':', ',']

theorem trace_plain {step : List Char} (full : step ≠ []) (plain : ∀ c ∈ step, c ∉ signs)
    (fuel : Nat) (rest : List (List Char)) (find : Find) :
    trace (fuel + 1) (step :: rest) find =
      match find.value.get? (String.ofList step) with
      | some child => trace fuel rest (find.part (.member (String.ofList step)) child)
      | none =>
        match indexed? step find.value with
        | some items => do
          let place := (← wholeNumber step).toNat
          match items[place]? with
          | some item => trace fuel rest (find.part (.item place) item)
          | none => .ok []
        | none => .ok [] := by
  have noSlice : slice? step = none := slice?_of_not_mem fun mem => plain _ mem (by decide)
  have noComma : step.contains ',' = false := by
    simpa using fun mem => plain _ mem (by decide)
  obtain ⟨c, more, rfl⟩ := List.exists_cons_of_ne_nil full
  have head {sign : Char} (mem : sign ∈ signs) : sign ≠ c := fun e =>
    plain c List.mem_cons_self (e ▸ mem)
  have star := (head (show '*' ∈ signs by decide)).symm
  have point := (head (show '.' ∈ signs by decide)).symm
  have mark := (head (show '!' ∈ signs by decide)).symm
  have computed : enclosed ['('] (c :: more) = false := by
    simp [enclosed, head (show '(' ∈ signs by decide)]
  have filtered : enclosed ['?', '('] (c :: more) = false := by
    simp [enclosed, head (show '?' ∈ signs by decide)]
  have unfolded := trace.eq_def (fuel + 1) ((c :: more) :: rest) find
  simp only [reduceCtorEq, false_and, if_false, List.cons.injEq, star, point, mark, computed,
    filtered, noSlice, noComma, Bool.false_eq_true] at unfolded
  exact unfolded

theorem not_digit_of_isAsciiLetter {c : Char} (letter : isAsciiLetter c = true) :
    Text.isAsciiDigit c = false ∧ Text.isDigit c = false := by
  have bounds := toNat_of_isAsciiLetter letter
  have noAsciiDigit : ¬ Text.isAsciiDigit c = true := fun digit => by
    have := Text.toNat_of_isAsciiDigit digit
    omega
  have noDecimal : Text.isDecimal c = false := by
    have ascii : c.toNat < 128 := by omega
    have := by simpa [Text.isAsciiDigit] using noAsciiDigit
    simp [Text.isDecimal, Text.digit?, ascii]
    simpa
  refine ⟨by simpa using noAsciiDigit, ?_⟩
  have least : ∀ range ∈ Text.otherDigits, 128 ≤ range.1 := by decide
  rw [Text.isDigit, noDecimal, Bool.false_or]
  simp only [List.any_eq_false, Bool.and_eq_true, decide_eq_true_eq]
  rintro ⟨first, last⟩ mem ⟨after, -⟩
  have := least _ mem
  dsimp only at this
  omega

theorem indexed?_name {name : List Char} (named : IsName name) (value : Json) :
    indexed? name value = none := by
  obtain ⟨c, rest, rfl, letter, -⟩ := named
  cases value with
  | arr items => simp [indexed?, (not_digit_of_isAsciiLetter letter).2]
  | _ => rfl

theorem indexed?_digits {digits : List Char} (numeral : IsNumeral digits) (items : List Json) :
    indexed? digits (.arr items) = some items := by
  have isDigit (c : Char) (mem : c ∈ digits) : Text.isDigit c = true := by
    have bounds : '0' ≤ c ∧ c ≤ '9' := by simpa [Text.isAsciiDigit] using numeral.2 c mem
    simp [Text.isDigit, Text.isDecimal, Text.digit?_ascii bounds]
  simp [indexed?, numeral.1, List.all_eq_true.2 isDigit]

theorem itemAt?_natCast {α : Type} (items : List α) (n : Nat) :
    itemAt? items (n : Int) = items[n]? := by
  rcases Nat.lt_or_ge n items.length with inside | outside
  · rw [itemAt?, place?_eq_some.2 ⟨inside, .inl rfl⟩, Option.bind_some]
  · rw [itemAt?, place?_eq_none.2 (.inr (Int.ofNat_le.2 outside)), List.getElem?_eq_none outside]
    rfl

theorem readInteger_name {name : List Char} (named : IsName name) :
    Text.readInteger (String.ofList name) = .error .malformed := by
  obtain ⟨c, rest, rfl, letter, others⟩ := named
  have keyChar : isKeyChar c = true := by simp [isKeyChar, letter]
  refine Text.readInteger_of_not_digit ?_ ?_ (not_digit_of_isAsciiLetter letter).1
  · rintro d mem
    rcases List.mem_cons.1 mem with rfl | mem
    · exact isVisible_of_isKeyChar keyChar
    · exact isVisible_of_isKeyChar (others d mem)
  · exact ⟨ne_of_isKeyChar keyChar (by decide), ne_of_isKeyChar keyChar (by decide)⟩

theorem trace_key (step : ReferenceStep) (fuel : Nat) (rest : List (List Char)) (find : Find) :
    match ResultPath.child? find.value (String.ofList step.key) with
    | some child => ∃ position,
        trace (fuel + 1) (step.key :: rest) find = trace fuel rest ⟨child, position⟩
    | none => ∀ found, trace (fuel + 1) (step.key :: rest) find = .ok found → found = [] := by
  have plain : ∀ c ∈ step.key, c ∉ signs := fun c mem sign => by
    have keyChar := step.key_chars c mem
    have noKeyChar : signs.all (!isKeyChar ·) = true := by decide
    have := List.all_eq_true.1 noKeyChar c sign
    rw [keyChar] at this
    cases this
  rw [trace_plain step.key_ne_nil plain]
  obtain ⟨value, position⟩ := find
  cases value with
  | obj fields =>
    simp only [ResultPath.child?, Json.get?, indexed?]
    cases Json.lookup (String.ofList step.key) fields with
    | some child => exact ⟨_, rfl⟩
    | none => exact fun found same => by cases same; rfl
  | arr items =>
    simp only [ResultPath.child?, Json.get?]
    cases step with
    | member bracketed name named =>
      simp only [ReferenceStep.key, readInteger_name named, indexed?_name named]
      exact fun found same => by cases same; rfl
    | item digits numeral =>
      have read := Text.readInteger_digits numeral.1 numeral.2
      simp only [ReferenceStep.key, indexed?_digits numeral, wholeNumber]
      split at read
      · rw [read]
        exact fun found same => by cases same
      · rw [read]
        simp only [itemAt?_natCast, Except.mapError, bind, Except.bind, Int.toNat_natCast]
        cases items[Decimal.value digits]? with
        | some item => exact ⟨_, rfl⟩
        | none => exact fun found same => by cases same; rfl
  | _ => exact fun found same => by cases same; rfl

theorem trace_keys (steps : List ReferenceStep) {fuel : Nat} (enough : steps.length < fuel)
    (find : Find) :
    match ResultPath.get? (steps.map fun step => String.ofList step.key) find.value with
    | some there => ∃ position,
        trace fuel (steps.map ReferenceStep.key) find = .ok [⟨there, position⟩]
    | none => ∀ found, trace fuel (steps.map ReferenceStep.key) find = .ok found → found = [] := by
  induction steps generalizing fuel find with
  | nil =>
    cases fuel with
    | zero => cases enough
    | succ fuel => exact ⟨_, rfl⟩
  | cons step steps ih =>
    cases fuel with
    | zero => cases enough
    | succ fuel =>
      have taken := trace_key step fuel (steps.map ReferenceStep.key) find
      simp only [List.map_cons, ResultPath.get?]
      cases child : ResultPath.child? find.value (String.ofList step.key) with
      | none =>
        rw [child] at taken
        exact taken
      | some below =>
        rw [child] at taken
        obtain ⟨position, taken⟩ := taken
        rw [taken]
        exact ih (Nat.lt_of_succ_lt_succ enough) ⟨below, position⟩

namespace ReferencePath

variable (path : ReferencePath)

theorem text_ne_dollar : path.text ≠ "$" :=
  path.text_toDefinite ▸ DefinitePath.text_ne_dollar path.full_toDefinite

theorem text_ne_empty : path.text ≠ "" := path.text_toDefinite ▸ path.toDefinite.text_ne_empty

theorem head?_text : path.text.toList.head? = some '$' :=
  path.text_toDefinite ▸ path.toDefinite.head?_text

theorem text?_text : text? (.str path.text) = some path.text :=
  path.text_toDefinite ▸ path.toDefinite.text?_text

theorem not_context : ['$', '$'].isPrefixOf path.text.toList = false :=
  path.text_toDefinite ▸ path.toDefinite.not_context

theorem hasSlice_text : hasSlice [] path.text.toList = false := by
  have noFeed : '\n' ∉ path.steps.flatMap ReferenceStep.text :=
    not_mem_steps (by decide) (by decide)
  have noColon : ':' ∉ path.steps.flatMap ReferenceStep.text :=
    not_mem_steps (by decide) (by decide)
  rw [Bool.eq_false_iff, ne_eq, hasSlice_iff (by simpa [text] using noFeed)]
  intro within
  have mem : ':' ∈ path.text.toList := within.subset (.tail _ List.mem_cons_self)
  simp [text, noColon] at mem

theorem keys_ne_nil : ResultPath.keys path.text ≠ [] := by
  have := path.full
  simpa [ResultPath.keys_text, keys] using this

end ReferencePath

theorem query_text (path : ReferencePath) {root : Json} (full : root.isFalsy = false) :
    match ResultPath.get? (ResultPath.keys path.text) root with
    | some there => ∃ position, query root path.text = .ok (some [⟨there, position⟩])
    | none => ∀ found, query root path.text ≠ .ok (some found) := by
  have keys : ResultPath.keys path.text = path.steps.map fun step => String.ofList step.key := by
    simp [ResultPath.keys_text, ReferencePath.keys]
  have enough : path.steps.length < depthLimit + path.keys.length := by
    simp [ReferencePath.keys, depthLimit]
  have traced : match ResultPath.get? (path.steps.map fun step => String.ofList step.key) root with
      | some there => ∃ position,
          trace (depthLimit + path.keys.length) path.keys (.root root) = .ok [⟨there, position⟩]
      | none => ∀ found, trace (depthLimit + path.keys.length) path.keys (.root root) = .ok found →
          found = [] := trace_keys path.steps enough (.root root)
  simp only [query, full, path.text_ne_empty, normalSteps_text, bind, Except.bind, keys]
  split at traced
  · obtain ⟨position, traced⟩ := traced
    simp [traced, pure, Except.pure]
  · intro found
    cases same : trace (depthLimit + path.keys.length) path.keys (.root root) with
    | error e => simp
    | ok others => simp [traced others same, pure, Except.pure]

theorem values_text (path : ReferencePath) {root : Json} {found : List Json} :
    values root (.str path.text) = .ok found ↔ root.isFalsy = false ∧
      ∃ value, ResultPath.get? (ResultPath.keys path.text) root = some value ∧ found = [value] := by
  simp only [values, select, path.text?_text]
  cases falsy : root.isFalsy with
  | true => simp [query, falsy, Except.map]
  | false =>
    have asked := query_text path falsy
    split at asked
    · next value there =>
      obtain ⟨position, asked⟩ := asked
      simp [asked, there, Except.map, eq_comm]
    · next nowhere =>
      simp only [nowhere, reduceCtorEq, false_and, exists_false, and_false, iff_false]
      split
      · next found same => exact absurd same (asked found)
      · simp [Except.map]
      · simp [Except.map]

theorem first_text (path : ReferencePath) {root context value : Json} :
    first root context (.str path.text) = .ok value ↔
      root.isFalsy = false ∧ ResultPath.get? (ResultPath.keys path.text) root = some value := by
  have path_ne : Json.str path.text ≠ .str "$" := by simpa using path.text_ne_dollar
  simp only [first, rooted, path.not_context, path_ne, Bool.false_eq_true, if_false, bind_eq_ok,
    values_text]
  constructor
  · rintro ⟨_, ⟨full, there, found, rfl⟩, same⟩
    cases same
    exact ⟨full, found⟩
  · rintro ⟨full, found⟩
    exact ⟨[value], ⟨full, value, found, rfl⟩, rfl⟩

theorem apply_text (path : ReferencePath) {root context value : Json} :
    apply root context (.str path.text) = .ok value ↔
      root.isFalsy = false ∧ ResultPath.get? (ResultPath.keys path.text) root = some value := by
  have path_ne : Json.str path.text ≠ .str "$" := by simpa using path.text_ne_dollar
  simp only [apply, applyTo, rooted, path.text?_text, path.not_context, reduceCtorEq,
    Option.isNone_some, Bool.false_eq_true, if_false, map_value_project, path_ne, Data.value_ofJson,
    map_eq_ok, values_text]
  constructor
  · rintro ⟨_, ⟨full, there, found, rfl⟩, same⟩
    rw [unwrapped, isSliced, path.hasSlice_text] at same
    exact ⟨full, found.trans (congrArg some same)⟩
  · rintro ⟨full, found⟩
    refine ⟨[value], ⟨full, value, found, rfl⟩, ?_⟩
    rw [unwrapped, isSliced, path.hasSlice_text]
    rfl

end Path

namespace ResultPath

open StateFlow.Path (ReferencePath)

theorem apply_text (path : ReferencePath) (root value : Json) :
    apply root (.str path.text) value =
      (update path.text value (keys path.text) (if root = .null then .obj [] else root)).mapError
        .told :=
  apply_eq_update path.head?_text path.not_context path.text_ne_dollar root value

theorem apply_of_full (path : ReferencePath) {root : Json} (full : root.isFalsy = false)
    (value : Json) :
    apply root (.str path.text) value =
      (update path.text value (keys path.text) root).mapError .told := by
  have noNull : root ≠ .null := by
    rintro rfl
    cases full
  simp [apply_text, noNull]

end ResultPath

/-- Along a reference path, what a result path puts is what a query finds; putting what a query
finds changes nothing; and of two results put one after the other, the second counts, as does any
error of putting it alone. -/
theorem reference_path_is_lens (path : Path.ReferencePath) (root context : Json) :
    (∀ value changed, ResultPath.apply root (.str path.text) value = .ok changed →
      Path.first changed context (.str path.text) = .ok value ∧
        Path.apply changed context (.str path.text) = .ok value) ∧
    (∀ value, Path.apply root context (.str path.text) = .ok value →
      ResultPath.apply root (.str path.text) value = .ok root) ∧
    (∀ value next, (ResultPath.apply root (.str path.text) value).bind
        (fun changed => ResultPath.apply changed (.str path.text) next) =
      ResultPath.apply root (.str path.text) next) := by
  refine ⟨fun value changed put => ?_, fun value got => ?_, fun value next => ?_⟩
  · rw [ResultPath.apply_text, mapError_eq_ok] at put
    have full := ResultPath.isFalsy_update path.keys_ne_nil put
    have there := ResultPath.get?_update put
    exact ⟨(Path.first_text path).2 ⟨full, there⟩, (Path.apply_text path).2 ⟨full, there⟩⟩
  · obtain ⟨full, there⟩ := (Path.apply_text path).1 got
    rw [ResultPath.apply_of_full path full, mapError_eq_ok]
    exact ResultPath.update_get? there
  · rw [ResultPath.apply_text, ResultPath.apply_text]
    cases put : ResultPath.update path.text value (ResultPath.keys path.text)
      (if root = .null then .obj [] else root) with
    | error error =>
      rw [ResultPath.update_error put]
      rfl
    | ok changed =>
      have full := ResultPath.isFalsy_update path.keys_ne_nil put
      rw [← ResultPath.update_update put]
      exact ResultPath.apply_of_full path full next

theorem reference_path_is_lens_nested :
    let path : Path.ReferencePath := ⟨[.member false ['a'] ⟨'a', [], rfl, rfl, nofun⟩,
      .item ['0'] ⟨nofun, by simp [Text.isAsciiDigit]⟩,
      .member true ['b'] ⟨'b', [], rfl, rfl, nofun⟩], nofun⟩
    let root := Json.obj [("a", .arr [.obj [("b", .int 1), ("c", .null)]]), ("d", .int 2)]
    let changed := Json.obj [("a", .arr [.obj [("b", .str "x"), ("c", .null)]]), ("d", .int 2)]
    path.text = "$.a[0]['b']" ∧
      ResultPath.apply root (.str path.text) (.str "x") = .ok changed ∧
      Path.first changed .null (.str path.text) = .ok (.str "x") ∧
      Path.apply changed .null (.str path.text) = .ok (.str "x") ∧
      Path.apply root .null (.str path.text) = .ok (.int 1) ∧
      ResultPath.apply root (.str path.text) (.int 1) = .ok root := by
  intro path root changed
  have put : ResultPath.apply root (.str path.text) (.str "x") = .ok changed := by
    rw [ResultPath.apply_text, ResultPath.keys_text]
    rfl
  have got : Path.apply root .null (.str path.text) = .ok (.int 1) := by
    refine (Path.apply_text path).2 ⟨rfl, ?_⟩
    rw [ResultPath.keys_text]
    rfl
  obtain ⟨putGet, getPut, -⟩ := reference_path_is_lens path root .null
  exact ⟨rfl, put, (putGet _ _ put).1, (putGet _ _ put).2, got, getPut _ got⟩

end StateFlow
