import StateFlow.Proofs.Loading
import StateFlow.Proofs.Operation
import StateFlow.Worker.Reference

/-!
References to handlers, as the loader and as the worker take them. The loader asks for a point
somewhere; the worker parts the reference at the last point and trims the module's path.
`handler_resolves_iff` says which references that are loaded the worker can read (`IsReference`), and
why it refuses the other ones.
-/
namespace StateFlow

namespace HandlerReference

def moduleName (reference : HandlerReference) : List Char :=
  List.intercalate ['.'] reference.packages

def pointed (c : Char) : Char := if isSeparator c then '.' else c

/-- A function in a module: behind the last point the function is named, and before it there is more
than separators. -/
def IsReference (text : List Char) : Prop :=
  ∃ path function, text = path ++ '.' :: function ∧ '.' ∉ function ∧ function ≠ [] ∧
    ∃ c ∈ path, isSeparator c = false

theorem not_mem_splitLast (cs : List Char) : '.' ∉ (splitLast cs).2 := by
  intro mem
  have mem : '.' ∈ cs.reverse.takeWhile (· ≠ '.') := by simpa [splitLast] using mem
  simpa using List.all_eq_true.1 List.all_takeWhile _ mem

theorem splitLast_append {path function : List Char} (plain : '.' ∉ function) :
    splitLast (path ++ '.' :: function) = (path, function) := by
  have others : ∀ c ∈ function.reverse, decide (c ≠ '.') = true := by
    intro c mem
    have : c ≠ '.' := fun same => plain (by simpa [same] using mem)
    simpa using this
  have backwards : (path ++ '.' :: function).reverse = function.reverse ++ '.' :: path.reverse := by
    simp
  simp only [splitLast, backwards, List.takeWhile_append_of_pos others,
    List.dropWhile_append_of_pos others]
  simp

theorem exists_split {text : List Char} (point : '.' ∈ text) :
    ∃ path function, text = path ++ '.' :: function ∧ '.' ∉ function :=
  ⟨_, _, (splitLast_eq point).symm, not_mem_splitLast text⟩

theorem trimmed_eq_nil_iff {path : List Char} :
    trimmed path = [] ↔ ∀ c ∈ path, isSeparator c = true := by
  rw [← List.dropWhile_eq_nil_iff]
  refine ⟨fun none => ?_, fun none => by simp [trimmed, none]⟩
  have all : ∀ c ∈ path.dropWhile isSeparator, isSeparator c = true := by
    simpa [trimmed, List.dropWhile_eq_nil_iff] using none
  -- what is left at the beginning is no separator
  have first := List.head?_dropWhile_not isSeparator path
  cases rest : path.dropWhile isSeparator with
  | nil => rfl
  | cons c cs =>
    rw [rest] at all first
    have same : isSeparator c = false := by simpa using first
    simp [all c List.mem_cons_self] at same

theorem split_ne_nil (begun cs : List Char) : split begun cs ≠ [] := by
  induction cs generalizing begun with
  | nil => simp [split]
  | cons c rest ih =>
    rw [split]
    split
    · simp
    · exact ih _

theorem intercalate_split (begun cs : List Char) :
    List.intercalate ['.'] (split begun cs) = begun.reverse ++ cs.map pointed := by
  induction cs generalizing begun with
  | nil => simp [split]
  | cons c rest ih =>
    rw [split, List.map_cons, pointed]
    split
    · obtain ⟨first, others, parts⟩ := List.exists_cons_of_ne_nil (split_ne_nil [] rest)
      rw [parts, List.intercalate_cons_cons, ← parts, ih]
      simp
    · rw [ih]
      simp

section parse

variable {text : String} {path function : List Char}
  (parted : text.toList = path ++ '.' :: function) (plain : '.' ∉ function)

include parted plain

theorem eq_of_split {first second : List Char} (other : text.toList = first ++ '.' :: second)
    (alsoPlain : '.' ∉ second) : first = path ∧ second = function := by
  have same : splitLast (first ++ '.' :: second) = (first, second) := splitLast_append alsoPlain
  rw [← other, parted, splitLast_append plain] at same
  exact ⟨congrArg Prod.fst same.symm, congrArg Prod.snd same.symm⟩

theorem parse_of_split : parse (.str text) =
    if path = [] ∨ function = [] then .error (.malformed text)
    else if trimmed path = [] then .error .emptyModule
    else .ok ⟨split [] (trimmed path), String.ofList function⟩ := by
  simp only [parse, parted, splitLast_append plain]

theorem isReference_iff_of_split :
    IsReference text.toList ↔ function ≠ [] ∧ ∃ c ∈ path, isSeparator c = false := by
  constructor
  · rintro ⟨first, second, other, alsoPlain, named, inside⟩
    obtain ⟨rfl, rfl⟩ := eq_of_split parted plain other alsoPlain
    exact ⟨named, inside⟩
  · rintro ⟨named, inside⟩
    exact ⟨path, function, parted, plain, named, inside⟩

theorem getLast?_eq_point_iff : text.toList.getLast? = some '.' ↔ function = [] := by
  rw [parted, List.getLast?_append_cons]
  cases function with
  | nil => simp
  | cons c rest =>
    rw [List.getLast?_cons_cons]
    simp only [reduceCtorEq, iff_false]
    exact fun last => plain (List.mem_of_getLast? last)

end parse

theorem parse_isOk_iff {text : String} (point : '.' ∈ text.toList) :
    (∃ reference, parse (.str text) = .ok reference) ↔ IsReference text.toList := by
  obtain ⟨path, function, parted, plain⟩ := exists_split point
  rw [parse_of_split parted plain, isReference_iff_of_split parted plain]
  have inside : (∃ c ∈ path, isSeparator c = false) ↔ trimmed path ≠ [] := by
    simp [trimmed_eq_nil_iff]
  rw [inside]
  by_cases unnamed : path = [] ∨ function = []
  · rw [if_pos unnamed]
    rcases unnamed with rfl | rfl <;> simp [trimmed]
  · rw [if_neg unnamed]
    split <;> simp_all

theorem parse_malformed_iff {text : String} (point : '.' ∈ text.toList) :
    parse (.str text) = .error (.malformed text) ↔
      text.toList.getLast? = some '.' ∨ ∃ function, text.toList = '.' :: function ∧
        '.' ∉ function := by
  obtain ⟨path, function, parted, plain⟩ := exists_split point
  have alone : (∃ function, text.toList = '.' :: function ∧ '.' ∉ function) ↔ path = [] := by
    constructor
    · rintro ⟨other, same, alsoPlain⟩
      have same : text.toList = [] ++ '.' :: other := same
      exact (eq_of_split parted plain same alsoPlain).1.symm
    · rintro rfl
      exact ⟨function, parted, plain⟩
  rw [parse_of_split parted plain, getLast?_eq_point_iff parted plain, alone,
    or_comm (a := function = [])]
  split
  · next unnamed => exact iff_of_true rfl unnamed
  · next named => exact iff_of_false (by split <;> simp) named

theorem parse_emptyModule_iff {text : String} (point : '.' ∈ text.toList) :
    parse (.str text) = .error .emptyModule ↔
      ∃ path function, text.toList = path ++ '.' :: function ∧ '.' ∉ function ∧ function ≠ [] ∧
        path ≠ [] ∧ ∀ c ∈ path, isSeparator c = true := by
  obtain ⟨path, function, parted, plain⟩ := exists_split point
  rw [parse_of_split parted plain]
  constructor
  · intro refused
    split at refused
    · cases refused
    · next named =>
      split at refused
      · next bare =>
        obtain ⟨given, named⟩ := not_or.1 named
        exact ⟨path, function, parted, plain, named, given, trimmed_eq_nil_iff.1 bare⟩
      · cases refused
  · rintro ⟨first, second, other, alsoPlain, named, given, bare⟩
    obtain ⟨rfl, rfl⟩ := eq_of_split parted plain other alsoPlain
    rw [if_neg (not_or.2 ⟨given, named⟩), if_pos (trimmed_eq_nil_iff.2 bare)]

theorem parts_of_parse {text : String} (point : '.' ∈ text.toList) {reference : HandlerReference}
    (read : parse (.str text) = .ok reference) :
    ∃ path, text.toList = path ++ '.' :: reference.function.toList ∧
      '.' ∉ reference.function.toList ∧ reference.function ≠ "" ∧
      reference.moduleName = (trimmed path).map pointed ∧ reference.moduleName ≠ [] := by
  obtain ⟨path, function, parted, plain⟩ := exists_split point
  rw [parse_of_split parted plain] at read
  split at read
  · cases read
  · next named =>
    split at read
    · cases read
    · next given =>
      cases read
      have name : moduleName ⟨split [] (trimmed path), String.ofList function⟩ =
          (trimmed path).map pointed := by
        simpa [moduleName] using intercalate_split [] (trimmed path)
      refine ⟨path, by simpa using parted, by simpa using plain, ?_, name, ?_⟩
      · simpa [← String.toList_inj] using (not_or.1 named).2
      · simpa [name] using given

end HandlerReference

namespace State

theorem mem_of_readTask {name handler : String} {raw : Json} {timeout : Option Number}
    (h : readTask name raw = .ok (.task handler timeout)) : '.' ∈ handler.toList := by
  unfold readTask at h
  split at h
  · split at h
    · next point =>
      obtain ⟨seconds, -, h⟩ := bind_eq_ok.1 h
      cases h
      simpa using point
    · cases h
  · cases h

theorem handler_of_act {state : State} {handler : String} {timeout : Option Number}
    (kind : state.kind = .task handler timeout) {data : Data} {context : Json} {now : Int}
    {call : TaskCall}
    (acts : state.act data context now = .ok (.call call)) : call.handler = handler := by
  simp only [act, kind] at acts
  obtain ⟨input, -, acts⟩ := bind_eq_ok.1 acts
  obtain ⟨own, -, acts⟩ := bind_eq_ok.1 acts
  cases acts
  rfl

end State

open HandlerReference in
/-- The reference of a task that is loaded comes to the worker as it is, and the worker can read it
exactly if a function is named behind the last point and more than separators stand before that.
Else it is malformed, as it ends in a point or has one at its beginning only, or the name of the
module is empty. What is read names a module and a function. -/
theorem handler_resolves_iff {raw : Json} {definition : Definition} {machine : Machine}
    {state : State} {handler : String} {timeout : Option Number}
    (loaded : Definition.load raw = .ok definition) (mem : machine ∈ definition.machines)
    (mem' : state ∈ machine.states) (kind : state.kind = .task handler timeout) :
    (∀ data context now call, state.act data context now = .ok (.call call) →
      ∀ (invoker : Invoker) tag,
        (invoker.invocation tag call).envelope.get? "handler" = some (.str handler)) ∧
    ((∃ reference, parse (.str handler) = .ok reference) ↔ IsReference handler.toList) ∧
    (parse (.str handler) = .error (.malformed handler) ↔
      handler.toList.getLast? = some '.' ∨
        ∃ function, handler.toList = '.' :: function ∧ '.' ∉ function) ∧
    (parse (.str handler) = .error .emptyModule ↔
      ∃ path function, handler.toList = path ++ '.' :: function ∧ '.' ∉ function ∧
        function ≠ [] ∧ path ≠ [] ∧ ∀ c ∈ path, isSeparator c = true) ∧
    ∀ reference, parse (.str handler) = .ok reference →
      ∃ path, handler.toList = path ++ '.' :: reference.function.toList ∧
        '.' ∉ reference.function.toList ∧ reference.function ≠ "" ∧
        reference.moduleName = (trimmed path).map pointed ∧ reference.moduleName ≠ [] := by
  obtain ⟨name, source, own⟩ := Definition.exists_of_load loaded machine mem state mem'
  have point := State.mem_of_readTask (State.readTask_of_load own kind)
  refine ⟨fun data context now call acts invoker tag => ?_, parse_isOk_iff point,
    parse_malformed_iff point, parse_emptyModule_iff point, fun reference => parts_of_parse point⟩
  rw [← State.handler_of_act kind acts]
  rfl

def referringState (handler : String) : State :=
  .base "A" (.obj [("Type", .str "Task"), ("handler", .str handler), ("End", .bool true)])
    (.task handler none)

def referringMachine (handler : String) : Machine where
  name := "m"
  comment := .null
  startAt := "A"
  states := [referringState handler]

def referring (handler : String) : Json :=
  .obj [("m", .obj [("StartAt", .str "A"), ("States", .obj [("A", .obj [("Type", .str "Task"),
    ("handler", .str handler), ("End", .bool true)])])])]

theorem load_referring_path : Definition.load (referring "../src/orders.create") =
    .ok ⟨[referringMachine "../src/orders.create"]⟩ := by
  rfl

theorem handler_resolves_iff_path :
    let handler := "../src/orders.create"
    Definition.load (referring handler) = .ok ⟨[referringMachine handler]⟩ ∧
    referringMachine handler ∈ [referringMachine handler] ∧
    referringState handler ∈ (referringMachine handler).states ∧
    (referringState handler).kind = .task handler none ∧
    HandlerReference.IsReference handler.toList ∧
    ∃ reference, HandlerReference.parse (.str handler) = .ok reference := by
  intro handler
  have refers : HandlerReference.IsReference handler.toList :=
    ⟨"../src/orders".toList, "create".toList, by decide, by decide, by decide, 's', by decide, rfl⟩
  exact ⟨load_referring_path, List.mem_cons_self, List.mem_cons_self, rfl, refers,
    (handler_resolves_iff load_referring_path List.mem_cons_self List.mem_cons_self rfl).2.1.2 refers⟩

/-- The loader takes references that the worker cannot read. -/
theorem loaded_handler_may_not_resolve :
    ¬ ∀ raw definition, Definition.load raw = .ok definition → ∀ machine ∈ definition.machines,
      ∀ state ∈ machine.states, ∀ handler timeout, state.kind = .task handler timeout →
        ∃ reference, HandlerReference.parse (.str handler) = .ok reference := by
  intro always
  obtain ⟨reference, read⟩ := always (referring ".f") ⟨[referringMachine ".f"]⟩ rfl _
    List.mem_cons_self _ List.mem_cons_self _ _ rfl
  cases read

end StateFlow
