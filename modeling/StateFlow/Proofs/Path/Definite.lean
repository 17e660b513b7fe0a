import StateFlow.Path
import StateFlow.Path.Result
import StateFlow.Proofs.Text.Numeral

/-!
Definite paths: a dollar sign and steps, each the name of a member, after a point or in brackets and
quotes, or the index of an item in brackets. Names are free of the signs that queries know. The steps
of a query along such a path are its keys (`DefinitePath.normalSteps_text`), and so are the keys of
the result path if no name has a dollar sign in it (`DefinitePath.keys_text`).
-/
namespace StateFlow.Path

def nameSigns : List Char :=
  ['.', '[', ']', '\'', '"', ';', ',', '*', '?', '(', ')', '!', '@', '#']

def isNameChar (c : Char) : Bool := !nameSigns.contains c && !Text.isBlank c

/-- The index of an item, with any number of leading zeros. -/
def IsNumeral (cs : List Char) : Prop := cs ≠ [] ∧ ∀ c ∈ cs, Text.isAsciiDigit c = true

inductive DefiniteStep where
  | member (bracketed : Bool) (name : List Char) (full : name ≠ [])
    (plain : ∀ c ∈ name, isNameChar c = true)
  | item (digits : List Char) (numeral : IsNumeral digits)

theorem ne_of_isNameChar {c other : Char} (nameChar : isNameChar c = true)
    (sign : isNameChar other = false) : c ≠ other := by
  rintro rfl
  rw [nameChar] at sign
  cases sign

theorem isNameChar_of_isVisible {c : Char} (visible : Text.IsVisible c)
    (noSign : ∀ sign ∈ nameSigns, c ≠ sign) : isNameChar c = true := by
  have absent : c ∉ nameSigns := fun mem => noSign c mem rfl
  simp [isNameChar, visible.isBlank, absent]

theorem isNameChar_of_isAsciiDigit {c : Char} (digit : Text.isAsciiDigit c = true) :
    isNameChar c = true := by
  have noDigit : nameSigns.all (!Text.isAsciiDigit ·) = true := by decide
  refine isNameChar_of_isVisible (.ofDigit digit) fun sign mem same => ?_
  have absent := List.all_eq_true.1 noDigit sign mem
  rw [← same, digit] at absent
  cases absent

namespace DefiniteStep

def key : DefiniteStep → List Char
  | member _ name _ _ => name
  | item digits _ => digits

def text : DefiniteStep → List Char
  | member false name _ _ => '.' :: name
  | member true name _ _ => '[' :: '\'' :: name ++ ['\'', ']']
  | item digits _ => '[' :: digits ++ [']']

def marked : DefiniteStep → List Char
  | member false name _ _ => ';' :: name
  | member true name _ _ => ';' :: name ++ ['\'', ']']
  | item digits _ => ';' :: digits ++ [']']

theorem key_chars (step : DefiniteStep) : ∀ c ∈ step.key, isNameChar c = true := by
  cases step with
  | member bracketed name full plain => exact plain
  | item digits numeral => exact fun c mem => isNameChar_of_isAsciiDigit (numeral.2 c mem)

theorem key_ne_nil (step : DefiniteStep) : step.key ≠ [] := by
  cases step with
  | member bracketed name full plain => exact full
  | item digits numeral => exact numeral.1

theorem not_mem_key {step : DefiniteStep} {c : Char} (sign : isNameChar c = false) :
    c ∉ step.key := fun mem => ne_of_isNameChar (step.key_chars c mem) sign rfl

theorem mem_text {step : DefiniteStep} {c : Char} (mem : c ∈ step.text) :
    c ∈ step.key ∨ c ∈ ['.', '[', ']', '\''] := by
  cases step with
  | member bracketed name full plain =>
    cases bracketed <;> grind [DefiniteStep.text, DefiniteStep.key]
  | item digits numeral => grind [DefiniteStep.text, DefiniteStep.key]

end DefiniteStep

structure DefinitePath where
  steps : List DefiniteStep

namespace DefinitePath

def text (path : DefinitePath) : String :=
  String.ofList ('$' :: path.steps.flatMap DefiniteStep.text)

def keys (path : DefinitePath) : List (List Char) := path.steps.map DefiniteStep.key

theorem head?_text (path : DefinitePath) : path.text.toList.head? = some '$' := by
  simp [text]

theorem text?_text (path : DefinitePath) : text? (.str path.text) = some path.text := by
  simp [text?, path.head?_text]

theorem text_eq {path : DefinitePath} (full : path.steps ≠ []) :
    ∃ c rest, path.text = String.ofList ('$' :: c :: rest) ∧ c ≠ '$' := by
  obtain ⟨steps⟩ := path
  obtain ⟨step, others, rfl⟩ := List.exists_cons_of_ne_nil full
  cases step with
  | member bracketed name full plain => cases bracketed <;> exact ⟨_, _, rfl, by decide⟩
  | item digits numeral => exact ⟨_, _, rfl, by decide⟩

theorem text_ne_dollar {path : DefinitePath} (full : path.steps ≠ []) : path.text ≠ "$" := by
  obtain ⟨c, rest, same, -⟩ := text_eq full
  intro short
  have := congrArg String.toList (same.symm.trans short)
  simp at this

theorem text_ne_empty (path : DefinitePath) : path.text ≠ "" := by
  intro empty
  have := path.head?_text
  simp [empty] at this

theorem not_context (path : DefinitePath) : ['$', '$'].isPrefixOf path.text.toList = false := by
  by_cases full : path.steps = []
  · simp [text, full]
  · obtain ⟨c, rest, same, noDollar⟩ := text_eq full
    simp [same, List.isPrefixOf, noDollar.symm]

theorem not_mem_text {path : DefinitePath} {c : Char} (sign : isNameChar c = false)
    (other : c ∉ ['$', '.', '[', ']', '\'']) : c ∉ path.text.toList := by
  rw [text, String.toList_ofList]
  intro mem
  rcases List.mem_cons.1 mem with rfl | mem
  · exact other List.mem_cons_self
  · obtain ⟨step, -, mem⟩ := List.mem_flatMap.1 mem
    rcases step.mem_text mem with key | mark
    · exact step.not_mem_key sign key
    · exact other (.tail _ mark)

end DefinitePath

/-- A pass turns one text into another wherever it stands, unless an at sign is before it. -/
def Passes (rule : Text.Replacement) (old new : List Char) : Prop :=
  ∀ before rest, before ≠ some '@' → ∃ after, after ≠ some '@' ∧
    Text.replaceFrom rule before 0 (old ++ rest) = new ++ Text.replaceFrom rule after 0 rest

namespace Passes

variable {rule : Text.Replacement}

theorem append {old new old' new' : List Char} (first : Passes rule old new)
    (second : Passes rule old' new') : Passes rule (old ++ old') (new ++ new') := by
  intro before rest noAt
  obtain ⟨middle, noAt, same⟩ := first before (old' ++ rest) noAt
  obtain ⟨after, noAt, same'⟩ := second middle rest noAt
  exact ⟨after, noAt, by rw [List.append_assoc, same, same', List.append_assoc]⟩

theorem nil : Passes rule [] [] := fun before _ noAt => ⟨before, noAt, rfl⟩

theorem char {c : Char} (noAt : c ≠ '@') (inert : ∀ before tail, rule before (c :: tail) = none) :
    Passes rule [c] [c] := by
  intro before rest _
  refine ⟨some c, by simpa using noAt, ?_⟩
  rw [List.singleton_append, Text.replaceFrom, inert]
  rfl

theorem inert {cs : List Char}
    (inert : ∀ c ∈ cs, c ≠ '@' ∧ ∀ before tail, rule before (c :: tail) = none) :
    Passes rule cs cs := by
  induction cs with
  | nil => exact nil
  | cons c cs ih =>
    have first := inert c List.mem_cons_self
    exact append (char first.1 first.2) (ih fun d mem => inert d (.tail c mem))

theorem flatMap {α : Type} {f g : α → List Char} (each : ∀ a, Passes rule (f a) (g a))
    (items : List α) : Passes rule (items.flatMap f) (items.flatMap g) := by
  induction items with
  | nil => exact nil
  | cons a items ih => exact append (each a) ih

theorem replace {old new : List Char} (passes : Passes rule old new) :
    Text.replace rule old = new := by
  obtain ⟨after, -, same⟩ := passes none [] nofun
  rw [List.append_nil] at same
  simpa [Text.replace, Text.replaceFrom] using same

end Passes

theorem setAside_of_not_mem {cs : List Char} (noParenthesis : '(' ∉ cs) (count : Nat) :
    setAside count 0 cs = (cs, []) := by
  induction cs with
  | nil => rfl
  | cons c rest ih =>
    simp only [List.mem_cons, not_or] at noParenthesis
    have none : expression? rest = none := by
      unfold expression?
      split
      · simp at noParenthesis
      · simp at noParenthesis
      · rfl
    simp [setAside, none, ih noParenthesis.2]

theorem putBack_of_not_mem {cs : List Char} (noNumber : '#' ∉ cs)
    (expressions : List (List Char)) : putBack expressions 0 cs = .ok cs := by
  induction cs with
  | nil => rfl
  | cons c rest ih =>
    simp only [List.mem_cons, not_or] at noNumber
    simp [putBack, Ne.symm noNumber.1, ih noNumber.2, Except.map]

structure Inert (c : Char) : Prop where
  opening : ∀ before tail, Path.opening before (c :: tail) = none
  descent : ∀ before tail, Path.descent before (c :: tail) = none
  closing : ∀ before tail, Path.closing before (c :: tail) = none

theorem inert_of_isNameChar {c : Char} (nameChar : isNameChar c = true) : Inert c := by
  have quote : c ≠ '\'' := ne_of_isNameChar nameChar (by decide)
  have point : c ≠ '.' := ne_of_isNameChar nameChar (by decide)
  have separator : c ≠ ';' := ne_of_isNameChar nameChar (by decide)
  have opened : c ≠ '[' := ne_of_isNameChar nameChar (by decide)
  have closed : c ≠ ']' := ne_of_isNameChar nameChar (by decide)
  refine ⟨fun before tail => ?_, fun before tail => ?_, fun before tail => ?_⟩
  · unfold Path.opening
    split <;> simp_all
  · unfold Path.descent
    split <;> simp_all
  · unfold Path.closing
    split <;> simp_all

theorem inert_key (step : DefiniteStep) {c : Char} (mem : c ∈ step.key) : c ≠ '@' ∧ Inert c :=
  have nameChar := step.key_chars c mem
  ⟨ne_of_isNameChar nameChar (by decide), inert_of_isNameChar nameChar⟩

theorem Passes.sign {rule : Text.Replacement} {sign c : Char} {cs : List Char}
    (replaced : ∀ before rest, before ≠ some '@' →
      rule before (sign :: c :: rest) = some ([';'], 1))
    (passes : Passes rule (c :: cs) (c :: cs)) (noAt : sign ≠ '@') :
    Passes rule (sign :: c :: cs) (';' :: c :: cs) := by
  intro before rest noAtBefore
  obtain ⟨after, noAtAfter, same⟩ := passes (some sign) rest (by simpa using noAt)
  refine ⟨after, noAtAfter, ?_⟩
  have first := replaced before (cs ++ rest) noAtBefore
  rw [List.cons_append, List.cons_append, Text.replaceFrom_some first, ← List.cons_append, same]
  rfl

theorem Passes.separator {rule : Text.Replacement} {c : Char} {cs : List Char}
    (left : ∀ before rest, rule before (';' :: c :: rest) = none)
    (passes : Passes rule (c :: cs) (c :: cs)) :
    Passes rule (';' :: c :: cs) (';' :: c :: cs) := by
  intro before rest _
  obtain ⟨after, noAt, same⟩ := passes (some ';') rest (by decide)
  refine ⟨after, noAt, ?_⟩
  have first := left before (cs ++ rest)
  rw [List.cons_append, List.cons_append, Text.replaceFrom_none first, ← List.cons_append, same]
  rfl

theorem exists_key (step : DefiniteStep) : ∃ c cs, step.key = c :: cs ∧ isNameChar c = true := by
  obtain ⟨c, cs, same⟩ := List.exists_cons_of_ne_nil step.key_ne_nil
  exact ⟨c, cs, same, step.key_chars c (by rw [same]; exact List.mem_cons_self)⟩

theorem passes_opening (step : DefiniteStep) : Passes opening step.text step.marked := by
  have key : Passes opening step.key step.key := .inert fun c mem =>
    ⟨(inert_key step mem).1, (inert_key step mem).2.opening⟩
  obtain ⟨c, cs, same, nameChar⟩ := exists_key step
  have noQuote : c ≠ '\'' := ne_of_isNameChar nameChar (by decide)
  rw [same] at key
  cases step with
  | member bracketed name full plain =>
    obtain rfl : name = c :: cs := same
    cases bracketed with
    | false =>
      refine .sign (fun before rest noAt => ?_) key (by decide)
      simp [opening, noAt, noQuote]
    | true =>
      have opened : Passes opening ['[', '\''] [';'] := fun before rest _ =>
        ⟨some '\'', by decide, rfl⟩
      have closed : Passes opening ['\'', ']'] ['\'', ']'] := fun before rest _ =>
        ⟨some ']', by decide, by simp [Text.replaceFrom, opening]⟩
      exact opened.append (key.append closed)
  | item digits numeral =>
    obtain rfl : digits = c :: cs := same
    have opened : Passes opening ('[' :: c :: cs) (';' :: c :: cs) :=
      .sign (fun before rest _ => by simp [opening, noQuote]) key (by decide)
    have closed : Passes opening [']'] [']'] := .char (by decide) fun _ _ => by simp [opening]
    exact opened.append closed

theorem passes_descent (step : DefiniteStep) : Passes descent step.marked step.marked := by
  have key : Passes descent step.key step.key := .inert fun c mem =>
    ⟨(inert_key step mem).1, (inert_key step mem).2.descent⟩
  obtain ⟨c, cs, same, nameChar⟩ := exists_key step
  have noSeparator : c ≠ ';' := ne_of_isNameChar nameChar (by decide)
  rw [same] at key
  have separated : Passes descent (';' :: c :: cs) (';' :: c :: cs) :=
    .separator (fun before rest => by simp [descent, noSeparator]) key
  have quote : Passes descent ['\''] ['\''] := .char (by decide) fun _ _ => by simp [descent]
  have closed : Passes descent [']'] [']'] := .char (by decide) fun _ _ => by simp [descent]
  cases step with
  | member bracketed name full plain =>
    obtain rfl : name = c :: cs := same
    cases bracketed with
    | false => exact separated
    | true => exact separated.append (quote.append closed)
  | item digits numeral =>
    obtain rfl : digits = c :: cs := same
    exact separated.append closed

theorem passes_closing (step : DefiniteStep) :
    Passes closing step.marked (';' :: step.key) := by
  have key : Passes closing step.key step.key := .inert fun c mem =>
    ⟨(inert_key step mem).1, (inert_key step mem).2.closing⟩
  obtain ⟨c, cs, same, nameChar⟩ := exists_key step
  have noFeed : c ≠ '\n' := ne_of_isNameChar nameChar (by decide)
  rw [same] at key ⊢
  have separated : Passes closing (';' :: c :: cs) (';' :: c :: cs) :=
    .separator (fun before rest => by simp [closing, isEnd, noFeed]) key
  have quoted : Passes closing ['\'', ']'] [] := fun before rest _ => ⟨some ']', by decide, rfl⟩
  have closed : Passes closing [']'] [] := fun before rest _ => ⟨some ']', by decide, rfl⟩
  rw [← List.append_nil (';' :: c :: cs)]
  cases step with
  | member bracketed name full plain =>
    obtain rfl : name = c :: cs := same
    cases bracketed with
    | false => exact (List.append_nil (';' :: c :: cs)).symm ▸ separated
    | true => exact separated.append quoted
  | item digits numeral =>
    obtain rfl : digits = c :: cs := same
    exact separated.append closed

theorem steps_keys (step : DefiniteStep) (others : List DefiniteStep) :
    Path.steps (step.key ++ others.flatMap fun other => ';' :: other.key) =
      step.key :: others.map DefiniteStep.key := by
  have single (step : DefiniteStep) : ';' ∉ step.key := step.not_mem_key (by decide)
  induction others generalizing step with
  | nil => simp [steps_of_not_mem _ (single step)]
  | cons next others ih =>
    rw [List.flatMap_cons, List.cons_append, steps_append_separator _ _ (single step), ih]
    rfl

theorem DefinitePath.normalSteps_text {path : DefinitePath} (full : path.steps ≠ []) :
    normalSteps path.text = .ok path.keys := by
  obtain ⟨steps⟩ := path
  obtain ⟨step, others, rfl⟩ := List.exists_cons_of_ne_nil full
  have noParenthesis : '(' ∉ '$' :: (step :: others).flatMap DefiniteStep.text := by
    have absent : '(' ∉ (⟨step :: others⟩ : DefinitePath).text.toList :=
      DefinitePath.not_mem_text (by decide) (by decide)
    rwa [DefinitePath.text, String.toList_ofList] at absent
  have dollar {rule : Text.Replacement} (inert : ∀ before tail, rule before ('$' :: tail) = none) :
      Passes rule ['$'] ['$'] := .char (by decide) inert
  have opened := ((dollar fun _ _ => by simp [opening]).append
    (.flatMap passes_opening (step :: others))).replace
  have descended := ((dollar fun _ _ => by simp [descent]).append
    (.flatMap passes_descent (step :: others))).replace
  have closed := ((dollar fun _ _ => by simp [closing]).append
    (.flatMap passes_closing (step :: others))).replace
  have noNumber : '#' ∉ '$' :: (step :: others).flatMap fun other => ';' :: other.key := by
    have single (other : DefiniteStep) : '#' ∉ other.key := other.not_mem_key (by decide)
    simp [single]
  simp only [List.singleton_append] at opened descended closed
  rw [normalSteps, normalText, DefinitePath.text, String.toList_ofList,
    setAside_of_not_mem noParenthesis]
  dsimp only
  rw [opened, descended, closed, putBack_of_not_mem noNumber]
  change Except.ok (Path.steps (step.key ++ others.flatMap fun other => ';' :: other.key)) = _
  rw [steps_keys]
  rfl

end StateFlow.Path

namespace StateFlow.ResultPath

open StateFlow.Path

theorem isMark_of_isNameChar {c : Char} (nameChar : isNameChar c = true) (noDollar : c ≠ '$') :
    isMark c = false := by
  have marks : "$.[]'\"".toList = ['$', '.', '[', ']', '\'', '"'] := rfl
  have other (mark : Char) (sign : isNameChar mark = false) : c ≠ mark :=
    ne_of_isNameChar nameChar sign
  simp [isMark, marks, noDollar, other '.' (by decide), other '[' (by decide),
    other ']' (by decide), other '\'' (by decide), other '"' (by decide)]

theorem splitKeys_mark {c : Char} (mark : isMark c = true) (rest : List Char) :
    splitKeys [] (c :: rest) = splitKeys [] rest := by
  simp [splitKeys, mark]

theorem splitKeys_append {cs rest : List Char} (plain : ∀ c ∈ cs, isMark c = false)
    (ends : ∀ c ∈ rest.head?, isMark c = true) (begun : List Char)
    (full : begun.reverse ++ cs ≠ []) :
    splitKeys begun (cs ++ rest) = (begun.reverse ++ cs) :: splitKeys [] rest := by
  induction cs generalizing begun with
  | nil =>
    have full : begun ≠ [] := by simpa using full
    cases rest with
    | nil => simp [splitKeys, full]
    | cons c rest =>
      have mark : isMark c = true := ends c rfl
      simp [splitKeys, mark, full]
  | cons c cs ih =>
    have next := ih (fun d mem => plain d (.tail c mem)) (c :: begun) (by simp)
    simpa [splitKeys, plain c List.mem_cons_self] using next

theorem splitKeys_step {step : DefiniteStep} (noDollar : '$' ∉ step.key) {rest : List Char}
    (ends : ∀ c ∈ rest.head?, isMark c = true) :
    splitKeys [] (step.text ++ rest) = step.key :: splitKeys [] rest := by
  have plain (c : Char) (mem : c ∈ step.key) : isMark c = false :=
    isMark_of_isNameChar (step.key_chars c mem) fun same => noDollar (same ▸ mem)
  have key (after : List Char) (marked : ∀ c ∈ after.head?, isMark c = true) :
      splitKeys [] (step.key ++ after) = step.key :: splitKeys [] after :=
    splitKeys_append plain marked [] (by simpa using step.key_ne_nil)
  cases step with
  | member bracketed name full plain =>
    cases bracketed with
    | false => exact key rest ends
    | true =>
      have whole := key ('\'' :: ']' :: rest) fun _ mem => Option.some.inj mem ▸ rfl
      simpa [DefiniteStep.text, DefiniteStep.key, splitKeys_mark (c := '[') rfl,
        splitKeys_mark (c := '\'') rfl, splitKeys_mark (c := ']') rfl] using whole
  | item digits numeral =>
    have whole := key (']' :: rest) fun _ mem => Option.some.inj mem ▸ rfl
    simpa [DefiniteStep.text, DefiniteStep.key, splitKeys_mark (c := '[') rfl,
      splitKeys_mark (c := ']') rfl] using whole

theorem isMark_head_text (step : DefiniteStep) : ∃ c rest, step.text = c :: rest ∧
    isMark c = true := by
  cases step with
  | member bracketed name full plain => cases bracketed <;> exact ⟨_, _, rfl, rfl⟩
  | item digits numeral => exact ⟨'[', _, rfl, rfl⟩

theorem splitKeys_steps {steps : List DefiniteStep} (noDollar : ∀ step ∈ steps, '$' ∉ step.key) :
    splitKeys [] (steps.flatMap DefiniteStep.text) = steps.map DefiniteStep.key := by
  induction steps with
  | nil => rfl
  | cons step steps ih =>
    have ends : ∀ c ∈ (steps.flatMap DefiniteStep.text).head?, isMark c = true := by
      cases steps with
      | nil => simp
      | cons next steps =>
        obtain ⟨c, rest, same, mark⟩ := isMark_head_text next
        simp [same, mark]
    obtain ⟨first, others⟩ := List.forall_mem_cons.1 noDollar
    rw [List.flatMap_cons, splitKeys_step first ends, ih others]
    rfl

end StateFlow.ResultPath

namespace StateFlow.Path.DefinitePath

theorem keys_text {path : DefinitePath} (noDollar : ∀ step ∈ path.steps, '$' ∉ step.key) :
    ResultPath.keys path.text = path.keys.map String.ofList := by
  rw [ResultPath.keys, text, String.toList_ofList, ResultPath.splitKeys_mark rfl,
    ResultPath.splitKeys_steps noDollar]
  rfl

end StateFlow.Path.DefinitePath
