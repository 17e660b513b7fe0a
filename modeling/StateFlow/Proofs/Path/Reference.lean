import StateFlow.Proofs.Path.Definite

/-!
Reference paths: definite paths of one step or more whose names are letters and digits. Queries and
result paths read the same keys out of such a path: `normalSteps_text` and `keys_text`.
-/
namespace StateFlow.Path

def isAsciiLetter (c : Char) : Bool := ('a' ≤ c && c ≤ 'z') || ('A' ≤ c && c ≤ 'Z')

def isKeyChar (c : Char) : Bool := isAsciiLetter c || Text.isAsciiDigit c

def IsName (cs : List Char) : Prop :=
  ∃ c rest, cs = c :: rest ∧ isAsciiLetter c = true ∧ ∀ d ∈ rest, isKeyChar d = true

inductive ReferenceStep where
  | member (bracketed : Bool) (name : List Char) (named : IsName name)
  | item (digits : List Char) (numeral : IsNumeral digits)

namespace ReferenceStep

def key : ReferenceStep → List Char
  | member _ name _ => name
  | item digits _ => digits

def text : ReferenceStep → List Char
  | member false name _ => '.' :: name
  | member true name _ => '[' :: '\'' :: name ++ ['\'', ']']
  | item digits _ => '[' :: digits ++ [']']

theorem key_chars (step : ReferenceStep) : ∀ c ∈ step.key, isKeyChar c = true := by
  cases step with
  | member bracketed name named =>
    obtain ⟨c, rest, rfl, letter, others⟩ := named
    intro d mem
    rcases List.mem_cons.1 mem with rfl | mem
    · simp [isKeyChar, letter]
    · exact others d mem
  | item digits numeral => exact fun c mem => by simp [isKeyChar, numeral.2 c mem]

theorem key_ne_nil (step : ReferenceStep) : step.key ≠ [] := by
  cases step with
  | member bracketed name named =>
    obtain ⟨c, rest, rfl, -⟩ := named
    exact List.cons_ne_nil c rest
  | item digits numeral => exact numeral.1

end ReferenceStep

structure ReferencePath where
  steps : List ReferenceStep
  full : steps ≠ []

namespace ReferencePath

def text (path : ReferencePath) : String :=
  String.ofList ('$' :: path.steps.flatMap ReferenceStep.text)

def keys (path : ReferencePath) : List (List Char) := path.steps.map ReferenceStep.key

end ReferencePath

theorem toNat_of_isAsciiLetter {c : Char} (letter : isAsciiLetter c = true) :
    65 ≤ c.toNat ∧ c.toNat ≤ 122 := by
  simp only [isAsciiLetter, Char.le_def, UInt32.le_iff_toNat_le, Bool.or_eq_true,
    Bool.and_eq_true, decide_eq_true_eq] at letter
  unfold Char.toNat
  rcases letter with small | capital
  · change 97 ≤ c.val.toNat ∧ c.val.toNat ≤ 122 at small
    omega
  · change 65 ≤ c.val.toNat ∧ c.val.toNat ≤ 90 at capital
    omega

theorem isVisible_of_isKeyChar {c : Char} (keyChar : isKeyChar c = true) : Text.IsVisible c := by
  rcases Bool.or_eq_true_iff.1 keyChar with letter | digit
  · have := toNat_of_isAsciiLetter letter
    exact ⟨by omega, by omega⟩
  · exact .ofDigit digit

theorem ne_of_isKeyChar {c other : Char} (keyChar : isKeyChar c = true)
    (sign : isKeyChar other = false) : c ≠ other := by
  rintro rfl
  rw [keyChar] at sign
  cases sign

theorem isNameChar_of_isKeyChar {c : Char} (keyChar : isKeyChar c = true) :
    isNameChar c = true := by
  have noKeyChar : nameSigns.all (!isKeyChar ·) = true := by decide
  refine isNameChar_of_isVisible (isVisible_of_isKeyChar keyChar) fun sign mem => ?_
  exact ne_of_isKeyChar keyChar (by simpa using List.all_eq_true.1 noKeyChar sign mem)

namespace ReferenceStep

def toDefinite : ReferenceStep → DefiniteStep
  | member bracketed name named =>
    .member bracketed name (member bracketed name named).key_ne_nil fun c mem =>
      isNameChar_of_isKeyChar ((member bracketed name named).key_chars c mem)
  | item digits numeral => .item digits numeral

theorem key_toDefinite (step : ReferenceStep) : step.toDefinite.key = step.key := by
  cases step <;> rfl

theorem text_toDefinite (step : ReferenceStep) : step.toDefinite.text = step.text := by
  cases step with
  | member bracketed name named => cases bracketed <;> rfl
  | item digits numeral => rfl

end ReferenceStep

theorem not_mem_steps {steps : List ReferenceStep} {c : Char} (sign : isKeyChar c = false)
    (other : c ∉ ['.', '[', ']', '\'']) : c ∉ steps.flatMap ReferenceStep.text := by
  intro mem
  obtain ⟨step, -, mem⟩ := List.mem_flatMap.1 mem
  rw [← step.text_toDefinite] at mem
  rcases step.toDefinite.mem_text mem with key | mark
  · rw [step.key_toDefinite] at key
    exact ne_of_isKeyChar (step.key_chars c key) sign rfl
  · exact other mark

namespace ReferencePath

def toDefinite (path : ReferencePath) : DefinitePath := ⟨path.steps.map ReferenceStep.toDefinite⟩

theorem full_toDefinite (path : ReferencePath) : path.toDefinite.steps ≠ [] := by
  simpa [toDefinite] using path.full

theorem text_toDefinite (path : ReferencePath) : path.toDefinite.text = path.text := by
  simp only [DefinitePath.text, text, toDefinite, List.flatMap_map, ReferenceStep.text_toDefinite]

theorem keys_toDefinite (path : ReferencePath) : path.toDefinite.keys = path.keys := by
  simp only [DefinitePath.keys, keys, toDefinite, List.map_map]
  exact List.map_congr_left fun step _ => step.key_toDefinite

end ReferencePath

theorem normalSteps_text (path : ReferencePath) : normalSteps path.text = .ok path.keys := by
  rw [← path.text_toDefinite, DefinitePath.normalSteps_text path.full_toDefinite,
    path.keys_toDefinite]

end StateFlow.Path

namespace StateFlow.ResultPath

open StateFlow.Path

theorem keys_text (path : ReferencePath) : keys path.text = path.keys.map String.ofList := by
  have noDollar : ∀ step ∈ path.toDefinite.steps, '$' ∉ step.key := by
    intro step mem
    obtain ⟨step, -, rfl⟩ := List.mem_map.1 mem
    rw [step.key_toDefinite]
    exact fun mem => ne_of_isKeyChar (step.key_chars _ mem) (by decide) rfl
  rw [← path.text_toDefinite, DefinitePath.keys_text noDollar, path.keys_toDefinite]

end StateFlow.ResultPath
