import Mathlib.Data.Bool.AllAny
import Mathlib.Data.List.TakeWhile
import StateFlow.Proofs.Json.Cursor
import StateFlow.Proofs.Json.RoundTrip
import StateFlow.Proofs.Text.Numeral

/-!
The text of a value, whichever it is. All its characters are printing ones, so that it is a single
line, and behind it the cursor is where it was before.
-/
namespace StateFlow

theorem Decimal.mem_ofInt {n : Int} {c : Char} (mem : c ∈ ofInt n) :
    c = '-' ∨ Text.isAsciiDigit c = true := by
  unfold ofInt at mem
  split at mem
  · exact (List.mem_cons.1 mem).imp_right isAsciiDigit_of_mem_digits
  · exact .inr (isAsciiDigit_of_mem_digits mem)

namespace Binary64

def IsNumberChar (layout : Layout) (c : Char) : Prop :=
  Text.isAsciiDigit c = true ∨ c ∈ ['.', 'e', '+', '-'] ∨ c ∈ layout.infinity.toList ∨
    c ∈ layout.nan.toList

variable {layout : Layout}

theorem mem_positional {ds : List Char} (digits : ∀ c ∈ ds, Text.isAsciiDigit c = true) (lead : Int)
    {c : Char} (mem : c ∈ positional ds lead) : Text.isAsciiDigit c = true ∨ c = '.' := by
  have zero : Text.isAsciiDigit '0' = true := by decide
  unfold positional at mem
  split at mem
  · simp only [List.cons_append, List.mem_cons, List.mem_append, List.mem_replicate] at mem
    grind
  · dsimp only at mem
    split at mem
    · simp only [List.mem_cons, List.mem_append, List.mem_replicate, List.not_mem_nil] at mem
      grind
    · rcases List.mem_append.1 mem with mem | mem
      · exact .inl (digits c (List.mem_of_mem_take mem))
      · rcases List.mem_cons.1 mem with rfl | mem
        · exact .inr rfl
        · exact .inl (digits c (List.mem_of_mem_drop mem))

theorem mem_scientific {ds : List Char} (digits : ∀ c ∈ ds, Text.isAsciiDigit c = true)
    (width : Nat) (lead : Int) {c : Char} (mem : c ∈ scientific width ds lead) :
    Text.isAsciiDigit c = true ∨ c ∈ ['.', 'e', '+', '-'] := by
  unfold scientific at mem
  rcases List.mem_append.1 mem with mem | mem
  · rcases List.mem_append.1 mem with mem | mem
    · exact .inl (digits c (List.mem_of_mem_take mem))
    · split at mem
      · cases mem
      · rcases List.mem_cons.1 mem with rfl | mem
        · exact .inr (by decide)
        · exact .inl (digits c (List.mem_of_mem_drop mem))
  · rcases List.mem_cons.1 mem with rfl | mem
    · exact .inr (by decide)
    · rcases List.mem_cons.1 mem with rfl | mem
      · refine .inr ?_
        split <;> decide
      · exact .inl (Decimal.isAsciiDigit_of_mem_padded mem)

theorem mem_unsigned {m : Nat} {e : Int} {c : Char} (mem : c ∈ layout.unsigned m e) :
    Text.isAsciiDigit c = true ∨ c ∈ ['.', 'e', '+', '-'] := by
  unfold Layout.unsigned at mem
  split at mem
  · have : ∀ c ∈ ['0', '.', '0'], Text.isAsciiDigit c = true ∨ c ∈ ['.', 'e', '+', '-'] :=
      List.all_iff_forall_prop.1 (by decide)
    exact this c mem
  · have digits : ∀ c ∈ Decimal.digits (shortest m e).digits, Text.isAsciiDigit c = true :=
      fun c => Decimal.isAsciiDigit_of_mem_digits
    dsimp only at mem
    split at mem
    · rcases mem_positional digits _ mem with digit | rfl
      · exact .inl digit
      · exact .inr (by decide)
    · exact mem_scientific digits _ _ mem

theorem isNumberChar_of_mem_write {x : Binary64} {c : Char} (mem : c ∈ layout.write x) :
    IsNumberChar layout c := by
  have unsigned {m : Nat} {e : Int} (mem : c ∈ layout.unsigned m e) : IsNumberChar layout c :=
    (mem_unsigned mem).imp_right .inl
  have minus : IsNumberChar layout '-' := .inr (.inl (by decide))
  unfold Layout.write at mem
  split at mem
  · exact .inr (.inr (.inr mem))
  · split at mem
    · rcases List.mem_cons.1 mem with rfl | mem
      · exact minus
      · exact .inr (.inr (.inl mem))
    · exact .inr (.inr (.inl mem))
  · split at mem
    · rcases List.mem_cons.1 mem with rfl | mem
      · exact minus
      · exact unsigned mem
    · exact unsigned mem

end Binary64

namespace Json

theorem induction {motive : Json → Prop} (null : motive .null) (bool : ∀ b, motive (.bool b))
    (int : ∀ n, motive (.int n)) (real : ∀ x, motive (.real x)) (str : ∀ s, motive (.str s))
    (arr : ∀ xs, (∀ x ∈ xs, motive x) → motive (.arr xs))
    (obj : ∀ fs, (∀ f ∈ fs, motive f.2) → motive (.obj fs)) (value : Json) : motive value :=
  Json.rec null bool int real str (fun xs ih => arr xs ih) (fun fs ih => obj fs ih)
    nofun (fun _ _ first rest => List.forall_mem_cons.2 ⟨first, rest⟩)
    nofun (fun _ _ first rest => List.forall_mem_cons.2 ⟨first, rest⟩) (fun _ _ => id) value

def IsPrinting (c : Char) : Prop := 0x20 ≤ c.toNat ∧ c.toNat < 0x80

instance : DecidablePred IsPrinting := fun _ => inferInstanceAs (Decidable (_ ∧ _))

theorem isPrinting_of_isAsciiDigit {c : Char} (digit : Text.isAsciiDigit c = true) :
    IsPrinting c := by
  have := Text.toNat_of_isAsciiDigit digit
  exact ⟨by omega, by omega⟩

theorem isPrinting_of_mem_hexDigits {width n : Nat} {c : Char}
    (mem : c ∈ Text.hexDigits width n) : IsPrinting c := by
  induction width generalizing n with
  | zero => cases mem
  | succ width ih =>
    have digit : ∀ d, d < 16 → IsPrinting (Text.hexDigit d) := by decide
    rcases List.mem_append.1 mem with mem | mem
    · exact ih mem
    · rw [List.mem_singleton.1 mem]
      exact digit _ (Nat.mod_lt n (by decide))

theorem isPrinting_of_mem_encodeChar {slash : Bool} {c d : Char} (mem : d ∈ encodeChar slash c) :
    IsPrinting d := by
  unfold encodeChar at mem
  split at mem
  · next quote =>
    have : ∀ d ∈ ['\\', '"'], IsPrinting d := List.all_iff_forall_prop.1 (by decide)
    refine this d ?_
    rcases quote with rfl | rfl
    · exact mem
    · exact List.mem_cons.2 (.inl (by simpa using mem))
  split at mem
  · have : ∀ d ∈ ['\\', '/'], IsPrinting d := List.all_iff_forall_prop.1 (by decide)
    refine this d ?_
    cases slash with
    | true => exact mem
    | false => exact List.mem_cons.2 (.inr mem)
  iterate 5
    split at mem
    · have : ∀ d ∈ ['\\', 'b', 'f', 'n', 'r', 't'], IsPrinting d :=
        List.all_iff_forall_prop.1 (by decide)
      exact this d (by revert mem; simp +contextual [or_imp])
  split at mem
  · next plain =>
    rw [List.mem_singleton.1 mem]
    exact plain
  · obtain ⟨unit, -, mem⟩ := List.mem_flatMap.1 mem
    simp only [unitEscape, List.mem_cons] at mem
    rcases mem with rfl | rfl | mem
    · decide
    · decide
    · exact isPrinting_of_mem_hexDigits mem

theorem isPrinting_of_mem_encodeText {slash : Bool} {cs : List Char} {c : Char}
    (mem : c ∈ encodeText slash cs) : IsPrinting c := by
  simp only [encodeText, List.cons_append, List.mem_cons, List.mem_append, List.mem_flatMap,
    List.not_mem_nil, or_false] at mem
  rcases mem with rfl | ⟨d, -, mem⟩ | rfl
  · decide
  · exact isPrinting_of_mem_encodeChar mem
  · decide

theorem isPrinting_of_isNumberChar {c : Char} (number : Binary64.IsNumberChar textLayout c) :
    IsPrinting c := by
  rcases number with digit | mem | mem | mem
  · exact isPrinting_of_isAsciiDigit digit
  all_goals exact List.all_iff_forall_prop.1 (by decide) c mem

theorem mem_separated {separator : List Char} {parts : List (List Char)} {c : Char}
    (mem : c ∈ separated separator parts) : c ∈ separator ∨ ∃ part ∈ parts, c ∈ part := by
  cases parts with
  | nil => cases mem
  | cons part parts =>
    simp only [separated, List.mem_append, List.mem_flatMap] at mem
    grind

theorem isPrinting_of_mem_encodeChars {value : Json} {c : Char} (mem : c ∈ encodeChars value) :
    IsPrinting c := by
  induction value using Json.induction generalizing c with
  | null => exact List.all_iff_forall_prop.1 (by decide : "null".toList.all IsPrinting) c mem
  | bool b =>
    cases b with
    | true => exact List.all_iff_forall_prop.1 (by decide : "true".toList.all IsPrinting) c mem
    | false => exact List.all_iff_forall_prop.1 (by decide : "false".toList.all IsPrinting) c mem
  | int n =>
    rcases Decimal.mem_ofInt mem with rfl | digit
    · decide
    · exact isPrinting_of_isAsciiDigit digit
  | real x => exact isPrinting_of_isNumberChar (Binary64.isNumberChar_of_mem_write mem)
  | str s => exact isPrinting_of_mem_encodeText mem
  | arr xs ih =>
    simp only [encodeChars, List.cons_append, List.mem_cons, List.mem_append, List.not_mem_nil,
      or_false] at mem
    rcases mem with rfl | mem | rfl
    · decide
    · rcases mem_separated mem with comma | ⟨part, mem, inside⟩
      · rw [List.mem_singleton.1 comma]
        decide
      · obtain ⟨x, item, rfl⟩ := mem_encodeItems mem
        exact ih x item inside
    · decide
  | obj fs ih =>
    simp only [encodeChars, List.cons_append, List.mem_cons, List.mem_append, List.not_mem_nil,
      or_false] at mem
    rcases mem with rfl | mem | rfl
    · decide
    · rcases mem_separated mem with comma | ⟨part, mem, inside⟩
      · rw [List.mem_singleton.1 comma]
        decide
      · obtain ⟨f, field, rfl⟩ := mem_encodeFields mem
        rcases List.mem_append.1 inside with inside | inside
        · exact isPrinting_of_mem_encodeText inside
        · rcases List.mem_cons.1 inside with rfl | inside
          · decide
          · exact ih f field inside
    · decide

theorem not_mem_encodeChars {c : Char} (control : ¬ IsPrinting c) (value : Json) :
    c ∉ encodeChars value := fun mem => control (isPrinting_of_mem_encodeChars mem)

namespace Cursor

theorem walk_hexDigits (depth width n : Nat) :
    (text depth).walk (Text.hexDigits width n) = some (.text depth) := by
  induction width generalizing n with
  | zero => rfl
  | succ width ih =>
    have digit : ∀ d, d < 16 → Text.hexDigit d ≠ '"' ∧ Text.hexDigit d ≠ '\\' := by decide
    obtain ⟨noQuote, noEscape⟩ := digit _ (Nat.mod_lt n (by decide))
    rw [Text.hexDigits, walk_append, ih]
    simp [walk, step_text noQuote noEscape]

theorem walk_unitEscape (depth unit : Nat) :
    (text depth).walk (unitEscape unit) = some (.text depth) := by
  have opened : (text depth).walk ['\\', 'u'] = some (.text depth) := by simp [walk, step]
  rw [unitEscape, ← List.singleton_append, ← List.singleton_append (x := 'u'), ← List.append_assoc,
    List.singleton_append, walk_append, opened]
  exact walk_hexDigits depth 4 unit

theorem walk_flatMap {α : Type} {cursor : Cursor} {part : α → List Char} {items : List α}
    (returns : ∀ item ∈ items, cursor.walk (part item) = some cursor) :
    cursor.walk (items.flatMap part) = some cursor := by
  induction items with
  | nil => rfl
  | cons item items ih =>
    rw [List.flatMap_cons, walk_append, returns item List.mem_cons_self]
    exact ih fun other mem => returns other (.tail item mem)

theorem walk_encodeChar (depth : Nat) (slash : Bool) (c : Char) :
    (text depth).walk (encodeChar slash c) = some (.text depth) := by
  have escaped (d : Char) : (text depth).walk ['\\', d] = some (.text depth) := by
    simp [walk, step]
  unfold encodeChar
  split
  · exact escaped c
  split
  · cases slash with
    | true => exact escaped '/'
    | false => simp [walk, step]
  iterate 5
    split
    · exact escaped _
  split
  · next noQuote _ _ _ _ _ _ _ =>
    simp only [not_or] at noQuote
    simp [walk, step_text noQuote.1 noQuote.2]
  · exact walk_flatMap fun unit _ => walk_unitEscape depth unit

/-- What leaves the cursor inside lists and objects where it is. -/
def Returns (cs : List Char) : Prop :=
  ∀ depth, (inside (depth + 1)).walk cs = some (.inside (depth + 1))

theorem Returns.append {front back : List Char} (first : Returns front) (second : Returns back) :
    Returns (front ++ back) := by
  intro depth
  rw [walk_append, first depth]
  exact second depth

theorem isPlain_of_isNumberChar {c : Char} (number : Binary64.IsNumberChar textLayout c) :
    isPlain c = true := by
  rcases number with digit | mem | mem | mem
  · exact isPlain_of_isAsciiDigit digit
  all_goals exact List.all_eq_true.1 (by decide) c mem

theorem Returns.plain {cs : List Char} (plain : ∀ c ∈ cs, isPlain c = true) : Returns cs :=
  fun depth => walk_plain plain (depth + 1)

theorem Returns.separated {parts : List (List Char)} (each : ∀ part ∈ parts, Returns part) :
    Returns (separated [','] parts) := by
  cases parts with
  | nil => exact fun _ => rfl
  | cons part parts =>
    refine (each part List.mem_cons_self).append fun depth => walk_flatMap fun other mem => ?_
    have comma : [','].all isPlain = true := by decide
    exact ((plain (List.all_eq_true.1 comma)).append (each other (.tail part mem))) depth

theorem Returns.encodeText (slash : Bool) (cs : List Char) : Returns (encodeText slash cs) := by
  intro depth
  have closed : (text (depth + 1)).walk ['"'] = some (.inside (depth + 1)) := by simp [walk, step]
  have inner : (text (depth + 1)).walk (cs.flatMap (encodeChar slash)) = some (.text (depth + 1)) :=
    walk_flatMap fun c _ => walk_encodeChar (depth + 1) slash c
  rw [Json.encodeText, List.cons_append, walk, step_quote (level?_inside depth), Option.bind_some,
    walk_append, inner]
  exact closed

theorem Returns.enclosed {cs : List Char} (inner : Returns cs) {opening closing : Char}
    (opens : opening = '[' ∨ opening = '\x7b') (closes : closing = ']' ∨ closing = '\x7d') :
    Returns (opening :: cs ++ [closing]) := by
  intro depth
  have closed : (inside (depth + 2)).walk [closing] = some (.inside (depth + 1)) := by
    rcases closes with rfl | rfl <;> rfl
  rw [List.cons_append, walk, step_opening (level?_inside depth) opens, Option.bind_some,
    walk_append, inner]
  exact closed

end Cursor

open Cursor in
theorem returns_encodeChars (value : Json) : Returns (encodeChars value) := by
  induction value using Json.induction with
  | null => exact .plain (List.all_eq_true.1 (by decide))
  | bool b => cases b <;> exact .plain (List.all_eq_true.1 (by decide))
  | int n =>
    refine .plain fun c mem => ?_
    rcases Decimal.mem_ofInt mem with rfl | digit
    · decide
    · exact isPlain_of_isAsciiDigit digit
  | real x =>
    exact .plain fun c mem => isPlain_of_isNumberChar (Binary64.isNumberChar_of_mem_write mem)
  | str s => exact .encodeText true s.toList
  | arr xs ih =>
    refine .enclosed (.separated fun part mem => ?_) (.inl rfl) (.inl rfl)
    obtain ⟨x, item, rfl⟩ := mem_encodeItems mem
    exact ih x item
  | obj fs ih =>
    refine .enclosed (.separated fun part mem => ?_) (.inr rfl) (.inr rfl)
    obtain ⟨f, field, rfl⟩ := mem_encodeFields mem
    have colon : [':'].all isPlain = true := by decide
    exact (Returns.encodeText true f.1.toList).append
      ((Returns.plain (List.all_eq_true.1 colon)).append (ih f field))

namespace Cursor

theorem eq_before_of_step {cursor : Cursor} {c : Char} (moved : cursor.step c = some .before) :
    cursor = .before ∧ isTextBlank c = true := by
  have outside {depth : Nat} (moved : stepOutside cursor depth c = some .before) :
      cursor = .before ∧ isTextBlank c = true := by
    unfold stepOutside at moved
    split at moved
    · next blank => exact ⟨Option.some.inj moved, blank⟩
    · repeat' split at moved
      all_goals simp at moved
  cases cursor with
  | before => exact outside moved
  | inside depth => exact outside moved
  | text depth =>
    simp only [step, Option.some.injEq] at moved
    repeat' split at moved
    all_goals cases moved
  | escape depth => cases moved

theorem blank_of_walk {cursor : Cursor} {cs : List Char} (walked : cursor.walk cs = some .before) :
    cursor = .before ∧ ∀ c ∈ cs, isTextBlank c = true := by
  induction cs generalizing cursor with
  | nil => exact ⟨Option.some.inj walked, nofun⟩
  | cons c cs ih =>
    obtain ⟨next, moved, walked⟩ := Option.bind_eq_some_iff.1 walked
    obtain ⟨rfl, blank⟩ := ih walked
    obtain ⟨same, first⟩ := eq_before_of_step moved
    exact ⟨same, List.forall_mem_cons.2 ⟨first, blank⟩⟩

theorem walk_of_decode {cs : List Char} {value : Json}
    (decoded : decode (String.ofList cs) = .ok value) :
    Cursor.before.walk cs = some (.inside 0) ∨ Cursor.before.walk cs = some .before := by
  simp only [decode, String.toList_ofList] at decoded
  obtain ⟨⟨value, rest⟩, read, decoded⟩ := bind_eq_ok.1 decoded
  dsimp only at decoded
  split at decoded
  · next ends =>
    have blank : ∀ c ∈ rest, isTextBlank c = true := List.dropWhile_eq_nil_iff.1 ends
    rcases leads_value read .before 0 rfl with ⟨used, rfl, walked⟩ | ⟨used, rfl, walked⟩
    · exact .inl (by rw [walk_append, walked]; exact walk_blanks blank (.inr ⟨0, rfl⟩))
    · exact .inr (by rw [walk_append, walked]; exact walk_blanks blank (.inl rfl))
  · cases decoded

theorem walk_tagged {cursor : Cursor} (notBefore : cursor ≠ .before)
    (notDeep : ∀ depth, cursor ≠ .inside (depth + 1)) (rest : List Char) :
    cursor.walk ('\x7b' :: '"' :: 't' :: 'a' :: 'g' :: rest) = none := by
  have word (depth : Nat) : (inside depth).walk ('t' :: 'a' :: 'g' :: rest) = none := by
    have plain (c : Char) (plain : isPlain c = true) :
        (inside depth).step c = some (.inside depth) := step_plain plain (.inl rfl)
    have stuck : (inside depth).step 'g' = none := by
      cases depth <;> rfl
    simp [walk, plain 't' (by decide), plain 'a' (by decide), stuck]
  cases cursor with
  | before => exact absurd rfl notBefore
  | inside depth =>
    cases depth with
    | zero => rfl
    | succ depth => exact absurd rfl (notDeep depth)
  | text depth => exact word depth
  | escape depth => exact word depth

end Cursor

theorem encodeChars_tagged (tag : Json) (fields : List (String × Json)) :
    ∃ rest, encodeChars (.obj (("tag", tag) :: fields)) =
      '\x7b' :: '"' :: 't' :: 'a' :: 'g' :: rest := ⟨_, rfl⟩

theorem blank_of_decode {begun : List Char} {tag value : Json} {fields : List (String × Json)}
    (decoded : decode (String.ofList
      (begun ++ (encodeChars (.obj (("tag", tag) :: fields)) ++ ['\n']))) = .ok value) :
    ∀ c ∈ begun, isTextBlank c = true := by
  have walked := Cursor.walk_of_decode decoded
  rw [Cursor.walk_append] at walked
  cases behind : Cursor.before.walk begun with
  | none => simp [behind] at walked
  | some cursor =>
    rw [behind, Option.bind_some] at walked
    by_cases first : cursor = .before
    · exact (Cursor.blank_of_walk (first ▸ behind)).2
    by_cases deep : ∃ depth, cursor = .inside (depth + 1)
    · obtain ⟨depth, rfl⟩ := deep
      have ends : (Cursor.inside (depth + 1)).walk ['\n'] = some (.inside (depth + 1)) := rfl
      rw [Cursor.walk_append, returns_encodeChars, Option.bind_some, ends] at walked
      simp at walked
    · obtain ⟨rest, same⟩ := encodeChars_tagged tag fields
      have stuck := Cursor.walk_tagged first (not_exists.1 deep) (rest ++ ['\n'])
      rw [same] at walked
      simp only [List.cons_append] at walked
      rw [stuck] at walked
      simp at walked

end Json

end StateFlow
