import StateFlow.Proofs.Json.Scalar

/-!
JSON values read back. `Carried` are the values that their text carries: they hold no doubles, no
whole number with too many digits and no object with a key twice, and are nested to a bounded depth.
Reading the text of such a value gives the value and leaves what follows, unless a number would go
on there.
-/
namespace StateFlow.Json

/-- A value that its text carries, with so many objects and lists at most around each other. -/
inductive Carried : Nat → Json → Prop where
  | null {depth : Nat} : Carried depth .null
  | bool {depth : Nat} (b : Bool) : Carried depth (.bool b)
  | int {depth : Nat} {n : Int} (writable : Text.isWritable n = true) : Carried depth (.int n)
  | str {depth : Nat} (s : String) : Carried depth (.str s)
  | arr {depth : Nat} {xs : List Json} (items : ∀ x ∈ xs, Carried depth x) :
    Carried (depth + 1) (.arr xs)
  | obj {depth : Nat} {fs : List (String × Json)} (keys : (fs.map Prod.fst).Nodup)
      (values : ∀ f ∈ fs, Carried depth f.2) : Carried (depth + 1) (.obj fs)

theorem Carried.mono {depth : Nat} {value : Json} (carried : Carried depth value) {bound : Nat}
    (le : depth ≤ bound) : Carried bound value := by
  induction carried generalizing bound with
  | null => exact .null
  | bool b => exact .bool b
  | int writable => exact .int writable
  | str s => exact .str s
  | arr items ih =>
    obtain ⟨bound, rfl⟩ : ∃ m, bound = m + 1 := ⟨bound - 1, by omega⟩
    exact .arr fun x mem => ih x mem (by omega)
  | obj keys values ih =>
    obtain ⟨bound, rfl⟩ : ∃ m, bound = m + 1 := ⟨bound - 1, by omega⟩
    exact .obj keys fun f mem => ih f mem (by omega)

theorem Carried.isWritable {depth : Nat} {value : Json} (carried : Carried depth value) :
    value.isWritable = true := by
  induction carried with
  | int writable => exact writable
  | arr items ih => exact areWritable_iff.2 ih
  | obj keys values ih => exact haveWritable_iff.2 ih
  | _ => rfl

theorem encodeChars_str (s : String) : encodeChars (.str s) = encodeText true s.toList := rfl

theorem skipBlanks_cons {c : Char} (solid : isTextBlank c = false) (rest : List Char) :
    skipBlanks (c :: rest) = c :: rest := by
  simp [skipBlanks, solid]

def Opens (cs : List Char) : Prop :=
  ∃ c rest, cs = c :: rest ∧ isTextBlank c = false ∧ c ≠ ']' ∧ c ≠ '\x7d'

theorem opens_ofInt (n : Int) :
    ∃ c rest, Decimal.ofInt n = c :: rest ∧ isTextBlank c = false ∧
      ∀ other ∈ ['"', '[', ']', '\x7b', '\x7d'], c ≠ other := by
  unfold Decimal.ofInt
  split
  · exact ⟨'-', _, rfl, by decide, by simp⟩
  · obtain ⟨c, ds, same⟩ := List.exists_cons_of_ne_nil (Decimal.digits_ne_nil n.natAbs)
    have digit : Text.isAsciiDigit c = true :=
      Decimal.isAsciiDigit_of_mem_digits (by rw [same]; exact List.mem_cons_self)
    have differs (other : Char) (noDigit : Text.isAsciiDigit other = false) : c ≠ other := by
      rintro rfl
      simp [digit] at noDigit
    refine ⟨c, ds, same, ?_, fun other mem => differs other ?_⟩
    · simp [isTextBlank, differs ' ' (by decide), differs '\t' (by decide),
        differs '\r' (by decide), differs '\n' (by decide)]
    · simp only [List.mem_cons, List.not_mem_nil, or_false] at mem
      rcases mem with rfl | rfl | rfl | rfl | rfl <;> decide

theorem Carried.opens {depth : Nat} {value : Json} (carried : Carried depth value) :
    Opens value.encodeChars := by
  cases carried with
  | null => exact ⟨'n', _, rfl, by decide, by decide, by decide⟩
  | bool b => cases b <;> exact ⟨_, _, rfl, by decide, by decide, by decide⟩
  | @int _ n _ =>
    obtain ⟨c, rest, same, solid, other⟩ := opens_ofInt n
    exact ⟨c, rest, same, solid, other _ (by simp), other _ (by simp)⟩
  | str s => exact ⟨'"', _, rfl, by decide, by decide, by decide⟩
  | arr items => exact ⟨'[', _, rfl, by decide, by decide, by decide⟩
  | obj keys values => exact ⟨'\x7b', _, rfl, by decide, by decide, by decide⟩

theorem readValue_scalar {c : Char} (solid : isTextBlank c = false)
    (other : c ≠ '"' ∧ c ≠ '[' ∧ c ≠ '\x7b') (fuel depth : Nat) (rest : List Char) :
    readValue (fuel + 1) depth (c :: rest) = readScalar (c :: rest) := by
  obtain ⟨noText, noList, noObject⟩ := other
  rw [readValue, skipBlanks_cons solid]
  simp [noText, noList, noObject]

theorem readValue_encodeText (s : String) (fuel depth : Nat) (rest : List Char) :
    readValue (fuel + 1) depth (encodeText true s.toList ++ rest) = .ok (.str s, rest) := by
  have solid : isTextBlank '"' = false := by decide
  simp only [encodeText, List.cons_append, List.append_assoc, List.nil_append]
  rw [readValue, skipBlanks_cons solid]
  simp only [readText_flatMap, List.reverse_nil, List.nil_append, String.ofList_toList]
  rfl

theorem readValue_ofInt {n : Int} (writable : Text.isWritable n = true) (fuel depth : Nat)
    {rest : List Char} (ends : EndsNumber rest) :
    readValue (fuel + 1) depth (Decimal.ofInt n ++ rest) = .ok (.int n, rest) := by
  rw [← readScalar_ofInt writable ends]
  obtain ⟨c, cs, same, solid, other⟩ := opens_ofInt n
  rw [same]
  have start : c ≠ '"' ∧ c ≠ '[' ∧ c ≠ '\x7b' :=
    ⟨other _ (by simp), other _ (by simp), other _ (by simp)⟩
  exact readValue_scalar solid start fuel depth (cs ++ rest)

/-- Reading gives the value back, with enough fuel and few enough objects and lists around it. -/
def ReadsBack (depth : Nat) (value : Json) : Prop :=
  ∀ fuel rest, value.encodeChars.length ≤ fuel → EndsNumber rest →
    readValue fuel depth (value.encodeChars ++ rest) = .ok (value, rest)

theorem readItems_last {cs rest : List Char} {fuel depth : Nat} {item : Json} (opens : Opens cs)
    (read : readValue fuel depth (cs ++ ']' :: rest) = .ok (item, ']' :: rest))
    (items : List Json) :
    readItems (fuel + 1) depth items (cs ++ ']' :: rest) =
      .ok (.arr (item :: items).reverse, rest) := by
  obtain ⟨c, cs, rfl, solid, noEnd, -⟩ := opens
  have closing : skipBlanks (']' :: rest) = ']' :: rest := skipBlanks_cons (by decide) rest
  rw [List.cons_append] at read
  rw [readItems, List.cons_append, skipBlanks_cons solid]
  split
  · next same => exact absurd (List.cons.inj same).1 noEnd
  · rw [read]
    simp only [bind, Except.bind, closing]
    rfl

theorem readItems_more {cs rest : List Char} {fuel depth : Nat} {item : Json} (opens : Opens cs)
    (read : readValue fuel depth (cs ++ ',' :: rest) = .ok (item, ',' :: rest))
    (items : List Json) :
    readItems (fuel + 1) depth items (cs ++ ',' :: rest) =
      readItems fuel depth (item :: items) rest := by
  obtain ⟨c, cs, rfl, solid, noEnd, -⟩ := opens
  have comma : skipBlanks (',' :: rest) = ',' :: rest := skipBlanks_cons (by decide) rest
  rw [List.cons_append] at read
  rw [readItems, List.cons_append, skipBlanks_cons solid]
  split
  · next same => exact absurd (List.cons.inj same).1 noEnd
  · rw [read]
    simp only [bind, Except.bind, comma]

theorem readItems_encodeItems {depth : Nat} {x : Json} {xs : List Json}
    (opens : ∀ y ∈ x :: xs, Opens y.encodeChars) (reads : ∀ y ∈ x :: xs, ReadsBack depth y)
    (fuel : Nat) (items : List Json) (rest : List Char)
    (enough : (separated [','] (encodeItems (x :: xs))).length < fuel) :
    readItems fuel depth items (separated [','] (encodeItems (x :: xs)) ++ ']' :: rest) =
      .ok (.arr (items.reverse ++ x :: xs), rest) := by
  induction xs generalizing x items fuel with
  | nil =>
    obtain ⟨fuel, rfl⟩ : ∃ m, fuel = m + 1 := ⟨fuel - 1, by omega⟩
    simp only [encodeItems, separated, List.flatMap_nil, List.append_nil] at enough ⊢
    have read := reads x List.mem_cons_self fuel (']' :: rest) (by omega)
      (endsNumber_cons (by decide))
    rw [readItems_last (opens x List.mem_cons_self) read, List.reverse_cons]
  | cons y xs ih =>
    obtain ⟨fuel, rfl⟩ : ∃ m, fuel = m + 1 := ⟨fuel - 1, by omega⟩
    have rest' := ih (fun z mem => opens z (.tail x mem)) (fun z mem => reads z (.tail x mem))
      fuel (x :: items)
    simp only [encodeItems, separated, List.flatMap_cons, List.append_assoc, List.cons_append,
      List.nil_append, List.length_append, List.length_cons] at enough rest' ⊢
    have read := reads x List.mem_cons_self fuel (',' :: (y.encodeChars ++
      ((encodeItems xs).flatMap (',' :: ·) ++ ']' :: rest))) (by omega)
      (endsNumber_cons (by decide))
    rw [readItems_more (opens x List.mem_cons_self) read, rest' (by omega)]
    simp

theorem insert_of_not_mem {key : String} {fields : List (String × Json)}
    (fresh : key ∉ fields.map Prod.fst) (value : Json) :
    insert key value fields = fields ++ [(key, value)] := by
  induction fields with
  | nil => rfl
  | cons field fields ih =>
    obtain ⟨k, v⟩ := field
    simp only [List.map_cons, List.mem_cons, not_or] at fresh
    rw [insert, if_neg (Ne.symm fresh.1), ih fresh.2, List.cons_append]

def memberText (field : String × Json) : List Char :=
  encodeText true field.1.toList ++ ':' :: field.2.encodeChars

theorem encodeFields_cons (field : String × Json) (fields : List (String × Json)) :
    encodeFields (field :: fields) = memberText field :: encodeFields fields := rfl

theorem length_memberText (field : String × Json) :
    field.2.encodeChars.length + 3 ≤ (memberText field).length := by
  simp only [memberText, encodeText, List.cons_append, List.length_cons, List.length_append]
  omega

theorem readMembers_member {fuel depth : Nat} {field : String × Json} {rest : List Char}
    (read : readValue (fuel + 1) depth (field.2.encodeChars ++ rest) = .ok (field.2, rest))
    (fields : List (String × Json)) :
    readMembers (fuel + 2) depth fields (memberText field ++ rest) =
      match skipBlanks rest with
      | '\x7d' :: rest => .ok (.obj (insert field.1 field.2 fields), rest)
      | ',' :: rest => readMembers (fuel + 1) depth (insert field.1 field.2 fields) rest
      | _ => .error .badMember := by
  have key := readValue_encodeText field.1 fuel depth (':' :: (field.2.encodeChars ++ rest))
  have quote : skipBlanks (memberText field ++ rest) = memberText field ++ rest :=
    skipBlanks_cons (by decide) _
  have colon (more : List Char) : skipBlanks (':' :: more) = ':' :: more :=
    skipBlanks_cons (by decide) more
  rw [readMembers, quote]
  split
  · next same => cases same
  · rw [memberText, List.append_assoc, List.cons_append, key]
    simp only [bind, Except.bind, colon]
    rw [read]
    rfl

theorem fresh_of_nodup {fields rest : List (String × Json)} {f : String × Json}
    (keys : ((fields ++ f :: rest).map Prod.fst).Nodup) : f.1 ∉ fields.map Prod.fst := by
  rw [List.map_append, List.nodup_append] at keys
  intro mem
  exact keys.2.2 _ mem _ (by simp) rfl

theorem readMembers_encodeFields {depth : Nat} {f : String × Json} {fs : List (String × Json)}
    (reads : ∀ g ∈ f :: fs, ReadsBack depth g.2) (fuel : Nat) (fields : List (String × Json))
    (rest : List Char) (keys : ((fields ++ f :: fs).map Prod.fst).Nodup)
    (enough : (separated [','] (encodeFields (f :: fs))).length < fuel) :
    readMembers fuel depth fields (separated [','] (encodeFields (f :: fs)) ++ '\x7d' :: rest) =
      .ok (.obj (fields ++ f :: fs), rest) := by
  induction fs generalizing f fields fuel with
  | nil =>
    have long := length_memberText f
    rw [encodeFields_cons] at enough ⊢
    simp only [encodeFields, separated, List.flatMap_nil, List.append_nil] at enough ⊢
    obtain ⟨fuel, rfl⟩ : ∃ m, fuel = m + 2 := ⟨fuel - 2, by omega⟩
    have read := reads f List.mem_cons_self (fuel + 1) ('\x7d' :: rest) (by omega)
      (endsNumber_cons (by decide))
    have closing : skipBlanks ('\x7d' :: rest) = '\x7d' :: rest :=
      skipBlanks_cons (by decide) rest
    rw [readMembers_member read, insert_of_not_mem (fresh_of_nodup keys)]
    simp only [closing]
  | cons g fs ih =>
    have long := length_memberText f
    rw [encodeFields_cons] at enough ⊢
    have keys' : ((fields ++ [f]) ++ g :: fs).map Prod.fst |>.Nodup := by simpa using keys
    have rest' := ih (fun h mem => reads h (.tail f mem)) (fuel - 1) (fields ++ [f]) keys'
    rw [encodeFields_cons] at enough rest' ⊢
    simp only [separated, List.flatMap_cons, List.append_assoc, List.cons_append,
      List.nil_append, List.length_append, List.length_cons] at enough rest' ⊢
    obtain ⟨fuel, rfl⟩ : ∃ m, fuel = m + 2 := ⟨fuel - 2, by omega⟩
    have read := reads f List.mem_cons_self (fuel + 1) (',' :: (memberText g ++
      ((encodeFields fs).flatMap (',' :: ·) ++ '\x7d' :: rest))) (by omega)
      (endsNumber_cons (by decide))
    have comma (more : List Char) : skipBlanks (',' :: more) = ',' :: more :=
      skipBlanks_cons (by decide) more
    rw [readMembers_member read, insert_of_not_mem (fresh_of_nodup keys)]
    simp only [comma]
    exact rest' (by omega)

theorem readValue_word (word : String) {value : Json} {c : Char} {cs : List Char}
    (spelled : word.toList = c :: cs) (solid : isTextBlank c = false)
    (other : c ≠ '"' ∧ c ≠ '[' ∧ c ≠ '\x7b')
    (scalar : ∀ rest, readScalar (c :: rest) = readWord word value (c :: rest))
    (fuel depth : Nat) (rest : List Char) :
    readValue (fuel + 1) depth (word.toList ++ rest) = .ok (value, rest) := by
  rw [← readWord_append word value rest, spelled, List.cons_append, ← scalar]
  exact readValue_scalar solid other fuel depth (cs ++ rest)

theorem readsBack_of_opens {depth : Nat} {value : Json} (opens : Opens value.encodeChars)
    (reads : ∀ fuel rest, value.encodeChars.length ≤ fuel + 1 → EndsNumber rest →
      readValue (fuel + 1) depth (value.encodeChars ++ rest) = .ok (value, rest)) :
    ReadsBack depth value := by
  intro fuel rest enough ends
  obtain ⟨c, cs, same, -⟩ := opens
  have positive : 0 < value.encodeChars.length := by simp [same]
  obtain ⟨fuel, rfl⟩ : ∃ m, fuel = m + 1 := ⟨fuel - 1, by omega⟩
  exact reads fuel rest enough ends

theorem readValue_arr {depth : Nat} {xs : List Json} (below : depth < depthLimit)
    (opens : ∀ x ∈ xs, Opens x.encodeChars) (reads : ∀ x ∈ xs, ReadsBack (depth + 1) x)
    {fuel : Nat} (enough : (encodeChars (.arr xs)).length ≤ fuel + 1) (rest : List Char) :
    readValue (fuel + 1) depth (encodeChars (.arr xs) ++ rest) = .ok (.arr xs, rest) := by
  have solid : isTextBlank '[' = false := by decide
  simp only [encodeChars, List.cons_append, List.append_assoc, List.nil_append, List.length_cons,
    List.length_append, List.length_nil] at enough ⊢
  rw [readValue, skipBlanks_cons solid]
  simp only [if_neg (Nat.not_le.2 below)]
  cases xs with
  | nil =>
    obtain ⟨fuel, rfl⟩ : ∃ m, fuel = m + 1 := ⟨fuel - 1, by omega⟩
    have closing : skipBlanks (']' :: rest) = ']' :: rest := skipBlanks_cons (by decide) rest
    simp only [encodeItems, separated, List.nil_append]
    rw [readItems, closing]
    rfl
  | cons x xs => exact readItems_encodeItems opens reads fuel [] rest (by omega)

theorem readValue_obj {depth : Nat} {fs : List (String × Json)} (below : depth < depthLimit)
    (keys : (fs.map Prod.fst).Nodup) (reads : ∀ f ∈ fs, ReadsBack (depth + 1) f.2)
    {fuel : Nat} (enough : (encodeChars (.obj fs)).length ≤ fuel + 1) (rest : List Char) :
    readValue (fuel + 1) depth (encodeChars (.obj fs) ++ rest) = .ok (.obj fs, rest) := by
  have solid : isTextBlank '\x7b' = false := by decide
  simp only [encodeChars, List.cons_append, List.append_assoc, List.nil_append, List.length_cons,
    List.length_append, List.length_nil] at enough ⊢
  rw [readValue, skipBlanks_cons solid]
  simp only [if_neg (Nat.not_le.2 below)]
  cases fs with
  | nil =>
    obtain ⟨fuel, rfl⟩ : ∃ m, fuel = m + 1 := ⟨fuel - 1, by omega⟩
    have closing : skipBlanks ('\x7d' :: rest) = '\x7d' :: rest :=
      skipBlanks_cons (by decide) rest
    simp only [encodeFields, separated, List.nil_append]
    rw [readMembers, closing]
    rfl
  | cons f fs => exact readMembers_encodeFields reads fuel [] rest keys (by omega)

theorem Carried.readsBack {bound : Nat} {value : Json} (carried : Carried bound value) {depth : Nat}
    (room : depth + bound ≤ depthLimit) : ReadsBack depth value := by
  refine readsBack_of_opens carried.opens ?_
  -- every list and object takes one level of the depth and one unit of fuel before its parts
  induction carried generalizing depth with
  | null =>
    intro fuel rest _ _
    exact readValue_word "null" rfl (by decide) (by decide) (fun _ => rfl) fuel depth rest
  | bool b =>
    intro fuel rest _ _
    cases b with
    | true =>
      exact readValue_word "true" rfl (by decide) (by decide) (fun _ => rfl) fuel depth rest
    | false =>
      exact readValue_word "false" rfl (by decide) (by decide) (fun _ => rfl) fuel depth rest
  | int writable =>
    intro fuel rest _ ends
    exact readValue_ofInt writable fuel depth ends
  | str s =>
    intro fuel rest _ _
    exact readValue_encodeText s fuel depth rest
  | arr items ih =>
    intro fuel rest enough _
    refine readValue_arr (by omega) (fun x mem => (items x mem).opens) (fun x mem => ?_) enough rest
    exact readsBack_of_opens (items x mem).opens (ih x mem (by omega))
  | obj keys values ih =>
    intro fuel rest enough _
    refine readValue_obj (by omega) keys (fun f mem => ?_) enough rest
    exact readsBack_of_opens (values f mem).opens (ih f mem (by omega))

theorem Carried.decode {value : Json} (carried : Carried depthLimit value) {rest : List Char}
    (blank : skipBlanks rest = []) (ends : EndsNumber rest) :
    Json.decode (String.ofList (value.encodeChars ++ rest)) = .ok value := by
  have room : 0 + depthLimit ≤ depthLimit := by omega
  have reads := carried.readsBack room
    (2 * (value.encodeChars ++ rest).length + 2) rest
    (by simp only [List.length_append]; omega) ends
  simp only [Json.decode, String.toList_ofList, bind, Except.bind]
  rw [reads]
  simp only [blank, if_true]
  rfl

theorem Carried.decode_encode {value : Json} (carried : Carried depthLimit value) :
    Json.decode value.encode = .ok value := by
  have whole := carried.decode rfl endsNumber_nil
  rwa [List.append_nil] at whole

theorem mem_encodeItems {xs : List Json} {part : List Char} (mem : part ∈ encodeItems xs) :
    ∃ x ∈ xs, part = encodeChars x := by
  induction xs with
  | nil => simp [encodeItems] at mem
  | cons x xs ih =>
    rcases List.mem_cons.1 mem with rfl | mem
    · exact ⟨x, List.mem_cons_self, rfl⟩
    · obtain ⟨y, inside, same⟩ := ih mem
      exact ⟨y, .tail x inside, same⟩

theorem mem_encodeFields {fs : List (String × Json)} {part : List Char}
    (mem : part ∈ encodeFields fs) : ∃ f ∈ fs, part = memberText f := by
  induction fs with
  | nil => simp [encodeFields] at mem
  | cons f fs ih =>
    rcases List.mem_cons.1 mem with rfl | mem
    · exact ⟨f, List.mem_cons_self, rfl⟩
    · obtain ⟨g, inside, same⟩ := ih mem
      exact ⟨g, .tail f inside, same⟩

end StateFlow.Json
