import Mathlib.Algebra.GroupWithZero.Nat
import Mathlib.Algebra.Order.BigOperators.Group.List
import Mathlib.Algebra.Order.Group.Nat
import Mathlib.Data.List.DropRight
import Mathlib.Data.List.Infix
import StateFlow.Task.OutputTail

/-!
What the tail of an output keeps. Chunks are dropped one append after the other, and what is dropped
does not come back; still the chunks that are kept are told by all that were ever appended: they are
the longest suffix that fits the limit, or the last chunk alone if that is longer (`Keeps`). The
induction is over the appends, with `lastFitting` for what is left of all of them.
-/
namespace StateFlow.OutputTail

def ofChunks (limit : Int) (chunks : List String) : OutputTail := chunks.foldl push (empty limit)

def total (chunks : List String) : Nat := (chunks.map String.length).sum

theorem ofChunks_append (limit : Int) (chunks : List String) (chunk : String) :
    ofChunks limit (chunks ++ [chunk]) = (ofChunks limit chunks).push chunk := by
  simp [ofChunks]

@[simp] theorem total_nil : total [] = 0 := rfl

@[simp] theorem total_cons (chunk : String) (chunks : List String) :
    total (chunk :: chunks) = chunk.length + total chunks := by
  simp [total]

@[simp] theorem total_append (first second : List String) :
    total (first ++ second) = total first + total second := by
  simp [total]

theorem length_join (chunks : List String) : (String.join chunks).length = total chunks :=
  String.length_join

/-- The chunks without the oldest ones, as long as they are over the limit and more than one. -/
def lastFitting (limit : Nat) : List String → List String
  | [] => []
  | chunk :: rest =>
    if limit < total (chunk :: rest) ∧ rest ≠ [] then lastFitting limit rest else chunk :: rest

theorem lastFitting_of_exceeds {limit : Nat} {chunk : String} {rest : List String}
    (exceeds : limit < total (chunk :: rest)) (more : rest ≠ []) :
    lastFitting limit (chunk :: rest) = lastFitting limit rest := if_pos ⟨exceeds, more⟩

theorem lastFitting_of_fits {limit : Nat} {chunks : List String} (fits : total chunks ≤ limit) :
    lastFitting limit chunks = chunks := by
  cases chunks with
  | nil => rfl
  | cons chunk rest => exact if_neg fun exceeds => Nat.not_lt.2 fits exceeds.1

theorem lastFitting_append (limit : Nat) (chunks : List String) (chunk : String) :
    lastFitting limit (lastFitting limit chunks ++ [chunk]) =
      lastFitting limit (chunks ++ [chunk]) := by
  induction chunks with
  | nil => rfl
  | cons first rest ih =>
    by_cases exceeds : limit < total (first :: rest) ∧ rest ≠ []
    · have later : limit < total (first :: (rest ++ [chunk])) := by
        have := exceeds.1
        simp only [total_cons, total_append] at this ⊢
        omega
      rw [lastFitting_of_exceeds exceeds.1 exceeds.2, ih, List.cons_append,
        lastFitting_of_exceeds later (by simp)]
    · rw [show lastFitting limit (first :: rest) = first :: rest from if_neg exceeds]

def IsSized (tail : OutputTail) : Prop := tail.size = total tail.chunks

section dropOldest

variable (limit : Nat) (oldest newest : List String)

theorem dropOldest_limit (size : Nat) : (dropOldest limit oldest newest size).limit = limit := by
  induction oldest generalizing size with
  | nil => rfl
  | cons chunk rest ih =>
    rw [dropOldest]
    split
    · exact ih _
    · rfl

theorem dropOldest_spec :
    let left := dropOldest limit oldest newest (total (oldest ++ newest.reverse))
    left.IsSized ∧ lastFitting limit left.chunks = lastFitting limit (oldest ++ newest.reverse) ∧
      (left.oldest ≠ [] ∨ newest = [] → lastFitting limit left.chunks = left.chunks) := by
  induction oldest with
  | nil =>
    refine ⟨rfl, rfl, fun settled => ?_⟩
    obtain rfl := settled.resolve_left (by simp [dropOldest])
    rfl
  | cons chunk rest ih =>
    have more : ¬(rest = [] ∧ newest = []) ↔ rest ++ newest.reverse ≠ [] := by simp
    rw [List.cons_append, dropOldest]
    simp only [Int.ofNat_lt, more]
    split
    · next exceeds =>
      rw [lastFitting_of_exceeds exceeds.1 exceeds.2, total_cons, Nat.add_sub_cancel_left]
      exact ih
    · next settled => exact ⟨rfl, rfl, fun _ => if_neg settled⟩

end dropOldest

theorem push_spec {limit : Nat} {tail : OutputTail} (bound : tail.limit = limit)
    (sized : tail.IsSized) (chunk : String) :
    (tail.push chunk).limit = limit ∧ (tail.push chunk).IsSized ∧
      (tail.push chunk).chunks = lastFitting limit (tail.chunks ++ [chunk]) := by
  have all : tail.chunks ++ [chunk] = tail.oldest ++ (chunk :: tail.newest).reverse := by
    simp [chunks]
  have size : tail.size + chunk.length = total (tail.oldest ++ (chunk :: tail.newest).reverse) := by
    rw [← all, sized]
    simp
  simp only [push, bound, size, Int.ofNat_le]
  rw [all]
  generalize tail.oldest = oldest, chunk :: tail.newest = newest
  split
  · next fits => exact ⟨rfl, rfl, (lastFitting_of_fits fits).symm⟩
  · have bound := dropOldest_limit limit oldest newest (total (oldest ++ newest.reverse))
    obtain ⟨sized, same, settled⟩ := dropOldest_spec limit oldest newest
    generalize dropOldest limit oldest newest (total (oldest ++ newest.reverse)) = first at *
    split
    · next none =>
      -- all of the older chunks are gone, and the newer ones are gone through from the oldest on
      have left : first.chunks = first.newest.reverse ++ [].reverse := by simp [chunks, none]
      rw [sized, ← same, left]
      obtain ⟨sized, same, settled⟩ := dropOldest_spec limit first.newest.reverse []
      exact ⟨dropOldest_limit limit _ _ _, sized, by rw [← same, settled (.inr rfl)]⟩
    · next some => exact ⟨bound, sized, by rw [← same, settled (.inl some)]⟩

theorem ofChunks_spec (limit : Nat) (chunks : List String) :
    (ofChunks limit chunks).limit = limit ∧ (ofChunks limit chunks).IsSized ∧
      (ofChunks limit chunks).chunks = lastFitting limit chunks := by
  induction chunks using List.reverseRecOn with
  | nil => exact ⟨rfl, rfl, rfl⟩
  | append_singleton chunks chunk ih =>
    obtain ⟨bound, sized, same⟩ := ih
    rw [ofChunks_append, ← lastFitting_append, ← same]
    exact push_spec bound sized chunk

/-- The longest suffix of the chunks that fits the limit, if the last chunk fits it; else that
alone. -/
inductive Keeps (limit : Nat) (chunks : List String) : List String → Prop
  | fitting {kept : List String} (last : ∀ chunk ∈ chunks.getLast?, chunk.length ≤ limit)
    (suffix : kept <:+ chunks) (fits : total kept ≤ limit)
    (longest : ∀ other, other <:+ chunks → total other ≤ limit → other <:+ kept) :
    Keeps limit chunks kept
  | overlong {chunk : String} (last : chunks.getLast? = some chunk)
    (exceeds : limit < chunk.length) : Keeps limit chunks [chunk]

theorem Keeps.suffix {limit : Nat} {chunks kept : List String} (keeps : Keeps limit chunks kept) :
    kept <:+ chunks := by
  cases keeps with
  | fitting last suffix fits longest => exact suffix
  | overlong last exceeds => exact ⟨chunks.dropLast, List.dropLast_append_getLast? _ last⟩

theorem Keeps.unique {limit : Nat} {chunks kept other : List String}
    (keeps : Keeps limit chunks kept) (alsoKeeps : Keeps limit chunks other) : kept = other := by
  cases keeps with
  | fitting last suffix fits longest =>
    cases alsoKeeps with
    | fitting last' suffix' fits' longest' =>
      exact (longest' kept suffix fits).eq_of_length_le (longest other suffix' fits').length_le
    | overlong same exceeds => exact absurd (last _ same) (Nat.not_le.2 exceeds)
  | overlong same exceeds =>
    cases alsoKeeps with
    | fitting last suffix fits longest => exact absurd (last _ same) (Nat.not_le.2 exceeds)
    | overlong same' exceeds' => rw [Option.some.inj (same.symm.trans same')]

theorem Keeps.cons {limit : Nat} {chunk : String} {rest kept : List String}
    (exceeds : limit < total (chunk :: rest)) (more : rest ≠ []) (keeps : Keeps limit rest kept) :
    Keeps limit (chunk :: rest) kept := by
  have same : (chunk :: rest).getLast? = rest.getLast? := List.getLast?_cons_of_ne_nil more
  cases keeps with
  | fitting last suffix fits longest =>
    refine .fitting (same ▸ last) (suffix.trans (List.suffix_cons chunk rest)) fits ?_
    intro other inside fits
    rcases List.suffix_cons_iff.1 inside with rfl | inside
    · exact absurd fits (Nat.not_le.2 exceeds)
    · exact longest other inside fits
  | overlong last exceeds => exact .overlong (same.trans last) exceeds

theorem keeps_lastFitting (limit : Nat) (chunks : List String) :
    Keeps limit chunks (lastFitting limit chunks) := by
  induction chunks with
  | nil => exact .fitting nofun (List.suffix_refl []) (Nat.zero_le _) fun _ inside _ => inside
  | cons chunk rest ih =>
    by_cases fits : total (chunk :: rest) ≤ limit
    · rw [lastFitting_of_fits fits]
      refine .fitting (fun last mem => ?_) (List.suffix_refl _) fits fun _ inside _ => inside
      have inside : last.length ∈ (chunk :: rest).map String.length :=
        List.mem_map_of_mem (List.mem_of_getLast? mem)
      exact (List.le_sum_of_mem inside).trans fits
    · have exceeds := Nat.not_le.1 fits
      cases rest with
      | nil =>
        rw [show lastFitting limit [chunk] = [chunk] from if_neg fun many => many.2 rfl]
        exact .overlong List.getLast?_singleton (by simpa using exceeds)
      | cons next rest =>
        rw [lastFitting_of_exceeds exceeds (by simp)]
        exact ih.cons exceeds (by simp)

theorem toList_text {limit : Nat} (positive : 1 ≤ limit) {tail : OutputTail}
    (bound : tail.limit = limit) :
    tail.text.toList = (String.join tail.chunks).toList.rtake limit := by
  have given : ¬ (limit : Int) ≤ 0 := by omega
  simp only [text, bound, given, if_false, String.toList_ofList, Int.toNat_natCast, List.rtake,
    String.toList_join]

theorem join_suffix {first second : List String} (suffix : first <:+ second) :
    (String.join first).toList <:+ (String.join second).toList := by
  obtain ⟨before, rfl⟩ := suffix
  exact ⟨(String.join before).toList, by simp [String.toList_join]⟩

section ofChunks

variable {limit : Nat} (positive : 1 ≤ limit) (chunks : List String)

include positive

theorem toList_text_ofChunks : (ofChunks limit chunks).text.toList =
    (String.join (ofChunks limit chunks).chunks).toList.rtake limit :=
  toList_text positive (ofChunks_spec limit chunks).1

theorem length_text_ofChunks : (ofChunks limit chunks).text.length =
    min limit (total (ofChunks limit chunks).chunks) := by
  rw [← String.length_toList, toList_text_ofChunks positive, List.rtake, List.length_drop,
    String.length_toList, length_join]
  omega

theorem limit_lt_length_text (exceeds : limit < total chunks) {longest : Nat}
    (bound : ∀ chunk ∈ chunks, chunk.length ≤ longest) :
    limit < (ofChunks limit chunks).text.length + longest := by
  rw [length_text_ofChunks positive, (ofChunks_spec limit chunks).2.2]
  have keeps := keeps_lastFitting limit chunks
  generalize lastFitting limit chunks = kept at keeps
  cases keeps with
  | fitting last suffix fits maximal =>
    obtain ⟨before, rfl⟩ := suffix
    rcases List.eq_nil_or_concat before with rfl | ⟨before, chunk, rfl⟩
    · exact absurd exceeds (Nat.not_lt.2 fits)
    · -- the chunk before those that are kept does not fit any more
      have next : limit < total (chunk :: kept) := Nat.not_le.1 fun fits => by
        have shorter := (maximal (chunk :: kept) ⟨before, by simp⟩ fits).length_le
        exact absurd shorter (Nat.not_succ_le_self _)
      have own := bound chunk (by simp)
      rw [total_cons] at next
      omega
  | @overlong chunk last long =>
    have own := bound chunk (List.mem_of_getLast? last)
    rw [total_cons, total_nil]
    omega

end ofChunks

/-- After any appends the size is that of the chunks, and the chunks are the longest suffix of all
that were appended that fits the limit, or the last one alone. The text is the end of that: never
more than the limit, all that was appended as long as that is within the limit, and after that less
than the limit by less than the longest chunk. -/
theorem tail_keeps_longest_suffix {limit : Nat} (positive : 1 ≤ limit) (chunks : List String) :
    let tail := ofChunks limit chunks
    tail.size = total tail.chunks ∧
    (∀ kept, tail.chunks = kept ↔ Keeps limit chunks kept) ∧
    tail.text.toList = (String.join tail.chunks).toList.rtake limit ∧
    tail.text.length ≤ limit ∧
    tail.text.toList <:+ (String.join chunks).toList ∧
    (total chunks ≤ limit → tail.text = String.join chunks) ∧
    (limit < total chunks → ∀ longest, (∀ chunk ∈ chunks, chunk.length ≤ longest) →
      limit < tail.text.length + longest) := by
  intro tail
  obtain ⟨-, sized, same⟩ := ofChunks_spec limit chunks
  have keeps : Keeps limit chunks tail.chunks := same ▸ keeps_lastFitting limit chunks
  have text := toList_text_ofChunks positive chunks
  refine ⟨sized, fun kept => ⟨fun equal => equal ▸ keeps, keeps.unique⟩, text, ?_, ?_, ?_, ?_⟩
  · rw [length_text_ofChunks positive]
    exact Nat.min_le_left _ _
  · rw [text]
    exact (List.drop_suffix _ _).trans (join_suffix keeps.suffix)
  · intro fits
    have whole : (String.join chunks).toList.length ≤ limit := by
      rwa [String.length_toList, length_join]
    rw [← String.toList_inj, text, same, lastFitting_of_fits fits, List.rtake,
      Nat.sub_eq_zero_of_le whole, List.drop_zero]
  · intro exceeds longest bound
    exact limit_lt_length_text positive chunks exceeds bound

theorem tail_keeps_longest_suffix_with_empty :
    let chunks := ["ab", "cd", "", "e", "fg"]
    let tail := ofChunks 4 chunks
    1 ≤ 4 ∧ tail.chunks = ["", "e", "fg"] ∧ tail.text = "efg" ∧ Keeps 4 chunks ["", "e", "fg"] ∧
    (4 < total chunks ∧ (∀ chunk ∈ chunks, chunk.length ≤ 2) ∧ 4 < tail.text.length + 2) := by
  intro chunks tail
  have kept : tail.chunks = ["", "e", "fg"] := by decide +kernel
  have text : tail.text = "efg" := by decide +kernel
  have exceeds : 4 < total chunks := by decide +kernel
  have bound : ∀ chunk ∈ chunks, chunk.length ≤ 2 := by decide +kernel
  obtain ⟨-, keeps, -, -, -, -, short⟩ := tail_keeps_longest_suffix (show 1 ≤ 4 by decide) chunks
  exact ⟨by decide, kept, text, (keeps _).1 kept, exceeds, bound, short exceeds 2 bound⟩

end StateFlow.OutputTail
