import Mathlib.Data.List.Basic
import StateFlow.Task.Reading
import StateFlow.Text.Lines

/-!
Reading by lines. Whatever pieces an output is read in, the reader does the same as one that takes
whole lines: `readOutput_eq` and `readErrors_eq_foldl`. The message is then the first line that is
one, and every other line leaves its beginning in the tail of the output.
-/
namespace StateFlow

namespace Piece

/-- The pieces of one line: only the last is complete. -/
inductive IsLine : List Piece → Prop where
  | last {piece : Piece} (complete : piece.isComplete = true) : IsLine [piece]
  | more {piece : Piece} {pieces : List Piece} (incomplete : piece.isComplete = false)
      (rest : IsLine pieces) : IsLine (piece :: pieces)

theorem isComplete_concat (cs : List Char) (c : Char) :
    isComplete (cs ++ [c]) = (c == '\n') := by
  simp [isComplete, Bool.beq_eq_decide_eq]

theorem cut_done (limit : Nat) (done : List Piece) (begun : List Char) (room : Nat)
    (text : List Char) :
    cut limit done begun room text = done.reverse ++ cut limit [] begun room text := by
  induction text generalizing done begun room with
  | nil => by_cases none : begun = [] <;> simp [cut, none]
  | cons c rest ih =>
    rw [cut, cut]
    split
    · rw [ih, ih [_]]
      simp
    · exact ih done _ _

theorem isLine_cut (limit : Nat) {body : List Char} (single : '\n' ∉ body) (begun : List Char)
    (room : Nat) : IsLine (cut limit [] begun room (body ++ ['\n'])) := by
  induction body generalizing begun room with
  | nil =>
    have complete : isComplete (begun.reverse ++ ['\n']) = true := by simp [isComplete_concat]
    rw [List.nil_append, cut, if_pos (.inl rfl), List.reverse_cons]
    exact .last complete
  | cons c body ih =>
    simp only [List.mem_cons, not_or] at single
    have incomplete : isComplete (c :: begun).reverse = false := by
      simpa [isComplete_concat] using Ne.symm single.1
    rw [List.cons_append, cut]
    split
    · rw [cut_done]
      exact .more incomplete (ih single.2 [] limit)
    · exact ih single.2 (c :: begun) (room - 1)

theorem isLine_ofText (limit : Nat) {body : List Char} (single : '\n' ∉ body) :
    IsLine (ofText limit (body ++ ['\n'])) :=
  isLine_cut limit single [] limit

theorem ofText_line {body : List Char} (single : '\n' ∉ body) (limit : Nat) (rest : List Char) :
    ofText limit (body ++ '\n' :: rest) = ofText limit (body ++ ['\n']) ++ ofText limit rest := by
  suffices whole : ∀ begun room, cut limit [] begun room (body ++ '\n' :: rest) =
      cut limit [] begun room (body ++ ['\n']) ++ ofText limit rest from whole [] limit
  induction body with
  | nil =>
    intro begun room
    simp only [List.nil_append, cut, true_or, if_true]
    rw [cut_done]
    simp [ofText]
  | cons c body ih =>
    intro begun room
    simp only [List.mem_cons, not_or] at single
    simp only [List.cons_append, cut]
    split
    · rw [cut_done, ih single.2, cut_done limit [(c :: begun).reverse], List.append_assoc]
    · exact ih single.2 _ _

theorem ofText_eq_cons {limit : Nat} (positive : 0 < limit) {line : List Char} (full : line ≠ [])
    (single : '\n' ∉ line.dropLast) :
    ofText limit line = line.take limit :: ofText limit (line.drop limit) := by
  suffices whole : ∀ begun room, 0 < room → cut limit [] begun room line =
      (begun.reverse ++ line.take room) :: ofText limit (line.drop room) from
    whole [] limit positive
  induction line with
  | nil => exact absurd rfl full
  | cons c rest ih =>
    intro begun room roomy
    obtain ⟨room, rfl⟩ : ∃ m, room = m + 1 := ⟨room - 1, by omega⟩
    rw [cut, List.take_succ_cons, List.drop_succ_cons]
    by_cases last : rest = []
    · subst last
      split <;> simp [cut, ofText]
    · rw [List.dropLast_cons_of_ne_nil last, List.mem_cons, not_or] at single
      split
      · next ends =>
        have none : room = 0 := by
          rcases ends with feed | small
          · exact absurd feed.symm single.1
          · omega
        rw [cut_done, none]
        simp [ofText]
      · next goesOn =>
        have roomy : 0 < room := by omega
        rw [Nat.add_sub_cancel, ih last single.2 (c :: begun) room roomy]
        simp

theorem isComplete_of_not_mem {piece : Piece} (single : '\n' ∉ piece) :
    piece.isComplete = false := by
  rw [isComplete, beq_eq_false_iff_ne]
  exact fun last => single (List.mem_of_getLast? last)

theorem incomplete_of_mem_ofText {limit : Nat} {text : List Char} (single : '\n' ∉ text)
    {piece : Piece} (mem : piece ∈ ofText limit text) : piece.isComplete = false := by
  refine isComplete_of_not_mem fun feed => single ?_
  rw [← flatten_ofText limit text]
  exact List.mem_flatten.2 ⟨piece, mem, feed⟩

theorem isLine_tail {first : Piece} {others : List Piece} (line : IsLine (first :: others)) :
    others = [] ∧ first.isComplete = true ∨ IsLine others ∧ first.isComplete = false := by
  cases line with
  | last complete => exact .inl ⟨rfl, complete⟩
  | more incomplete rest => exact .inr ⟨rest, incomplete⟩

end Piece

namespace Invocation

open Piece (IsLine)

/-- A whole line, read at once: its beginning decides whether it may be the message, and is kept if
it is not. -/
def takeLine (invocation : Invocation) (line : List Char) : Invocation :=
  let first := line.take pieceLimit
  if invocation.message.isNone && Text.occursIn invocation.tag.toList first then
    (invocation.receive line).getD (invocation.keep .stdout first)
  else invocation.keep .stdout first

theorem settle_eq (invocation : Invocation) (first : Piece) (others : List Piece) :
    invocation.settle first others = (invocation.receive (first :: others.reverse).flatten).getD
      (invocation.keep .stdout first) := by
  rw [settle]
  cases invocation.receive (first :: others.reverse).flatten <;> rfl

theorem foldl_take_held (invocation : Invocation) (first : Piece) (others : List Piece)
    {pieces : List Piece} (line : IsLine pieces) :
    pieces.foldl Reader.take ⟨invocation, .held first others⟩ =
      ⟨invocation.settle first (pieces.reverse ++ others), .lineStart⟩ := by
  -- the pieces held are kept backwards, so the last one comes first
  induction line generalizing others with
  | last complete => simp [Reader.take, complete]
  | more incomplete rest ih => simp [Reader.take, incomplete, ih]

section skipping

variable {step : Reader → Piece → Reader}

theorem foldl_kept (skips : ∀ invocation piece, step ⟨invocation, .kept⟩ piece =
      ⟨invocation, if piece.isComplete then .lineStart else .kept⟩)
    (invocation : Invocation) {pieces : List Piece} (line : IsLine pieces) :
    pieces.foldl step ⟨invocation, .kept⟩ = ⟨invocation, .lineStart⟩ := by
  induction line with
  | last complete => simp [skips, complete]
  | more incomplete rest ih => simp [skips, incomplete, ih]

theorem foldl_kept_last (skips : ∀ invocation piece, step ⟨invocation, .kept⟩ piece =
      ⟨invocation, if piece.isComplete then .lineStart else .kept⟩)
    (invocation : Invocation) {pieces : List Piece}
    (incomplete : ∀ piece ∈ pieces, piece.isComplete = false) :
    pieces.foldl step ⟨invocation, .kept⟩ = ⟨invocation, .kept⟩ := by
  induction pieces with
  | nil => rfl
  | cons piece pieces ih =>
    rw [List.foldl_cons, skips, incomplete piece List.mem_cons_self]
    exact ih fun other mem => incomplete other (.tail piece mem)

end skipping

theorem take_kept (invocation : Invocation) (piece : Piece) :
    Reader.take ⟨invocation, .kept⟩ piece =
      ⟨invocation, if piece.isComplete then .lineStart else .kept⟩ := rfl

theorem takeError_kept (invocation : Invocation) (piece : Piece) :
    Reader.takeError ⟨invocation, .kept⟩ piece =
      ⟨invocation, if piece.isComplete then .lineStart else .kept⟩ := rfl

theorem foldl_take_held_last (invocation : Invocation) (first : Piece) (others : List Piece)
    {pieces : List Piece} (incomplete : ∀ piece ∈ pieces, piece.isComplete = false) :
    pieces.foldl Reader.take ⟨invocation, .held first others⟩ =
      ⟨invocation, .held first (pieces.reverse ++ others)⟩ := by
  induction pieces generalizing others with
  | nil => rfl
  | cons piece pieces ih =>
    rw [List.foldl_cons, Reader.take, incomplete piece List.mem_cons_self]
    have rest := ih (piece :: others) fun other mem => incomplete other (.tail piece mem)
    simpa using rest

theorem foldl_take_ofText {body : List Char} (single : '\n' ∉ body) (invocation : Invocation) :
    (Piece.ofText pieceLimit (body ++ ['\n'])).foldl Reader.take ⟨invocation, .lineStart⟩ =
      ⟨invocation.takeLine (body ++ ['\n']), .lineStart⟩ := by
  have isLine := Piece.isLine_ofText pieceLimit single
  have whole := Piece.flatten_ofText pieceLimit (body ++ ['\n'])
  have full : body ++ ['\n'] ≠ [] := by simp
  rw [Piece.ofText_eq_cons (by decide) full (by simpa using single)] at isLine whole ⊢
  rw [takeLine, List.foldl_cons, Reader.take]
  rcases Piece.isLine_tail isLine with ⟨none, complete⟩ | ⟨rest, incomplete⟩
  · rw [none] at whole ⊢
    simp only [complete, if_true, settle_eq, List.reverse_nil, List.foldl_nil, whole]
    split <;> rfl
  · simp only [incomplete, Bool.false_eq_true, if_false]
    split
    · rw [foldl_take_held _ _ _ rest, settle_eq]
      simp only [List.append_nil, List.reverse_reverse, whole]
    · exact foldl_kept take_kept _ rest

theorem finish_foldl_take_ofText {text : List Char} (full : text ≠ []) (single : '\n' ∉ text)
    (invocation : Invocation) :
    ((Piece.ofText pieceLimit text).foldl Reader.take ⟨invocation, .lineStart⟩).finish =
      invocation.takeLine text := by
  have incomplete := fun (piece : Piece) (mem : piece ∈ Piece.ofText pieceLimit text) =>
    Piece.incomplete_of_mem_ofText single mem
  have whole := Piece.flatten_ofText pieceLimit text
  have single' : '\n' ∉ text.dropLast := fun mem => single ((List.dropLast_sublist text).mem mem)
  rw [Piece.ofText_eq_cons (by decide) full single'] at incomplete whole ⊢
  have others := fun piece mem => incomplete piece (.tail _ mem)
  rw [takeLine, List.foldl_cons, Reader.take]
  simp only [incomplete _ List.mem_cons_self, Bool.false_eq_true, if_false]
  split
  · rw [foldl_take_held_last _ _ _ others]
    simp only [Reader.finish, settle_eq, List.append_nil, List.reverse_reverse, whole]
  · rw [foldl_kept_last take_kept _ others]
    rfl

theorem readOutput_eq (invocation : Invocation) (text : List Char) :
    invocation.readOutput text = (Text.lines text).foldl takeLine invocation := by
  induction text using Text.line_induction generalizing invocation with
  | nil => rfl
  | last text full single =>
    rw [readOutput, finish_foldl_take_ofText full single, Text.lines_of_not_mem full single]
    rfl
  | line body rest single ih =>
    rw [readOutput, Piece.ofText_line single, List.foldl_append, foldl_take_ofText single,
      Text.lines_line single, List.foldl_cons]
    exact ih _

def takeErrorLine (invocation : Invocation) (line : List Char) : Invocation :=
  invocation.keep .stderr (line.take pieceLimit)

theorem foldl_takeError_ofText {body : List Char} (single : '\n' ∉ body)
    (invocation : Invocation) :
    (Piece.ofText pieceLimit (body ++ ['\n'])).foldl Reader.takeError ⟨invocation, .lineStart⟩ =
      ⟨invocation.takeErrorLine (body ++ ['\n']), .lineStart⟩ := by
  have isLine := Piece.isLine_ofText pieceLimit single
  have full : body ++ ['\n'] ≠ [] := by simp
  rw [Piece.ofText_eq_cons (by decide) full (by simpa using single)] at isLine ⊢
  rw [takeErrorLine, List.foldl_cons, Reader.takeError]
  rcases Piece.isLine_tail isLine with ⟨none, complete⟩ | ⟨rest, incomplete⟩
  · rw [none, complete]
    rfl
  · rw [incomplete]
    exact foldl_kept takeError_kept _ rest

theorem finish_foldl_takeError_ofText {text : List Char} (full : text ≠ [])
    (single : '\n' ∉ text) (invocation : Invocation) :
    ((Piece.ofText pieceLimit text).foldl Reader.takeError ⟨invocation, .lineStart⟩).finish =
      invocation.takeErrorLine text := by
  have incomplete := fun (piece : Piece) (mem : piece ∈ Piece.ofText pieceLimit text) =>
    Piece.incomplete_of_mem_ofText single mem
  have single' : '\n' ∉ text.dropLast := fun mem => single ((List.dropLast_sublist text).mem mem)
  rw [Piece.ofText_eq_cons (by decide) full single'] at incomplete ⊢
  have others := fun piece mem => incomplete piece (.tail _ mem)
  rw [takeErrorLine, List.foldl_cons, Reader.takeError, incomplete _ List.mem_cons_self]
  exact congrArg Reader.finish (foldl_kept_last takeError_kept _ others)

theorem readErrors_eq_foldl (invocation : Invocation) (text : List Char) :
    invocation.readErrors text = (Text.lines text).foldl takeErrorLine invocation := by
  induction text using Text.line_induction generalizing invocation with
  | nil => rfl
  | last text full single =>
    rw [readErrors, finish_foldl_takeError_ofText full single, Text.lines_of_not_mem full single]
    rfl
  | line body rest single ih =>
    rw [readErrors, Piece.ofText_line single, List.foldl_append, foldl_takeError_ofText single,
      Text.lines_line single, List.foldl_cons]
    exact ih _

section keep

variable (invocation : Invocation) (channel : Channel) (piece : Piece)

@[simp] theorem message_keep : (invocation.keep channel piece).message = invocation.message := by
  cases channel <;> simp only [keep] <;> split <;> rfl

@[simp] theorem tag_keep : (invocation.keep channel piece).tag = invocation.tag := by
  cases channel <;> simp only [keep] <;> split <;> rfl

@[simp] theorem stdout_keep : (invocation.keep .stdout piece).stdout =
    invocation.stdout.push (String.ofList (piece.line ++ ['\n'])) := by
  simp only [keep]
  split <;> rfl

theorem keep_stdout : ∃ stdout newestFirst,
    invocation.keep .stdout piece = { invocation with stdout, newestFirst } := by
  simp only [keep]
  split <;> exact ⟨_, _, rfl⟩

theorem keep_stderr : ∃ newestFirst,
    invocation.keep .stderr piece =
      { invocation with
        stderr := invocation.stderr.push (String.ofList (piece.line ++ ['\n']))
        newestFirst } := by
  simp only [keep]
  split <;> exact ⟨_, rfl⟩

end keep

/-- The members of a line that is the message for a tag: the tag stands in the beginning of the
line, and the line as a whole is an object with the tag. -/
def messageIn? (tag : String) (line : List Char) : Option (List (String × Json)) :=
  if Text.occursIn tag.toList (line.take pieceLimit) then
    match Json.decode (String.ofList line) with
    | .ok (.obj fields) => if Json.lookup "tag" fields = some (.str tag) then some fields else none
    | _ => none
  else none

theorem messageIn?_eq_some {tag : String} {line : List Char} {fields : List (String × Json)} :
    messageIn? tag line = some fields ↔ tag.toList <:+: line.take pieceLimit ∧
      Json.decode (String.ofList line) = .ok (.obj fields) ∧
      Json.lookup "tag" fields = some (.str tag) := by
  unfold messageIn?
  rw [← Text.occursIn_iff]
  grind

def shortened (line : List Char) : String :=
  String.ofList (Piece.line (line.take pieceLimit) ++ ['\n'])

theorem tagged?_of_occursIn {tag : String} {line : List Char}
    (occurs : Text.occursIn tag.toList (line.take pieceLimit) = true) :
    tagged? tag line = messageIn? tag line := by
  have inLine : Text.occursIn tag.toList line = true := by
    rw [Text.occursIn_iff] at occurs ⊢
    exact occurs.trans (List.take_prefix _ _).isInfix
  rw [tagged?, messageIn?, if_pos inLine]
  exact (if_pos occurs).symm

theorem takeLine_of_message {invocation : Invocation} {fields : List (String × Json)}
    (message : invocation.message = some fields) (line : List Char) :
    invocation.takeLine line = invocation.keep .stdout (line.take pieceLimit) := by
  simp [takeLine, message]

theorem takeLine_of_waiting {invocation : Invocation} (waiting : invocation.message = none)
    (line : List Char) : invocation.takeLine line =
      match messageIn? invocation.tag line with
      | some fields => { invocation with message := some fields }
      | none => invocation.keep .stdout (line.take pieceLimit) := by
  rw [takeLine]
  simp only [waiting, Option.isNone_none, Bool.true_and]
  split
  · next occurs =>
    rw [receive, waiting, tagged?_of_occursIn occurs]
    cases messageIn? invocation.tag line <;> rfl
  · next noTag => rw [messageIn?, if_neg noTag]

theorem foldl_takeLine_of_message {invocation : Invocation} {fields : List (String × Json)}
    (message : invocation.message = some fields) (lines : List (List Char)) :
    (lines.foldl takeLine invocation).message = some fields ∧
    (lines.foldl takeLine invocation).stdout =
      (lines.map shortened).foldl OutputTail.push invocation.stdout := by
  induction lines generalizing invocation with
  | nil => exact ⟨message, rfl⟩
  | cons line lines ih =>
    have kept : (invocation.keep .stdout (line.take pieceLimit)).message = some fields := by
      rw [message_keep, message]
    simpa [takeLine_of_message message, shortened] using ih kept

theorem foldl_takeLine_of_waiting {invocation : Invocation} (waiting : invocation.message = none)
    (lines : List (List Char)) :
    (lines.foldl takeLine invocation).message = lines.findSome? (messageIn? invocation.tag) ∧
    (lines.foldl takeLine invocation).stdout =
      ((lines.eraseP fun line => (messageIn? invocation.tag line).isSome).map shortened).foldl
        OutputTail.push invocation.stdout := by
  induction lines generalizing invocation with
  | nil => exact ⟨waiting, rfl⟩
  | cons line lines ih =>
    rw [List.foldl_cons, takeLine_of_waiting waiting, List.findSome?_cons, List.eraseP_cons]
    cases found : messageIn? invocation.tag line with
    | some fields =>
      have message : { invocation with message := some fields }.message = some fields := rfl
      exact foldl_takeLine_of_message message lines
    | none =>
      have kept : (invocation.keep .stdout (line.take pieceLimit)).message = none := by
        rw [message_keep, waiting]
      simpa [shortened] using ih kept

theorem readOutput_frame (invocation : Invocation) (text : List Char) :
    ∃ message stdout newestFirst,
      invocation.readOutput text = { invocation with message, stdout, newestFirst } := by
  rw [readOutput_eq]
  generalize Text.lines text = lines
  induction lines generalizing invocation with
  | nil => exact ⟨_, _, _, rfl⟩
  | cons line lines ih =>
    obtain ⟨message, stdout, newestFirst, same⟩ := ih (invocation.takeLine line)
    refine ⟨message, stdout, newestFirst, ?_⟩
    rw [List.foldl_cons, same]
    cases waiting : invocation.message with
    | some fields =>
      obtain ⟨stdout, newestFirst, kept⟩ := invocation.keep_stdout (line.take pieceLimit)
      rw [takeLine_of_message waiting, kept]
    | none =>
      rw [takeLine_of_waiting waiting]
      split
      · rfl
      · obtain ⟨stdout, newestFirst, kept⟩ := invocation.keep_stdout (line.take pieceLimit)
        rw [kept]

theorem readErrors_eq (invocation : Invocation) (text : List Char) :
    ∃ newestFirst, invocation.readErrors text =
      { invocation with
        stderr := ((Text.lines text).map shortened).foldl OutputTail.push invocation.stderr
        newestFirst } := by
  rw [readErrors_eq_foldl]
  generalize Text.lines text = lines
  induction lines generalizing invocation with
  | nil => exact ⟨_, rfl⟩
  | cons line lines ih =>
    obtain ⟨newestFirst, same⟩ := ih (invocation.takeErrorLine line)
    obtain ⟨_, kept⟩ := invocation.keep_stderr (line.take pieceLimit)
    refine ⟨newestFirst, ?_⟩
    rw [List.foldl_cons, same, takeErrorLine, kept]
    rfl

end Invocation

end StateFlow
