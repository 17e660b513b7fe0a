import Mathlib.Data.List.Infix
import StateFlow.Path.Result
import StateFlow.Proofs.Except

/-!
What putting a result under keys leaves alone. The keys lead to one position, along members and items
and through fresh objects, unless a value on the way refuses a key (`ResultPath.Leads`,
`ResultPath.Refuses`). A result that is put there changes nothing apart from that position, and the
values above it keep their shape (`Json.Placed`): `placed_of_update`.
-/
namespace StateFlow

namespace Json

theorem at?_fresh {position : Position} (below : position ≠ []) :
    at? position (.obj []) = none := by
  obtain ⟨step, rest, rfl⟩ := List.exists_cons_of_ne_nil below
  cases step <;> rfl

theorem at?_getD_fresh {position : Position} (below : position ≠ []) (member : Option Json) :
    at? position (member.getD (.obj [])) = member.bind (at? position) := by
  cases member with
  | none => exact at?_fresh below
  | some value => rfl

theorem keys_insert (key : String) (value : Json) (fields : List (String × Json)) :
    (insert key value fields).map Prod.fst = fields.map Prod.fst ∨
      key ∉ fields.map Prod.fst ∧
        (insert key value fields).map Prod.fst = fields.map Prod.fst ++ [key] := by
  induction fields with
  | nil => exact .inr ⟨nofun, rfl⟩
  | cons field rest ih =>
    obtain ⟨k, v⟩ := field
    by_cases same : k = key
    · exact .inl (by simp [insert, same])
    · simpa [insert, same, Ne.symm same] using ih

/-- A list that keeps its length, or an object that keeps its keys in order, with one new key
behind them at most. -/
inductive KeepsShape : Json → Json → Prop
  | list {items changed : List Json} (length : changed.length = items.length) :
    KeepsShape (.arr items) (.arr changed)
  | object {fields changed : List (String × Json)}
    (keys : changed.map Prod.fst = fields.map Prod.fst ∨ ∃ key, key ∉ fields.map Prod.fst ∧
      changed.map Prod.fst = fields.map Prod.fst ++ [key]) :
    KeepsShape (.obj fields) (.obj changed)

/-- A value placed at a position: it is there, what is neither below that position nor above it is
as before, and what is above it keeps its shape. -/
structure Placed (position : Position) (value before after : Json) : Prop where
  there : after.at? position = some value
  apart : ∀ other, ¬ position <+: other → ¬ other <+: position → after.at? other = before.at? other
  above : ∀ other, other <+: position → other ≠ position → ∀ old, before.at? other = some old →
    ∃ new, after.at? other = some new ∧ old.KeepsShape new

theorem Placed.root (value before : Json) : Placed [] value before value where
  there := rfl
  apart _ notBelow _ := absurd List.nil_prefix notBelow
  above _ isAbove strict := absurd (List.prefix_nil.1 isAbove) strict

theorem Placed.member {key : String} {position : Position} {value member : Json}
    {fields : List (String × Json)}
    (placed : Placed position value ((lookup key fields).getD (.obj [])) member) :
    Placed (.member key :: position) value (.obj fields) (.obj (insert key member fields)) where
  there := by simp [lookup_insert, placed.there]
  apart other notBelow notAbove := by
    cases other with
    | nil => exact absurd List.nil_prefix notAbove
    | cons step rest =>
      cases step with
      | item place => rfl
      | member name =>
        rw [at?_member, at?_member, lookup_insert]
        split
        · next same =>
          subst same
          rw [List.prefix_cons_inj] at notBelow notAbove
          have below : rest ≠ [] := fun root => notAbove (root ▸ List.nil_prefix)
          rw [Option.bind_some, placed.apart rest notBelow notAbove, at?_getD_fresh below]
        · rfl
  above other isAbove strict old found := by
    cases other with
    | nil =>
      cases found
      exact ⟨_, rfl, .object ((keys_insert key member fields).imp_right fun new => ⟨key, new⟩)⟩
    | cons step rest =>
      obtain ⟨rfl, within⟩ := List.cons_prefix_cons.1 isAbove
      obtain ⟨inner, there, found⟩ := Option.bind_eq_some_iff.1 found
      rw [there] at placed
      have strict : rest ≠ position := fun same => strict (by rw [same])
      simpa [lookup_insert] using placed.above rest within strict old found

theorem Placed.item {place : Nat} {position : Position} {value inner item : Json}
    {items : List Json} (there : items[place]? = some inner)
    (placed : Placed position value inner item) :
    Placed (.item place :: position) value (.arr items) (.arr (items.set place item)) where
  there := by
    have inside : place < items.length := (List.getElem?_eq_some_iff.1 there).1
    simp [inside, placed.there]
  apart other notBelow notAbove := by
    cases other with
    | nil => exact absurd List.nil_prefix notAbove
    | cons step rest =>
      cases step with
      | member key => rfl
      | item at_ =>
        rw [at?_item, at?_item, List.getElem?_set]
        split
        · next same =>
          subst same
          rw [List.prefix_cons_inj] at notBelow notAbove
          have inside : place < items.length := (List.getElem?_eq_some_iff.1 there).1
          rw [if_pos inside, there]
          exact placed.apart rest notBelow notAbove
        · rfl
  above other isAbove strict old found := by
    cases other with
    | nil =>
      cases found
      exact ⟨_, rfl, .list List.length_set⟩
    | cons step rest =>
      obtain ⟨rfl, within⟩ := List.cons_prefix_cons.1 isAbove
      have inside : place < items.length := (List.getElem?_eq_some_iff.1 there).1
      have strict : rest ≠ position := fun same => strict (by rw [same])
      rw [at?_item, there] at found
      simpa [inside] using placed.above rest within strict old found

end Json

namespace ResultPath

/-- Keys that lead from a value to what stands at a position, which counts negative indices from the
end and takes members that are missing for fresh objects. -/
inductive Leads : List String → Json → Json.Position → Json → Prop
  | here (value : Json) : Leads [] value [] value
  | member {key : String} {rest : List String} {fields : List (String × Json)}
    {position : Json.Position} {met : Json}
    (below : Leads rest ((Json.lookup key fields).getD (.obj [])) position met) :
    Leads (key :: rest) (.obj fields) (.member key :: position) met
  | item {key : String} {rest : List String} {items : List Json} {index : Int} {place : Nat}
    {inner : Json} {position : Json.Position} {met : Json}
    (read : Text.readInteger key = .ok index)
    (counted : (place : Int) = index ∨ (place : Int) = index + items.length)
    (there : items[place]? = some inner) (below : Leads rest inner position met) :
    Leads (key :: rest) (.arr items) (.item place :: position) met

/-- A value that has no place for a key: a scalar, or a list without an item of that index. -/
def Refuses (value : Json) (key : String) : Prop :=
  match value with
  | .obj _ => False
  | .arr items => ∀ index, Text.readInteger key = .ok index →
    index < -items.length ∨ items.length ≤ index
  | _ => True

def Blocked (keys : List String) (root : Json) : Prop :=
  ∃ before key rest position met, keys = before ++ key :: rest ∧
    Leads before root position met ∧ Refuses met key

variable {path : String} {keys : List String} {value root met : Json}
  {position : Json.Position}

theorem Leads.length_position (leads : Leads keys root position met) :
    position.length = keys.length := by
  induction leads with
  | here value => rfl
  | member below ih => simp [ih]
  | item read counted there below ih => simp [ih]

section item

variable {key : String} {rest : List String} {items : List Json} {index : Int} {place : Nat}
  {inner : Json}

theorem update_item (read : Text.readInteger key = .ok index)
    (counted : (place : Int) = index ∨ (place : Int) = index + items.length)
    (there : items[place]? = some inner) :
    update path value (key :: rest) (.arr items) =
      (update path value rest inner).map fun item => .arr (items.set place item) := by
  obtain ⟨inside, rfl⟩ := List.getElem?_eq_some_iff.1 there
  have found : Path.place? items.length index = some place :=
    Path.place?_eq_some.2 ⟨inside, counted⟩
  simp [update, read, found, List.getD, inside]

theorem exists_item (allows : ¬ Refuses (.arr items) key) :
    ∃ (index : Int) (place : Nat) (inner : Json), Text.readInteger key = .ok index ∧
      ((place : Int) = index ∨ (place : Int) = index + items.length) ∧
      items[place]? = some inner := by
  simp only [Refuses, ← Path.place?_eq_none, not_forall] at allows
  obtain ⟨index, read, somewhere⟩ := allows
  obtain ⟨place, found⟩ := Option.ne_none_iff_exists'.1 somewhere
  obtain ⟨inside, counted⟩ := Path.place?_eq_some.1 found
  exact ⟨index, place, _, read, counted, List.getElem?_eq_getElem inside⟩

end item

theorem Leads.exists_update (leads : Leads keys root position met) (path : String) (value : Json) :
    ∃ changed, update path value keys root = .ok changed ∧
      Json.Placed position value root changed := by
  induction leads with
  | here root => exact ⟨value, rfl, .root value root⟩
  | member below ih =>
    obtain ⟨member, updated, placed⟩ := ih
    refine ⟨_, ?_, placed.member⟩
    rw [update, updated]
    rfl
  | item read counted there below ih =>
    obtain ⟨item, updated, placed⟩ := ih
    refine ⟨_, ?_, placed.item there⟩
    rw [update_item read counted there, updated]
    rfl

theorem Leads.update_append {before rest : List String} (leads : Leads before root position met)
    {error : ResultPathError} (fails : update path value rest met = .error error) :
    update path value (before ++ rest) root = .error error := by
  induction leads with
  | here root => exact fails
  | member below ih =>
    rw [List.cons_append, update, ih fails]
    rfl
  | item read counted there below ih =>
    rw [List.cons_append, update_item read counted there, ih fails]
    rfl

theorem update_of_refuses {key : String} (refuses : Refuses root key) (rest : List String)
    (path : String) (value : Json) :
    ∃ error, update path value (key :: rest) root = .error error := by
  cases root with
  | obj fields => exact refuses.elim
  | arr items =>
    rw [update]
    cases read : Text.readInteger key with
    | error cause => exact ⟨_, rfl⟩
    | ok index =>
      have nowhere := Path.place?_eq_none.2 (refuses index read)
      simp only [nowhere]
      exact ⟨_, rfl⟩
  | _ => exact ⟨_, rfl⟩

theorem Blocked.update_fails (blocked : Blocked keys root) :
    ∃ error, update path value keys root = .error error := by
  obtain ⟨before, key, rest, position, met, rfl, leads, refuses⟩ := blocked
  obtain ⟨error, fails⟩ := update_of_refuses refuses rest path value
  exact ⟨error, leads.update_append fails⟩

theorem leads_or_blocked (keys : List String) (root : Json) :
    (∃ position met, Leads keys root position met) ∨ Blocked keys root := by
  have here (key : String) (rest : List String) {root : Json} (refuses : Refuses root key) :
      Blocked (key :: rest) root := ⟨[], key, rest, [], root, rfl, .here root, refuses⟩
  induction keys generalizing root with
  | nil => exact .inl ⟨[], root, .here root⟩
  | cons key rest ih =>
    cases root with
    | obj fields =>
      rcases ih ((Json.lookup key fields).getD (.obj [])) with ⟨position, met, below⟩ | blocked
      · exact .inl ⟨_, met, .member below⟩
      · obtain ⟨before, last, after, position, met, rfl, below, refuses⟩ := blocked
        exact .inr ⟨key :: before, last, after, _, met, rfl, .member below, refuses⟩
    | arr items =>
      by_cases refuses : Refuses (.arr items) key
      · exact .inr (here key rest refuses)
      · obtain ⟨index, place, inner, read, counted, there⟩ := exists_item refuses
        rcases ih inner with ⟨position, met, below⟩ | blocked
        · exact .inl ⟨_, met, .item read counted there below⟩
        · obtain ⟨before, last, after, position, met, rfl, below, refuses⟩ := blocked
          exact .inr ⟨key :: before, last, after, _, met, rfl, .item read counted there below,
            refuses⟩
    | _ => exact .inr (here key rest trivial)

theorem update_fails_iff :
    (∃ error, update path value keys root = .error error) ↔ Blocked keys root := by
  refine ⟨fun ⟨error, fails⟩ => ?_, Blocked.update_fails⟩
  rcases leads_or_blocked keys root with ⟨position, met, leads⟩ | blocked
  · obtain ⟨changed, updated, -⟩ := leads.exists_update path value
    cases fails.symm.trans updated
  · exact blocked

theorem placed_of_update {changed : Json} (updated : update path value keys root = .ok changed) :
    ∃ position met, Leads keys root position met ∧ Json.Placed position value root changed := by
  rcases leads_or_blocked keys root with ⟨position, met, leads⟩ | blocked
  · obtain ⟨_, again, placed⟩ := leads.exists_update path value
    cases updated.symm.trans again
    exact ⟨position, met, leads, placed⟩
  · obtain ⟨error, fails⟩ := update_fails_iff.2 blocked
    cases fails.symm.trans updated

end ResultPath

end StateFlow
