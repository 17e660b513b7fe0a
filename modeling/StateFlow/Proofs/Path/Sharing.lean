import StateFlow.Proofs.Path.Frame
import StateFlow.Proofs.Path.Unshared

/-!
What placing a result in data leaves alone. The result is placed at one position if the object that
it is placed in stands there only, and else at the same position below each of those where the object
stands; nothing else changes (`result_path_frame`).
-/
namespace StateFlow

namespace Json

variable {value new old host content : Json} {position other p q r : Position}

theorem at?_append (p r : Position) (value : Json) :
    at? (p ++ r) value = (at? p value).bind (at? r) := by
  induction p generalizing value with
  | nil => rfl
  | cons step rest ih =>
    have inner : at? (rest ++ r) = fun value => (at? rest value).bind (at? r) := funext ih
    cases step <;> cases value <;> simp [at?, Option.bind_assoc, inner]

theorem sizeOf_lookup_lt {key : String} {member : Json} {fields : List (String × Json)}
    (found : lookup key fields = some member) : sizeOf member < sizeOf (Json.obj fields) := by
  induction fields with
  | nil => cases found
  | cons field rest ih =>
    obtain ⟨k, v⟩ := field
    rw [lookup] at found
    split at found
    · cases found
      simp
      omega
    · have := ih found
      simp at this ⊢
      omega

theorem sizeOf_at?_le (found : at? position value = some old) : sizeOf old ≤ sizeOf value := by
  induction position generalizing value with
  | nil =>
    cases found
    exact le_rfl
  | cons step rest ih =>
    cases step <;> cases value <;> try cases found
    · obtain ⟨member, inside, found⟩ := Option.bind_eq_some_iff.1 found
      exact (ih found).trans (sizeOf_lookup_lt inside).le
    · obtain ⟨item, inside, found⟩ := Option.bind_eq_some_iff.1 found
      have := List.sizeOf_lt_of_mem (List.mem_of_getElem? inside)
      have := ih found
      simp
      omega

theorem eq_nil_of_at?_self (same : at? position value = some value) : position = [] := by
  cases position with
  | nil => rfl
  | cons step rest =>
    cases step <;> cases value <;> try cases same
    · obtain ⟨member, inside, found⟩ := Option.bind_eq_some_iff.1 same
      exact absurd (sizeOf_at?_le found) (not_le_of_gt (sizeOf_lookup_lt inside))
    · obtain ⟨item, inside, found⟩ := Option.bind_eq_some_iff.1 same
      have := List.sizeOf_lt_of_mem (List.mem_of_getElem? inside)
      have := sizeOf_at?_le found
      simp at this
      omega

/-- Positions of which neither is below the other one. -/
def Apart (p q : Position) : Prop := ¬ p <+: q ∧ ¬ q <+: p

theorem Apart.append (apart : Apart p q) (r : Position) : Apart p (q ++ r) :=
  ⟨fun below => (List.prefix_or_prefix_of_prefix below (List.prefix_append q r)).elim apart.1 apart.2,
    fun below => apart.2 ((List.prefix_append q r).trans below)⟩

theorem Apart.of_append {below r : Position} (apart : Apart (p ++ below) (p ++ r)) :
    Apart below r := by
  simpa only [Apart, List.prefix_append_right_inj] using apart

/-- A value of the same kind, a list of the same length or an object with the same keys. -/
inductive SameShape : Json → Json → Prop
  | refl (value : Json) : SameShape value value
  | list {items changed : List Json} (length : changed.length = items.length) :
    SameShape (.arr items) (.arr changed)
  | object {fields changed : List (String × Json)}
    (keys : changed.map Prod.fst = fields.map Prod.fst) : SameShape (.obj fields) (.obj changed)

theorem SameShape.trans {third : Json} (first : SameShape value old) (second : SameShape old third) :
    SameShape value third := by
  cases first with
  | refl value => exact second
  | list length =>
    cases second with
    | refl value => exact .list length
    | list again => exact .list (again.trans length)
  | object keys =>
    cases second with
    | refl value => exact .object keys
    | object again => exact .object (again.trans keys)

theorem KeepsShape.trans_sameShape {third : Json} (first : KeepsShape value old)
    (second : SameShape old third) : KeepsShape value third := by
  cases first with
  | list length =>
    cases second with
    | refl value => exact .list length
    | list again => exact .list (again.trans length)
  | object keys =>
    cases second with
    | refl value => exact .object keys
    | object again => exact .object (again ▸ keys)

theorem KeepsShape.of_at? (strict : position ≠ []) (found : at? position value = some old) :
    KeepsShape value value := by
  obtain ⟨step, rest, rfl⟩ := List.exists_cons_of_ne_nil strict
  cases step <;> cases value <;> try cases found
  · exact .object (.inl rfl)
  · exact .list rfl

section put

theorem placed_put (new : Json) (there : at? position value = some old) :
    Placed position new value (put new position value) := by
  induction position generalizing value with
  | nil => exact .root new value
  | cons step rest ih =>
    cases step <;> cases value <;> try cases there
    · obtain ⟨member, inside, there⟩ := Option.bind_eq_some_iff.1 there
      rw [put, inside]
      exact .member (by rw [inside]; exact ih there)
    · obtain ⟨item, inside, there⟩ := Option.bind_eq_some_iff.1 there
      rw [put, inside]
      exact .item inside (ih there)

theorem mem_keys_of_lookup {key : String} {member : Json} {fields : List (String × Json)}
    (inside : lookup key fields = some member) : key ∈ fields.map Prod.fst := by
  induction fields with
  | nil => cases inside
  | cons field rest ih =>
    obtain ⟨k, v⟩ := field
    rw [lookup] at inside
    split at inside
    · next same => simp [same]
    · exact List.mem_cons_of_mem _ (ih inside)

theorem keys_insert_of_lookup {key : String} {member : Json} {fields : List (String × Json)}
    (inside : lookup key fields = some member) (value : Json) :
    (insert key value fields).map Prod.fst = fields.map Prod.fst :=
  (keys_insert key value fields).resolve_right fun new => new.1 (mem_keys_of_lookup inside)

theorem sameShape_put (new : Json) (there : at? position value = some host)
    (above : ¬ position <+: other) (found : at? other value = some old) :
    ∃ changed, at? other (put new position value) = some changed ∧ old.SameShape changed := by
  induction position generalizing value other with
  | nil => exact absurd List.nil_prefix above
  | cons step rest ih =>
    cases other with
    | nil =>
      obtain rfl : value = old := Option.some.inj found
      cases step <;> cases value <;> try cases there
      · obtain ⟨member, inside, -⟩ := Option.bind_eq_some_iff.1 there
        rw [put, inside]
        exact ⟨_, rfl, .object (keys_insert_of_lookup inside _)⟩
      · obtain ⟨item, inside, -⟩ := Option.bind_eq_some_iff.1 there
        rw [put, inside]
        exact ⟨_, rfl, .list List.length_set⟩
    | cons first beyond =>
      by_cases same : first = step
      · subst same
        rw [List.prefix_cons_inj] at above
        cases first <;> cases value <;> try cases there
        · obtain ⟨member, inside, there⟩ := Option.bind_eq_some_iff.1 there
          rw [at?_member, inside] at found
          obtain ⟨changed, now, shape⟩ := ih there above found
          refine ⟨changed, ?_, shape⟩
          rw [put, inside]
          simpa [lookup_insert] using now
        · obtain ⟨item, inside, there⟩ := Option.bind_eq_some_iff.1 there
          rw [at?_item, inside] at found
          obtain ⟨changed, now, shape⟩ := ih there above found
          refine ⟨changed, ?_, shape⟩
          rw [put, inside]
          simpa [(List.getElem?_eq_some_iff.1 inside).1] using now
      · have notBelow : ¬ first :: beyond <+: step :: rest :=
          fun isBelow => same (List.cons_prefix_cons.1 isBelow).1
        exact ⟨old, (placed_put new there).apart _ above notBelow ▸ found, .refl old⟩

end put

/-- Positions of which none is below another one. -/
def Antichain (positions : List Position) : Prop :=
  ∀ p ∈ positions, ∀ q ∈ positions, p <+: q → p = q

section spread

variable {positions : List Position}

theorem at?_put_of_apart (new : Json) (there : at? position value = some host)
    (apart : Apart position other) : at? other (put new position value) = at? other value :=
  (placed_put new there).apart other apart.1 apart.2

theorem forall_isSome_put (new : Json) (antichain : Antichain (position :: positions))
    (there : ∀ p ∈ position :: positions, (at? p value).isSome) :
    ∀ p ∈ positions, (at? p (put new position value)).isSome := by
  intro p mem
  obtain ⟨host, here⟩ := Option.isSome_iff_exists.1 (there position List.mem_cons_self)
  by_cases same : p = position
  · rw [same, (placed_put new here).there]
    rfl
  · have apart : Apart position p :=
      ⟨fun below => same (antichain _ List.mem_cons_self _ (.tail _ mem) below).symm,
        fun below => same (antichain _ (.tail _ mem) _ List.mem_cons_self below)⟩
    rw [at?_put_of_apart new here apart]
    exact there p (.tail _ mem)

theorem Antichain.tail (antichain : Antichain (position :: positions)) : Antichain positions :=
  fun p inside q mem => antichain p (.tail _ inside) q (.tail _ mem)

theorem at?_spread_of_apart (new : Json) (antichain : Antichain positions)
    (there : ∀ p ∈ positions, (at? p value).isSome) (apart : ∀ p ∈ positions, Apart p other) :
    at? other (spread new positions value) = at? other value := by
  induction positions generalizing value with
  | nil => rfl
  | cons position positions ih =>
    obtain ⟨host, here⟩ := Option.isSome_iff_exists.1 (there position List.mem_cons_self)
    have rest := forall_isSome_put new antichain there
    rw [spread, List.foldl_cons, ← spread,
      ih antichain.tail rest fun p mem => apart p (.tail _ mem),
      at?_put_of_apart new here (apart position List.mem_cons_self)]

theorem at?_spread_of_mem (new : Json) (antichain : Antichain positions)
    (there : ∀ p ∈ positions, (at? p value).isSome) (mem : p ∈ positions) :
    at? p (spread new positions value) = some new := by
  induction positions generalizing value with
  | nil => cases mem
  | cons position positions ih =>
    obtain ⟨host, here⟩ := Option.isSome_iff_exists.1 (there position List.mem_cons_self)
    have rest := forall_isSome_put new antichain there
    by_cases later : p ∈ positions
    · exact ih antichain.tail rest later
    · obtain rfl : p = position := (List.mem_cons.1 mem).resolve_right later
      have apart : ∀ q ∈ positions, Apart q p := fun q inside =>
        have other : q ≠ p := fun same => later (same ▸ inside)
        ⟨fun below => other (antichain q (.tail _ inside) p List.mem_cons_self below),
          fun below => other (antichain p List.mem_cons_self q (.tail _ inside) below).symm⟩
      rw [spread, List.foldl_cons, ← spread, at?_spread_of_apart new antichain.tail rest apart,
        (placed_put new here).there]

theorem sameShape_spread (new : Json) (antichain : Antichain positions)
    (there : ∀ p ∈ positions, (at? p value).isSome) (above : ∀ p ∈ positions, ¬ p <+: other)
    (found : at? other value = some old) :
    ∃ changed, at? other (spread new positions value) = some changed ∧ old.SameShape changed := by
  induction positions generalizing value old with
  | nil => exact ⟨old, found, .refl old⟩
  | cons position positions ih =>
    obtain ⟨host, here⟩ := Option.isSome_iff_exists.1 (there position List.mem_cons_self)
    obtain ⟨next, now, first⟩ := sameShape_put new here (above position List.mem_cons_self) found
    obtain ⟨changed, last, shape⟩ := ih antichain.tail (forall_isSome_put new antichain there)
      (fun p mem => above p (.tail _ mem)) now
    exact ⟨changed, last, first.trans shape⟩

end spread

/-- A value placed at several positions: it is there, what is neither below one of them nor above it
is as before, and what is above one of them keeps its shape. -/
structure PlacedAt (positions : List Position) (value before after : Json) : Prop where
  there : ∀ p ∈ positions, after.at? p = some value
  apart : ∀ other, (∀ p ∈ positions, Apart p other) → after.at? other = before.at? other
  above : ∀ p ∈ positions, ∀ other, other <+: p → other ≠ p → ∀ old, before.at? other = some old →
    ∃ new, after.at? other = some new ∧ old.KeepsShape new

/-- A value placed below one of the positions of a container, with what the container holds then. -/
structure PlacedBelow (twins : List Position) (container below : Position)
    (value content before updated : Json) : Prop where
  antichain : Antichain twins
  mem : container ∈ twins
  twin : ∀ p ∈ twins, before.at? p = before.at? container
  stands : (before.at? container).isSome
  placed : Placed (container ++ below) value before updated
  held : updated.at? container = some content

namespace PlacedBelow

variable {twins : List Position} {container below : Position} {before updated : Json}
  (isPlaced : PlacedBelow twins container below value content before updated)

theorem mem_others {q : Position} :
    q ∈ twins.filter (· ≠ container) ↔ q ∈ twins ∧ q ≠ container := by
  simp

include isPlaced

theorem antichain_others : Antichain (twins.filter (· ≠ container)) :=
  fun p inside q within =>
    isPlaced.antichain p (mem_others.1 inside).1 q (mem_others.1 within).1

theorem apart_others {q : Position} (inside : q ∈ twins.filter (· ≠ container)) (r : Position) :
    Apart q (container ++ r) := by
  obtain ⟨inside, other⟩ := mem_others.1 inside
  exact Apart.append ⟨fun below => other (isPlaced.antichain q inside _ isPlaced.mem below),
    fun below => other (isPlaced.antichain _ isPlaced.mem q inside below).symm⟩ r

theorem isSome_others : ∀ q ∈ twins.filter (· ≠ container), (updated.at? q).isSome := by
  intro q inside
  have apart := isPlaced.apart_others inside below
  rw [isPlaced.placed.apart q apart.2 apart.1, isPlaced.twin q (mem_others.1 inside).1]
  exact isPlaced.stands

/-- Before the value is placed a part of the container is the same wherever it is looked up, -/
theorem at?_twin {q : Position} (inside : q ∈ twins) (r : Position) :
    before.at? (q ++ r) = before.at? (container ++ r) := by
  rw [at?_append, at?_append, isPlaced.twin q inside]

/-- and so it is afterwards. -/
theorem at?_spread_twin {q : Position} (inside : q ∈ twins) (r : Position) :
    (spread content (twins.filter (· ≠ container)) updated).at? (q ++ r) =
      updated.at? (container ++ r) := by
  have few := isPlaced.antichain_others
  have still := isPlaced.isSome_others
  by_cases same : q = container
  · rw [same, at?_spread_of_apart content few still fun p other => isPlaced.apart_others other r]
  · rw [at?_append, at?_spread_of_mem content few still (mem_others.2 ⟨inside, same⟩), at?_append,
      isPlaced.held]

theorem at?_spread_aside {other : Position} (apart : ∀ q ∈ twins, Apart (q ++ below) other) :
    (spread content (twins.filter (· ≠ container)) updated).at? other = before.at? other := by
  have placed := isPlaced.placed
  by_cases within : ∃ q ∈ twins, q <+: other
  · obtain ⟨q, inside, r, rfl⟩ := within
    have beside := (apart q inside).of_append
    rw [isPlaced.at?_spread_twin inside, isPlaced.at?_twin inside]
    exact placed.apart _ (by simpa only [List.prefix_append_right_inj] using beside.1)
      (by simpa only [List.prefix_append_right_inj] using beside.2)
  · have outside : ∀ q ∈ twins.filter (· ≠ container), Apart q other := fun q inside =>
      have inside := (mem_others.1 inside).1
      ⟨fun isAbove => within ⟨q, inside, isAbove⟩,
        fun isAbove => (apart q inside).2 (isAbove.trans (List.prefix_append q below))⟩
    have here := apart container isPlaced.mem
    rw [at?_spread_of_apart content isPlaced.antichain_others isPlaced.isSome_others outside]
    exact placed.apart other here.1 here.2

/-- What is above a position of the container keeps its shape. -/
theorem keepsShape_spread {q other : Position} (inside : q ∈ twins) (isAbove : other <+: q)
    (proper : ¬ q <+: other) (found : before.at? other = some old) :
    ∃ new, (spread content (twins.filter (· ≠ container)) updated).at? other = some new ∧
      old.KeepsShape new := by
  have placed := isPlaced.placed
  have few := isPlaced.antichain_others
  have still := isPlaced.isSome_others
  -- nor is it below another one
  have never {p : Position} (there : p ∈ twins) : ¬ p <+: other := fun isBelow =>
    proper (isPlaced.antichain p there q inside (isBelow.trans isAbove) ▸ isBelow)
  have outside : ∀ p ∈ twins.filter (· ≠ container), ¬ p <+: other :=
    fun p there => never (mem_others.1 there).1
  by_cases onWay : other <+: container ++ below
  · have strict : other ≠ container ++ below := fun same =>
      never isPlaced.mem (same ▸ List.prefix_append container below)
    obtain ⟨next, now, first⟩ := placed.above other onWay strict old found
    obtain ⟨changed, last, second⟩ := sameShape_spread content few still outside now
    exact ⟨changed, last, first.trans_sameShape second⟩
  · have notBelow : ¬ container ++ below <+: other := fun isBelow =>
      never isPlaced.mem ((List.prefix_append container below).trans isBelow)
    have kept : updated.at? other = some old := (placed.apart other notBelow onWay).trans found
    obtain ⟨changed, last, shape⟩ := sameShape_spread content few still outside kept
    obtain ⟨rest, rfl⟩ := isAbove
    obtain ⟨host, there⟩ := Option.isSome_iff_exists.1 isPlaced.stands
    have host := (isPlaced.twin _ inside).trans there
    rw [at?_append, found] at host
    have strict : rest ≠ [] := by
      rintro rfl
      exact proper (by simp)
    exact ⟨changed, last, (KeepsShape.of_at? strict host).trans_sameShape shape⟩

theorem placedAt_spread :
    PlacedAt (twins.map (· ++ below)) value before
      (spread content (twins.filter (· ≠ container)) updated) where
  there p listed := by
    obtain ⟨q, inside, rfl⟩ := List.mem_map.1 listed
    rw [isPlaced.at?_spread_twin inside, isPlaced.placed.there]
  apart other apart := isPlaced.at?_spread_aside fun q inside =>
    apart _ (List.mem_map_of_mem inside)
  above p listed other isAbove strict old found := by
    obtain ⟨q, inside, rfl⟩ := List.mem_map.1 listed
    by_cases within : q <+: other
    · obtain ⟨s, rfl⟩ := within
      rw [List.prefix_append_right_inj] at isAbove
      rw [isPlaced.at?_twin inside] at found
      rw [isPlaced.at?_spread_twin inside]
      exact isPlaced.placed.above (container ++ s)
        ((List.prefix_append_right_inj container).2 isAbove)
        (fun same => strict (by rw [List.append_cancel_left same])) old found
    · have isAbove : other <+: q := (List.prefix_or_prefix_of_prefix
        (List.prefix_append q below) isAbove).resolve_left within
      exact isPlaced.keepsShape_spread inside isAbove within found

end PlacedBelow

end Json

namespace ResultPath

open Json (Position)

variable {position : Position} {value : Json}

theorem parted_append (position : Position) (value : Json) :
    (parted position value).1 ++ (parted position value).2 = position := by
  induction position generalizing value with
  | nil => rfl
  | cons step rest ih =>
    cases rest with
    | nil => rfl
    | cons next rest =>
      rw [parted]
      cases value.at? [step] with
      | none => rfl
      | some inner => exact congrArg (step :: ·) (ih inner)

theorem parted_below_ne_nil (strict : position ≠ []) : (parted position value).2 ≠ [] := by
  induction position generalizing value with
  | nil => exact absurd rfl strict
  | cons step rest ih =>
    cases rest with
    | nil => exact List.cons_ne_nil step []
    | cons next rest =>
      rw [parted]
      cases value.at? [step] with
      | none => exact List.cons_ne_nil step _
      | some inner => exact ih (List.cons_ne_nil next rest)

theorem exists_at?_parted (position : Position) (value : Json) :
    ∃ host, value.at? (parted position value).1 = some host := by
  induction position generalizing value with
  | nil => exact ⟨value, rfl⟩
  | cons step rest ih =>
    cases rest with
    | nil => exact ⟨value, rfl⟩
    | cons next rest =>
      rw [parted]
      cases inside : value.at? [step] with
      | none => exact ⟨value, rfl⟩
      | some inner =>
        obtain ⟨host, there⟩ := ih inner
        refine ⟨host, ?_⟩
        change value.at? ([step] ++ (parted (next :: rest) inner).1) = some host
        rw [Json.at?_append, inside]
        exact there

/-- The positions at which a result stands once it is placed at one of them. -/
def positionsAt (data : Data) (position : Position) : List Position :=
  (data.positionsOf (parted position data.value).1).map (· ++ (parted position data.value).2)

theorem positionsAt_of_shared_eq_nil {data : Data} (unshared : data.shared = [])
    (position : Position) : positionsAt data position = [position] := by
  simp [positionsAt, Data.positionsOf_of_shared_eq_nil unshared, parted_append]

theorem antichain_positionsOf {data : Data} {container : Position} {host : Json}
    (there : data.value.at? container = some host) :
    Json.Antichain (data.positionsOf container) := by
  rintro p mem _ other ⟨r, rfl⟩
  have first := (Data.at?_of_mem_positionsOf mem).trans there
  have second := (Data.at?_of_mem_positionsOf other).trans there
  rw [Json.at?_append, first] at second
  simp [Json.eq_nil_of_at?_self second]

theorem placedAt_written {data result : Data} {position : Position} {updated : Json}
    (strict : position ≠ [])
    (placed : Json.Placed position result.value data.value updated) :
    Json.PlacedAt (positionsAt data position) result.value data.value
      (written data result position updated).value := by
  obtain ⟨host, there⟩ := exists_at?_parted position data.value
  have joined := parted_append position data.value
  have longer : (parted position data.value).2 ≠ [] := parted_below_ne_nil strict
  unfold written positionsAt
  generalize parted position data.value = parts at there joined longer
  obtain ⟨container, below⟩ := parts
  dsimp only at there joined longer ⊢
  subst joined
  obtain ⟨content, held, -⟩ := placed.above container (List.prefix_append _ _) (by simpa using longer)
    host there
  rw [held]
  have below : Json.PlacedBelow (data.positionsOf container) container below result.value content
      data.value updated :=
    { antichain := antichain_positionsOf there
      mem := data.mem_positionsOf container
      twin := fun _ => Data.at?_of_mem_positionsOf
      stands := Option.isSome_iff_exists.2 ⟨host, there⟩
      placed, held }
  exact below.placedAt_spread

variable {path : String}

theorem place_eq_update (head : path.toList.head? = some '$')
    (single : ¬ ['$', '$'] <+: path.toList) (named : keys path ≠ []) (data result : Data) :
    place data (.str path) result =
      ((update path result.value (keys path) data.orEmpty.value).mapError .told).map
        (written data.orEmpty result (positionOf (keys path) data.orEmpty.value)) := by
  have longer : path ≠ "$" := by
    rintro rfl
    exact named rfl
  rw [← List.isPrefixOf_iff_prefix, Bool.not_eq_true] at single
  simp only [place, longer, head, single, ne_eq, not_true_eq_false, Bool.false_eq_true, if_false]

theorem Leads.positionOf {keys : List String} {root met : Json} {position : Position}
    (leads : Leads keys root position met) : positionOf keys root = position := by
  induction leads with
  | here value => rfl
  | member below ih => rw [ResultPath.positionOf, ih]
  | @item key rest items index place inner position met read counted there below ih =>
    have found : Path.place? items.length index = some place :=
      Path.place?_eq_some.2 ⟨(List.getElem?_eq_some_iff.1 there).1, counted⟩
    have same : items.getD place .null = inner := by simp [List.getD, there]
    simp only [ResultPath.positionOf, read, Except.toOption, Option.bind_some, found, same, ih]

end ResultPath

/-- A result path fails exactly if its keys are blocked, and in no other way. Otherwise they lead to
one position, and the result is placed there and at the positions that stand for the same one: all
that is apart from these is as before, and what is above one of them keeps its shape. If nothing is
shared in the data, there is no other position. -/
theorem result_path_frame {path : String} (head : path.toList.head? = some '$')
    (single : ¬ ['$', '$'] <+: path.toList) (named : ResultPath.keys path ≠ [])
    (data result : Data) :
    let before := data.orEmpty
    let placed := ResultPath.place data (.str path) result
    ((∃ cause, placed = .error (.told cause)) ↔
      ResultPath.Blocked (ResultPath.keys path) before.value) ∧
    placed ≠ .error .unwritable ∧
    ∀ after, placed = .ok after → ∃ position met,
      ResultPath.Leads (ResultPath.keys path) before.value position met ∧
      position.length = (ResultPath.keys path).length ∧
      Json.PlacedAt (ResultPath.positionsAt before position) result.value before.value after.value ∧
      (data.shared = [] → ResultPath.positionsAt before position = [position]) := by
  intro before placed
  have opened : placed = _ := ResultPath.place_eq_update head single named data result
  refine ⟨?_, ?_, fun after ends => ?_⟩
  · simp only [opened, map_eq_error, mapError_eq_error, Reported.told.injEq, exists_eq_right]
    exact ResultPath.update_fails_iff
  · simp [opened, map_eq_error, mapError_eq_error]
  · rw [opened] at ends
    obtain ⟨updated, put, rfl⟩ := map_eq_ok.1 ends
    obtain ⟨position, met, leads, isPlaced⟩ := ResultPath.placed_of_update (mapError_eq_ok.1 put)
    have length := leads.length_position
    have strict : position ≠ [] := by
      rintro rfl
      exact named (List.eq_nil_of_length_eq_zero length.symm)
    refine ⟨position, met, leads, length, ?_, fun unshared => ?_⟩
    · rw [leads.positionOf]
      exact ResultPath.placedAt_written strict isPlaced
    · refine ResultPath.positionsAt_of_shared_eq_nil ?_ position
      simp only [before, Data.orEmpty]
      split
      · rfl
      · exact unshared

theorem result_path_frame_nested :
    let path := "$.a[-1].b.c"
    let before := Json.obj [("a", .arr [.int 1, .obj [("e", .null)]]), ("d", .int 2)]
    let after := Json.obj [("a", .arr [.int 1,
      .obj [("e", .null), ("b", .obj [("c", .str "x")])]]), ("d", .int 2)]
    path.toList.head? = some '$' ∧ ¬ ['$', '$'] <+: path.toList ∧ ResultPath.keys path ≠ [] ∧
    ResultPath.place (.ofJson before) (.str path) (.ofJson (.str "x")) = .ok (.ofJson after) ∧
    ¬ ResultPath.Blocked ["a", "-1", "b", "c"] before ∧
    ∃ position met, ResultPath.Leads ["a", "-1", "b", "c"] before position met ∧
      position.length = 4 ∧ Json.PlacedAt [position] (.str "x") before after := by
  intro path before after
  have head : path.toList.head? = some '$' := by decide
  have single : ¬ ['$', '$'] <+: path.toList := by decide
  have named : ResultPath.keys path ≠ [] := by decide
  have keys : ResultPath.keys path = ["a", "-1", "b", "c"] := by decide
  have put : ResultPath.place (.ofJson before) (.str path) (.ofJson (.str "x")) =
      .ok (.ofJson after) := by
    rw [ResultPath.place_eq_update head single named, keys]
    rfl
  obtain ⟨fails, -, placed⟩ := result_path_frame head single named (.ofJson before) (.ofJson (.str "x"))
  have same : (Data.ofJson before).orEmpty.value = before := rfl
  rw [same, keys] at fails placed
  have free : ¬ ResultPath.Blocked ["a", "-1", "b", "c"] before := fun blocked => by
    obtain ⟨cause, failed⟩ := fails.2 blocked
    cases failed.symm.trans put
  obtain ⟨position, met, leads, length, isPlaced, unshared⟩ := placed _ put
  rw [unshared rfl] at isPlaced
  exact ⟨head, single, named, put, free, position, met, leads, length, isPlaced⟩

namespace Data

def nested : Json :=
  .obj [("node", .obj [("id", .int 1), ("node", .obj [("id", .int 2)])])]

/-- The list of both nodes, in which the inner one stands beside the outer one. -/
def nodes : Data where
  value := .arr [.obj [("id", .int 1), ("node", .obj [("id", .int 2)])], .obj [("id", .int 2)]]
  shared := [[[.item 0, .member "node"], [.item 1]]]

theorem applyTo_nested : Path.applyTo (.ofJson nested) .null (.str "$..node") = .ok nodes := by
  rfl

def doneNodes : Data where
  value := .arr [.obj [("id", .int 1), ("node", .obj [("id", .int 2), ("done", .bool true)])],
    .obj [("id", .int 2), ("done", .bool true)]]
  shared := nodes.shared

theorem place_nodes :
    ResultPath.place nodes (.str "$[1].done") (.ofJson (.bool true)) = .ok doneNodes := by
  rfl

end Data

/-- A result is not only placed where its path leads to: an object that an input path has found
twice has the result at both positions. -/
theorem result_path_changes_another_position :
    ¬ ∀ (root inputPath : Json) (data result after : Data) (path : String),
      Path.applyTo (.ofJson root) .null inputPath = .ok data →
      path.toList.head? = some '$' → ¬ ['$', '$'] <+: path.toList → ResultPath.keys path ≠ [] →
      ResultPath.place data (.str path) result = .ok after →
      ∃ position met, ResultPath.Leads (ResultPath.keys path) data.orEmpty.value position met ∧
        Json.PlacedAt [position] result.value data.orEmpty.value after.value := by
  intro always
  obtain ⟨position, met, leads, placed⟩ := always _ _ _ _ _ "$[1].done" Data.applyTo_nested
    (by decide) (by decide) (by decide) Data.place_nodes
  obtain rfl : [.item 1, .member "done"] = position := leads.positionOf
  have same := placed.apart [.item 0, .member "node"] (by simp [Json.Apart])
  simp [Data.nodes, Data.doneNodes, Data.orEmpty, Json.lookup] at same

end StateFlow
