import CallPlan.Proofs.Plan.Aliasing
import CallPlan.Proofs.Plan.Twins
import CallPlan.Proofs.Signature.Entering

/-!
What is passed by name may come in any order, and of several values for one key the last counts. A call asks
a list of pairs only which keys there are and what the last value of each is. Two lists that agree on this
make calls that end alike, and fill the same map.
-/

namespace CallPlan

/-- Keys and values as they are passed, each value behind its key. -/
def Reading.alternate (pairs : List (Text × Value)) : List Value :=
  pairs.flatMap fun (key, value) => [.plain (.text key), value]

/-- Pairs of different keys in another order, or all pairs but one whose key is passed again later. -/
inductive Rearranged : List (Text × Value) → List (Text × Value) → Prop
  | permuted {pairs pairs' : List (Text × Value)} (same : pairs.Perm pairs')
      (distinct : (pairs.map (·.1)).Nodup) : Rearranged pairs pairs'
  | dropped {front back : List (Text × Value)} {key : Text} {value : Value}
      (again : key ∈ back.map (·.1)) : Rearranged (front ++ (key, value) :: back) (front ++ back)

namespace Reading

variable {pairs pairs' : List (Text × Value)} {list list' : List Value} {key : Text} {value : Value}
  {site : Site}

@[simp] theorem alternate_nil : alternate [] = [] := rfl

@[simp] theorem alternate_cons (pair : Text × Value) :
    alternate (pair :: pairs) = .plain (.text pair.1) :: pair.2 :: alternate pairs := rfl

theorem pairFault?_alternate (pairs : List (Text × Value)) : pairFault? (alternate pairs) = none := by
  have even : (alternate pairs).length % 2 = 0 := by
    induction pairs with
    | nil => rfl
    | cons pair rest ih => simp only [alternate_cons, List.length_cons]; omega
  have texts : ∀ position, keyFault? position (alternate pairs) = none := by
    induction pairs with
    | nil => intro position; simp [keyFault?]
    | cons pair rest ih =>
        intro position
        have still : (alternate rest).length % 2 = 0 := by
          simp only [alternate_cons, List.length_cons] at even
          omega
        simp [keyFault?_cons, Value.text?, ih still]
  simp [pairFault?, even, texts]

theorem keys_alternate (pairs : List (Text × Value)) : keys (alternate pairs) = pairs.map (·.1) := by
  induction pairs with
  | nil => rfl
  | cons pair rest ih => simp [keys_cons, Value.text?, ih]

theorem valueOf?_alternate_cons (pair : Text × Value) : valueOf? (alternate (pair :: pairs)) key =
    (valueOf? (alternate pairs) key).or (if pair.1 = key then some pair.2 else none) := by
  simp [valueOf?_cons, Value.text?]

theorem valueOf?_alternate_append (front back : List (Text × Value)) :
    valueOf? (alternate (front ++ back)) key =
      (valueOf? (alternate back) key).or (valueOf? (alternate front) key) := by
  induction front with
  | nil => simp [valueOf?, lastPair?]
  | cons pair rest ih => simp only [List.cons_append, valueOf?_alternate_cons, ih, Option.or_assoc]

theorem valueOf?_alternate_isSome :
    (valueOf? (alternate pairs) key).isSome ↔ key ∈ pairs.map (·.1) := by
  induction pairs with
  | nil => simp [valueOf?, lastPair?]
  | cons pair rest ih =>
      rw [valueOf?_alternate_cons, Option.isSome_or, Bool.or_eq_true, ih, List.map_cons, List.mem_cons]
      by_cases same : pair.1 = key
      · simp [same]
      · simp [same, Ne.symm same]

theorem valueOf?_alternate_iff (distinct : (pairs.map (·.1)).Nodup) :
    valueOf? (alternate pairs) key = some value ↔ (key, value) ∈ pairs := by
  induction pairs with
  | nil => simp [valueOf?, lastPair?]
  | cons pair rest ih =>
      obtain ⟨own, held⟩ := pair
      obtain ⟨fresh, others⟩ := List.nodup_cons.mp distinct
      rw [valueOf?_alternate_cons, List.mem_cons, Prod.mk.injEq, ← ih others]
      by_cases same : own = key
      · subst own
        have absent : valueOf? (alternate rest) key = none := by
          rw [← Option.not_isSome_iff_eq_none, valueOf?_alternate_isSome]
          exact fresh
        simp [absent, eq_comm]
      · simp [same, Ne.symm same]

/-- Two lists of pairs that say the same: each key has the same last value in both. -/
structure Agree (list list' : List Value) : Prop where
  paired : pairFault? list = none
  paired' : pairFault? list' = none
  keys : ∀ key, key ∈ keys list' ↔ key ∈ keys list
  values : ∀ key, valueOf? list' key = valueOf? list key

theorem agree_of_rearranged (rearranged : Rearranged pairs pairs') :
    Agree (alternate pairs) (alternate pairs') := by
  have values : ∀ key, valueOf? (alternate pairs') key = valueOf? (alternate pairs) key := by
    intro key
    cases rearranged with
    | permuted same distinct =>
        have distinct' := ((same.map (·.1)).nodup_iff).mp distinct
        ext value
        rw [valueOf?_alternate_iff distinct, valueOf?_alternate_iff distinct', same.mem_iff]
    | @dropped front back own value again =>
        rw [valueOf?_alternate_append, valueOf?_alternate_append, valueOf?_alternate_cons]
        by_cases same : own = key
        · obtain ⟨last, later⟩ := Option.isSome_iff_exists.mp
            (valueOf?_alternate_isSome.mpr (same ▸ again))
          simp [later]
        · simp [same]
  refine ⟨pairFault?_alternate pairs, pairFault?_alternate pairs', fun key => ?_, values⟩
  rw [keys_alternate, keys_alternate, ← valueOf?_alternate_isSome, ← valueOf?_alternate_isSome, values]

theorem valueOf?_of_lastPair? {pair : Nat} (last : lastPair? list key = some pair) :
    ∃ value, list[2 * pair + 1]? = some value ∧ valueOf? list key = some value := by
  have found := List.getElem?_eq_getElem (lastPair?_bound last)
  exact ⟨_, found, by simp [valueOf?, last, found]⟩

/-- A key is found in both lists, with one value, or in neither. -/
theorem Agree.lastPair? (agree : Agree list list') (key : Text) :
    (lastPair? list key = none ∧ lastPair? list' key = none) ∨ ∃ pair pair' value,
      lastPair? list key = some pair ∧ lastPair? list' key = some pair' ∧
      list[2 * pair + 1]? = some value ∧ list'[2 * pair' + 1]? = some value := by
  have same := agree.values key
  cases last : Reading.lastPair? list key with
  | none =>
      cases last' : Reading.lastPair? list' key with
      | none => exact .inl ⟨rfl, rfl⟩
      | some pair' =>
          obtain ⟨value, _, found⟩ := valueOf?_of_lastPair? last'
          have absent : valueOf? list key = none := by simp [valueOf?, last]
          rw [found, absent] at same
          cases same
  | some pair =>
      obtain ⟨value, held, found⟩ := valueOf?_of_lastPair? last
      cases last' : Reading.lastPair? list' key with
      | none =>
          have absent : valueOf? list' key = none := by simp [valueOf?, last']
          rw [found, absent] at same
          cases same
      | some pair' =>
          obtain ⟨value', held', found'⟩ := valueOf?_of_lastPair? last'
          rw [found, found'] at same
          cases same
          exact .inr ⟨pair, pair', value, rfl, rfl, held, held'⟩

theorem nodup_eraseDups : ∀ keys : List Text, keys.eraseDups.Nodup
  | [] => by simp
  | key :: rest => by
      rw [List.eraseDups_cons]
      refine List.nodup_cons.mpr ⟨by simp, nodup_eraseDups _⟩
  termination_by keys => keys.length
  decreasing_by exact Nat.lt_succ_of_le (List.length_filter_le _ _)

/-- The keys that no parameter has are the same in both lists, but for their order. -/
theorem Agree.unknown (agree : Agree list list') (known : List Text) :
    Option.Rel CallError.Reordered (unknown site known list) (unknown site known list') := by
  have same : (((Reading.keys list).filter (!known.contains ·)).eraseDups).Perm
      (((Reading.keys list').filter (!known.contains ·)).eraseDups) := by
    refine (List.perm_ext_iff_of_nodup (nodup_eraseDups _) (nodup_eraseDups _)).mpr fun key => ?_
    simp only [List.mem_eraseDups, List.mem_filter, agree.keys]
  -- A single key comes with a suggestion, which depends on the key alone, and it has no other order.
  unfold Reading.unknown
  generalize ((Reading.keys list).filter (!known.contains ·)).eraseDups = left at same
  generalize ((Reading.keys list').filter (!known.contains ·)).eraseDups = right at same
  match left, right, same with
  | [], right, same =>
      cases same.nil_eq
      exact .none
  | [key], right, same =>
      cases List.singleton_perm.mp same
      exact .some (CallError.Reordered.refl _)
  | first :: second :: rest, [], same => simpa using same.length_eq
  | first :: second :: rest, [key], same => simpa using same.length_eq
  | first :: second :: rest, first' :: second' :: rest', same => exact .some ⟨_, same, rfl⟩

theorem rel_or {α : Type} {related : α → α → Prop} {x y y' : Option α} (refl : ∀ a, related a a)
    (later : Option.Rel related y y') : Option.Rel related (x.or y) (x.or y') := by
  cases x with
  | none => simpa using later
  | some a => exact .some (refl a)

end Reading

namespace Signature

open Reading

variable {s : Signature} {args args' : List Value} {site : Site} {strict : Bool}

/-- How many arguments there are before those passed by name. -/
def leading (s : Signature) : Nat := (if s.invocant.isSome then 1 else 0) + s.positional.length

theorem leading_pos (s : Signature) {name : Text} (declared : s.invocant = some name) : 0 < s.leading := by
  simp only [leading, declared, Option.isSome_some, if_true]
  omega

/-- Two argument lists that are the same as far as they are taken by position, and go on with pairs that
agree. -/
structure Agree (s : Signature) (args args' : List Value) : Prop where
  front : args'.take s.leading = args.take s.leading
  enough : s.leading ≤ args.length
  enough' : s.leading ≤ args'.length
  pairs : Reading.Agree (s.pairs args) (s.pairs args')

theorem rest_eq_drop (s : Signature) (args : List Value) :
    s.rest args = args.drop (if s.invocant.isSome then 1 else 0) := by
  unfold rest
  cases s.invocant <;> simp

theorem pairs_eq_drop (s : Signature) (args : List Value) : s.pairs args = args.drop s.leading := by
  rw [pairs, rest_eq_drop, List.drop_drop, leading]

theorem agree_of_rearranged {front : List Value} {tail tail' : List (Text × Value)}
    (count : front.length = s.leading) (rearranged : Rearranged tail tail') :
    s.Agree (front ++ alternate tail) (front ++ alternate tail') where
  front := by simp [← count]
  enough := by simp [← count]
  enough' := by simp [← count]
  pairs := by
    rw [pairs_eq_drop, pairs_eq_drop, ← count, List.drop_left, List.drop_left]
    exact Reading.agree_of_rearranged rearranged

theorem Agree.getElem? (agree : s.Agree args args') {index : Nat} (within : index < s.leading) :
    args'[index]? = args[index]? := by
  rw [← List.getElem?_take_of_lt within, agree.front, List.getElem?_take_of_lt within]

theorem Agree.argument (agree : s.Agree args args') {index : Nat} (within : index < s.positional.length) :
    ∃ value, (s.rest args)[index]? = some value ∧ (s.rest args')[index]? = some value := by
  have bound : (if s.invocant.isSome then 1 else 0) + index < s.leading := by
    unfold leading
    omega
  have present := List.getElem?_eq_getElem (Nat.lt_of_lt_of_le bound agree.enough)
  simp only [rest_eq_drop, List.getElem?_drop, agree.getElem? bound]
  exact ⟨_, present, present⟩

/-- Where there are named parameters, positional ones are rules on single arguments, which are the same. -/
theorem Agree.firstBroken (agree : s.Agree args args') (consistent : s.Consistent)
    (named : s.hasNamed = true) :
    Option.Rel CallError.Reordered (s.firstBroken strict site args) (s.firstBroken strict site args') := by
  have invocant : s.invocantRules site args' = s.invocantRules site args := by
    unfold invocantRules
    cases declared : s.invocant with
    | none => rfl
    | some name =>
        have one := s.leading_pos declared
        have nonempty : args ≠ [] := List.length_pos_iff.mp (Nat.lt_of_lt_of_le one agree.enough)
        have nonempty' : args' ≠ [] := List.length_pos_iff.mp (Nat.lt_of_lt_of_le one agree.enough')
        simp [nonempty, nonempty']
  have positional :
      s.positional.mapIdx (fun index p => positionalRules site (s.rest args') index p) =
        s.positional.mapIdx fun index p => positionalRules site (s.rest args) index p := by
    refine List.mapIdx_eq_mapIdx_iff.mpr fun index within => ?_
    obtain ⟨value, found, found'⟩ := agree.argument within
    have single := (consistent.unmixed named _ (List.getElem_mem within)).2
    simp [positionalRules, found, found', single]
  have keyed : s.named.flatMap (Reading.namedRules site (s.pairs args')) =
      s.named.flatMap (Reading.namedRules site (s.pairs args)) := by
    congr 1
    funext p
    simp only [Reading.namedRules, agree.pairs.values]
  have uncounted : ∀ rest, surplus site strict s rest = none := by
    intro rest
    simp [surplus, named]
  simp only [Signature.firstBroken, rules, Signature.namedRules, named, if_true, malformed,
    agree.pairs.paired, agree.pairs.paired', invocant, positional, keyed, uncounted, firstOf_append,
    firstOf_cons, firstOf_nil, Option.or_none, Option.map_none, Option.none_or, List.cons_append]
  exact rel_or CallError.Reordered.refl (rel_or CallError.Reordered.refl (agree.pairs.unknown _))

end Signature

namespace Plan

open Reading

variable {settings : PlanOptions} {s : Signature} {plan : Plan} {before : Store} {c c' : Call}

theorem matches_positional {p : Param} {index : Nat} {default? : Option Expression}
    (follows : c.Follows s before) (follows' : c'.Follows s before) (twins : c.Twins c' before)
    (agree : s.Agree (before.items c.args) (before.items c'.args))
    (placed : p.index = some index) (single : p.slurpy = false) (within : index < s.positional.length) :
    c.Matches c' before (positionalStep p default?) := by
  have kind : (positionalStep p default?).kind = .positional := by simp [positionalStep, single]
  have place : (positionalStep p default?).index = index := by simp [positionalStep, placed]
  obtain ⟨value, found, found'⟩ := agree.argument within
  rw [← follows.items_rest] at found
  rw [← follows'.items_rest] at found'
  have bound : index < c.rest.length := twins.shown ▸ (List.getElem?_eq_some_iff.mp found).1
  have bound' : index < c'.rest.length := twins.shown' ▸ (List.getElem?_eq_some_iff.mp found').1
  refine ⟨by simp [kind], by simp [kind], fun _ => ?_⟩
  simp only [Call.index?, kind, place, bound, bound', if_true]
  exact .passed found found'

theorem matches_named {p : Param} {default? : Option Expression}
    (follows : c.Follows s before) (follows' : c'.Follows s before) (named : s.hasNamed = true)
    (agree : s.Agree (before.items c.args) (before.items c'.args)) :
    c.Matches c' before (namedStep p default?) := by
  have shifted : ∀ {c : Call}, c.Follows s before → ∀ offset,
      (before.items c.rest)[s.positional.length + offset]? = (s.pairs (before.items c.args))[offset]? := by
    intro c follows offset
    rw [follows.items_rest, Signature.pairs, List.getElem?_drop]
  refine ⟨by simp [namedStep], by simp [namedStep], fun _ => ?_⟩
  simp only [Call.index?, namedStep, follows.collected p.name named, follows'.collected p.name named]
  rcases agree.pairs.lastPair? p.name with ⟨none, none'⟩ |
    ⟨pair, pair', value, last, last', found, found'⟩
  · rw [none, none']
    exact .missing
  · rw [last, last']
    exact .passed ((shifted follows _).trans found) ((shifted follows' _).trans found')

/-- Every step of a plan with named parameters takes the same from argument lists that agree. -/
theorem steps_match (compiled : (compile s settings).outcome = .ok plan) (consistent : s.Consistent)
    (named : s.hasNamed = true) (follows : c.Follows s before) (follows' : c'.Follows s before)
    (twins : c.Twins c' before) (agree : s.Agree (before.items c.args) (before.items c'.args)) :
    ∀ step ∈ plan.steps, c.Matches c' before step := by
  intro step member
  rcases step_cases compiled member with ⟨name, declared, rfl⟩ | ⟨p, listed, default?, _, rfl⟩ |
    ⟨p, _, default?, _, rfl⟩ | ⟨kind, _⟩ | ⟨kind, _⟩
  · refine ⟨fun _ => agree.getElem? ?_, by simp [invocantStep], by simp [invocantStep]⟩
    exact s.leading_pos declared
  · obtain ⟨index, found⟩ := List.getElem?_of_mem listed
    exact matches_positional follows follows' twins agree (consistent.placed index p found)
      (consistent.unmixed named p listed).2 (List.getElem?_eq_some_iff.mp found).1
  · exact matches_named follows follows' named agree
  · exact ⟨by simp [kind], by simp [kind], by simp [kind]⟩
  · exact ⟨by simp [kind], by simp [kind], by simp [kind]⟩

theorem call_endsAlike (context : Context) (site : Site) {store : Store} {args args' : View}
    (compiled : (compile s settings).outcome = .ok plan) (consistent : s.Consistent)
    (allocates : settings.Allocates) (named : s.hasNamed = true)
    (shown : (store.items args).length = args.length) (shown' : (store.items args').length = args'.length)
    (agree : s.Agree (store.items args) (store.items args')) :
    EndsAlike (plan.call context site store args) (plan.call context site store args') := by
  have broken : Option.Rel _
      (s.firstBroken settings.strictArity (settings.siteOf site) (store.items args)) _ :=
    agree.firstBroken consistent named
  have cases := call_cases context site store args compiled consistent.toWellFormed
  have cases' := call_cases context site store args' compiled consistent.toWellFormed
  generalize s.firstBroken settings.strictArity (settings.siteOf site) (store.items args) = first
    at broken cases
  generalize s.firstBroken settings.strictArity (settings.siteOf site) (store.items args') = first'
    at broken cases'
  cases broken with
  | some reordered =>
      rw [cases, cases']
      exact .refused reordered
  | none =>
      obtain ⟨c, rfl, rfl, same, rfl, follows, run⟩ := cases
      obtain ⟨c', own, context, same', rfl, follows', run'⟩ := cases'
      have twins : c.Twins c' store :=
        ⟨own, context, same'.trans same.symm, (follows shown).shown shown, (follows' shown').shown shown',
          shown, shown'⟩
      rw [run, run']
      exact twins.bind_endsAlike (steps_tame compiled allocates)
        (steps_match compiled consistent named (follows shown) (follows' shown') twins agree)

end Plan

theorem Binding.give_dict (mode : Mode) (store : Store) (cell : Nat) : ∃ map after,
    give mode store (.dict cell) = (.dict map, after) ∧ after.entries map = store.entries cell := by
  unfold give
  split
  · exact ⟨_, _, rfl, store.entries_alloc (store.entries cell)⟩
  · exact ⟨cell, store, rfl, rfl⟩

/-- The map of a slurpy hash has the keys behind its index, each with its last value. -/
theorem Signature.Reads.gathered {s : Signature} {settings : PlanOptions} {before after : Store}
    {args : View} {b : Bindings} (reads : s.Reads settings before after args b) {p : Param} {index : Nat}
    (declared : s.positional[index]? = some p) (slurpy : p.slurpy = true) (hash : p.sigil = .hash) :
    ∃ map last, b.get? after p.name = .ok (some (.dict map, last)) ∧ ∀ key,
      (last.entries map).get? key = Reading.valueOf? ((s.rest (before.items args)).drop index) key := by
  have listed : (p, .tail index) ∈ s.origins (before.items args) :=
    mem_origins.mpr (.inl ⟨index, declared, by simp [positionalOrigin, slurpy]⟩)
  obtain ⟨default?, binding, -, looked, bound⟩ := reads.bound p _ listed
  have holds := bound.holds
  generalize content : binding.content = held at holds
  cases holds with
  | @gathered _ cell _ same fresh =>
      obtain ⟨map, last, given, kept⟩ := Binding.give_dict binding.mode after cell
      refine ⟨map, last, ?_, fun key => ?_⟩
      · rw [Bindings.get?_of_lookup? looked, Binding.get_own content, given]
        rfl
      · rw [kept, same, reads.items_args]
  | shared array => exact (array hash).elim
  | listed array => exact (array hash).elim

namespace Plan

open Reading

variable {settings : PlanOptions} {s : Signature} {plan : Plan}

/-- The arguments before a tail of pairs are the same, and the pairs are rearranged. Where the pairs are
taken by name, the calls end alike. Where a slurpy hash takes them and both calls bind, its map has the same
entries. -/
theorem tails_rearranged (obtained : s.Obtainable)
    (compiled : (compile s settings).outcome = .ok plan) (allocates : settings.Allocates)
    (context : Context) (site : Site) {store : Store} {args args' : View}
    (passes : store.Passes args) (passes' : store.Passes args')
    {front : List Value} {tail tail' : List (Text × Value)} (rearranged : Rearranged tail tail')
    (shows : store.items args = front ++ alternate tail)
    (shows' : store.items args' = front ++ alternate tail') :
    (s.hasNamed = true → front.length = (if s.invocant.isSome then 1 else 0) + s.positional.length →
      EndsAlike (plan.call context site store args) (plan.call context site store args')) ∧
    ∀ p index, s.positional[index]? = some p → p.slurpy = true → p.sigil = .hash →
      front.length = (if s.invocant.isSome then 1 else 0) + index → ∀ b after b' after',
      plan.call context site store args = (.ok b, after) →
      plan.call context site store args' = (.ok b', after') → ∃ map last map' last',
        b.get? after.store p.name = .ok (some (.dict map, last)) ∧
        b'.get? after'.store p.name = .ok (some (.dict map', last')) ∧
        ∀ key, (last'.entries map').get? key = (last.entries map).get? key := by
  have consistent := obtained.consistent
  constructor
  · intro named count
    refine call_endsAlike context site compiled consistent allocates named passes.shown passes'.shown ?_
    rw [shows, shows']
    exact Signature.agree_of_rearranged count rearranged
  · intro p index declared slurpy hash count b after b' after' called called'
    have reads := call_reads compiled consistent.toWellFormed allocates passes called
    have reads' := call_reads compiled consistent.toWellFormed allocates passes' called'
    obtain ⟨map, last, got, entries⟩ := reads.gathered declared slurpy hash
    obtain ⟨map', last', got', entries'⟩ := reads'.gathered declared slurpy hash
    refine ⟨map, last, map', last', got, got', fun key => ?_⟩
    rw [entries, entries', shows, shows', Signature.rest_eq_drop, Signature.rest_eq_drop, List.drop_drop,
      List.drop_drop, ← count, List.drop_left, List.drop_left]
    exact (Reading.agree_of_rearranged rearranged).values key

/-- One parameter by position and three by name, one an alias and one with a default. -/
def swappedSample : Signature where
  text := "$a, :$b, :$c is alias, :$d = $b"
  positional := [{ name := "a", index := some 0 }]
  named := [
    { name := "b", role := .named, optional := true },
    { name := "c", role := .named, traits := ["alias"], optional := true },
    { name := "d", role := .named, optional := true, defaultSource := some "$b" }]

def swappedHash : Param where
  name := "opts"
  sigil := .hash
  slurpy := true
  index := some 0

/-- The same two pairs behind an argument, in both orders. -/
def swappedStore : Store where
  cells := #[
    .list [.null, .plain (.text "b"), .plain (.bool true), .plain (.text "c"), .null],
    .list [.null, .plain (.text "c"), .null, .plain (.text "b"), .plain (.bool true)]]

theorem tails_rearranged_swapped :
    (∃ plan, (compile swappedSample .starlark).outcome = .ok plan ∧
      (∃ b after, plan.call [] {} swappedStore ⟨0, 0, 5⟩ = (.ok b, after)) ∧
      EndsAlike (plan.call [] {} swappedStore ⟨0, 0, 5⟩) (plan.call [] {} swappedStore ⟨1, 0, 5⟩)) ∧
    ∃ plan, (compile { text := "%opts", positional := [swappedHash] } .starlark).outcome = .ok plan ∧
      ∃ b after b' after', plan.call [] {} swappedStore ⟨0, 1, 4⟩ = (.ok b, after) ∧
        plan.call [] {} swappedStore ⟨1, 1, 4⟩ = (.ok b', after') ∧ ∃ map last map' last',
          b.get? after.store "opts" = .ok (some (.dict map, last)) ∧
          b'.get? after'.store "opts" = .ok (some (.dict map', last')) ∧
          ∀ key, (last'.entries map').get? key = (last.entries map).get? key := by
  have allocates := PlanOptions.starlark_confined.allocates
  have swapped : Rearranged [("b", .plain (.bool true)), ("c", .null)]
      [("c", .null), ("b", .plain (.bool true))] := .permuted (.swap ..) (by decide)
  have named : Signature.parse "$a, :$b, :$c is alias, :$d = $b" {} = .ok swappedSample := by rfl
  have hash : Signature.parse "%opts" {} = .ok { text := "%opts", positional := [swappedHash] } := by rfl
  constructor
  · -- Neither order of the pairs names `d`, so its default is evaluated.
    obtain ⟨plan, compiled, bound⟩ : ∃ plan, (compile swappedSample .starlark).outcome = .ok plan ∧
        ∃ b after, plan.call [] {} swappedStore ⟨0, 0, 5⟩ = (.ok b, after) := by decide +kernel
    have passes : swappedStore.Passes ⟨0, 0, 5⟩ := by decide
    have passes' : swappedStore.Passes ⟨1, 0, 5⟩ := by decide
    have shows : swappedStore.items ⟨0, 0, 5⟩ =
        [.null] ++ alternate [("b", .plain (.bool true)), ("c", .null)] := rfl
    have alike := tails_rearranged (.parsed named) compiled allocates [] {} passes passes' swapped shows rfl
    exact ⟨plan, compiled, bound, alike.1 rfl rfl⟩
  · obtain ⟨plan, compiled, b, after, b', after', called, called'⟩ :
        ∃ plan, (compile { text := "%opts", positional := [swappedHash] } .starlark).outcome = .ok plan ∧
        ∃ b after b' after', plan.call [] {} swappedStore ⟨0, 1, 4⟩ = (.ok b, after) ∧
          plan.call [] {} swappedStore ⟨1, 1, 4⟩ = (.ok b', after') := ⟨_, rfl, _, _, _, _, rfl, rfl⟩
    have passes : swappedStore.Passes ⟨0, 1, 4⟩ := by decide
    have passes' : swappedStore.Passes ⟨1, 1, 4⟩ := by decide
    have shows : swappedStore.items ⟨0, 1, 4⟩ =
        [] ++ alternate [("b", .plain (.bool true)), ("c", .null)] := rfl
    have same := tails_rearranged (.parsed hash) compiled allocates [] {} passes passes' swapped shows rfl
    exact ⟨plan, compiled, b, after, b', after', called, called',
      same.2 swappedHash 0 rfl rfl rfl rfl b after b' after' called called'⟩

end Plan
end CallPlan
