import CallPlan.Proofs.Data.Use
import CallPlan.Proofs.Plan.Aliasing
import CallPlan.Proofs.Plan.Sealing

/-!
Copied and read-only parameters are isolated from the caller, one level deep. What the routine does to a
copy does not reach the caller's storage, and what the caller does to its storage does not reach the copy.
What a read-only parameter gives is the same whatever anyone does.
-/

namespace CallPlan

namespace Binding

variable {store after : Store} {hidden : Nat → Prop} {b b' : Binding} {value : Value}

theorem items?_within {items : List Value} (shut : store.Sealed hidden)
    (given : items? store value = some items) : ∀ item ∈ items, item.Within (store.Shown hidden) := by
  unfold items? at given
  split at given
  · cases given
    exact fun item member => shut.of_mem_items member
  · cases given
    simp
  · cases given

/-- What setting a binding does where it is not refused. -/
inductive Changes (store : Store) (b : Binding) (value : Value) : Binding → Store → Prop
  | saved {type : HostType} {place : Place} {kept : Value} (refers : b.content = .ref type place)
      (given : kept = nothingOf type ∨ kept = value) :
      Changes store b value b (store.save place kept)
  | shared {view : View} {items : List Value} (shows : b.content = .shared view)
      (given : items? store value = some items) :
      Changes store b value b (store.saveAll view 0 items)
  | own {old : Value} (owned : b.content = .own old) :
      Changes store b value { b with content := .own value } store

theorem set_changes (done : b.set store value = .ok (b', after)) :
    b.mode ≠ .readOnly ∧ Changes store b value b' after := by
  unfold set at done
  split at done
  · cases done
  · next writable =>
      refine ⟨writable, ?_⟩
      split at done
      · next type place refers =>
          split at done
          · split at done
            · cases done
              exact .saved refers (.inl rfl)
            · cases done
          · split at done
            · cases done
              exact .saved refers (.inr rfl)
            · cases done
      · next view shows =>
          split at done
          · next items given =>
              split at done
              · cases done
                exact .shared shows given
              · cases done
          · cases done
      · next old owned =>
          cases done
          exact .own owned

theorem nothingOf_within (known : Nat → Prop) (type : HostType) : (nothingOf type).Within known := by
  intro cell named
  unfold nothingOf at named
  split at named <;> cases named

/-- Setting a binding to what is shown leaves hidden cells as they are, and leads to none of them. -/
theorem set_seals (shut : store.Sealed hidden) (own : b.content.Sealed store hidden b.mode)
    (within : value.Within (store.Shown hidden)) (done : b.set store value = .ok (b', after)) :
    b.mode ≠ .readOnly ∧ after.Sealed hidden ∧ Store.Retains hidden store after ∧
      b'.content.Sealed after hidden b'.mode := by
  obtain ⟨writable, changes⟩ := set_changes done
  refine ⟨writable, ?_⟩
  cases changes with
  | @saved type place kept refers given =>
      have seen : store.Shown hidden place.cell := by
        simpa only [refers, Content.Sealed] using own
      have inside : kept.Within (store.Shown hidden) := by
        rcases given with rfl | rfl
        · exact nothingOf_within _ type
        · exact within
      obtain ⟨later, retains⟩ := shut.assign (store.save_assigns place kept) seen (by simpa using inside)
      exact ⟨later, retains, own.map fun _ shown => shown.later retains.grown⟩
  | @shared view items shows given =>
      have seen : store.Shown hidden view.cell := by
        simpa only [shows, Content.Sealed] using own
      obtain ⟨later, retains⟩ := shut.assign (store.saveAll_assigns view 0 items) seen
        (items?_within shut given)
      exact ⟨later, retains, own.map fun _ shown => shown.later retains.grown⟩
  | own owned => exact ⟨shut, .refl store, fun cell named => .inr (within cell named)⟩

theorem give_surface {mode : Mode}
    (same : ∀ cell, value.collection? = some cell → after.cells[cell]? = store.cells[cell]?) :
    (give mode after value).2.surface (give mode after value).1 =
      (give mode store value).2.surface (give mode store value).1 := by
  have shows : ∀ current : Store, (give mode current value).2.surface (give mode current value).1 =
      current.surface value := by
    intro current
    unfold give
    split
    · exact current.surface_clone value
    · rfl
  rw [shows, shows, Store.surface_congr same]

theorem give_cell {mode : Mode} {cell : Nat}
    (named : (give mode store value).1.collection? = some cell) :
    value.collection? = some cell ∨ store.cells.size ≤ cell := by
  unfold give at named
  split at named
  · exact .inr (Value.NewIn.clone store value cell named).1
  · exact .inl named

end Binding

theorem Bindings.get?_own {b : Bindings} {name : Text} {binding : Binding} {value : Value}
    (found : b.entries.get? name = some binding) (owned : binding.content = .own value)
    (store : Store) : b.get? store name = .ok (some (Binding.give binding.mode store value)) := by
  rw [get?_of_lookup? (lookup?_of_get? found), Binding.get_own owned]
  rfl

/-- A parameter that is bound in another mode than as an alias owns its value, and a collection is new. -/
theorem Bound.owned {before after : Store} {rest : View} {mode : Mode} {p : Param}
    {default? : Option Expression} {origin : Origin} {b : Binding}
    (bound : Bound before after rest mode p default? origin b) (unaliased : b.mode ≠ .alias) :
    ∃ shown, b.content = .own shown ∧ shown.NewIn before after := by
  have holds := bound.holds
  have mode_eq := bound.mode_eq
  generalize b.content = content at holds ⊢
  cases holds with
  | slot aliased => exact (unaliased (mode_eq.trans aliased)).elim
  | pointee aliased => exact (unaliased (mode_eq.trans aliased)).elim
  | copied _ _ _ fresh => exact ⟨_, rfl, fresh⟩
  | gathered _ _ fresh => exact ⟨_, rfl, fresh⟩
  | shared array aliased =>
      simp only [Origin.modeOf, array, decide_false, Bool.false_and, Bool.false_eq_true, if_false] at mode_eq
      exact (unaliased (mode_eq.trans aliased)).elim
  | listed _ _ _ fresh => exact ⟨_, rfl, fresh⟩
  | stored aliased => exact (unaliased (mode_eq.trans aliased)).elim
  | settled _ _ _ fresh => exact ⟨_, rfl, fresh⟩

namespace Frame

variable {start f f' : Frame} {known known' hidden : Nat → Prop} {name : Text} {value : Value}

/-- What can come about after a call, with the cells that are known to the routine and the caller. They
use the storage they know, set names to what they know, and get to know what the bindings give out. -/
inductive Reaches (known : Nat → Prop) (start : Frame) : (Nat → Prop) → Frame → Prop
  | start : Reaches known start known start
  | use {known' known'' : Nat → Prop} {f : Frame} {store : Store}
      (reaches : Reaches known start known' f) (uses : f.store.Uses known' known'' store) :
      Reaches known start known'' { f with store }
  | set {known' : Nat → Prop} {f f' : Frame} {name : Text} {value : Value}
      {outcome : Except SetRefusal Bool} (reaches : Reaches known start known' f)
      (within : value.Within known') (done : f.act (.set name value) = .ok (outcome, f')) :
      Reaches known start known' f'
  | get {known' : Nat → Prop} {f : Frame} {name : Text} {value : Value} {store : Store}
      (reaches : Reaches known start known' f)
      (got : f.bindings.get? f.store name = .ok (some (value, store))) :
      Reaches known start (fun cell => known' cell ∨ value.cell? = some cell) { f with store }
  | values {known' : Nat → Prop} {f : Frame} {values : Entries Value} {store : Store}
      (reaches : Reaches known start known' f)
      (got : f.bindings.values f.store = .ok (values, store)) :
      Reaches known start (fun cell => known' cell ∨ ∃ entry ∈ values, entry.2.cell? = some cell)
        { f with store }
  | arguments {known' : Nat → Prop} {f : Frame} (reaches : Reaches known start known' f) :
      Reaches known start (fun cell => known' cell ∨ cell = f.store.cells.size)
        { f with store := (f.store.newList (f.bindings.arguments f.store)).2 }
  | ref {known' : Nat → Prop} {f : Frame} {name : Text} {pointer : Value}
      (reaches : Reaches known start known' f) (found : f.bindings.ref? name = some pointer) :
      Reaches known start (fun cell => known' cell ∨ pointer.cell? = some cell) f

/-- Hidden cells are as they were at first, no one leads to them, and read-only bindings are the same. -/
structure Conceals (hidden known : Nat → Prop) (start f : Frame) : Prop where
  shut : f.store.Sealed hidden
  shown : ∀ cell, known cell → f.store.Shown hidden cell
  own : ∀ entry ∈ f.bindings.entries, entry.2.content.Sealed f.store hidden entry.2.mode
  retains : Store.Retains hidden start.store f.store
  fixed : ∀ key b, start.bindings.entries.get? key = some b → b.mode = .readOnly →
    f.bindings.entries.get? key = some b

theorem Conceals.later (conceals : Conceals hidden known start f) {store : Store}
    (shut : store.Sealed hidden) (retains : Store.Retains hidden f.store store)
    (shown : ∀ cell, known' cell → known cell ∨ store.Shown hidden cell) :
    Conceals hidden known' start { f with store } where
  shut := shut
  shown cell knew := (shown cell knew).elim
    (fun knew => (conceals.shown cell knew).later retains.grown) id
  own entry member := (conceals.own entry member).map fun _ seen => seen.later retains.grown
  retains := conceals.retains.trans retains
  fixed := conceals.fixed

theorem Conceals.extend (conceals : Conceals hidden known start f) {store : Store}
    (shut : store.Sealed hidden) (kept : f.store.Extends store)
    (shown : ∀ cell, known' cell → known cell ∨ store.Shown hidden cell) :
    Conceals hidden known' start { f with store } :=
  conceals.later shut (conceals.shut.retains kept) shown

theorem Conceals.use (conceals : Conceals hidden known start f) {store : Store}
    (uses : f.store.Uses known known' store) : Conceals hidden known' start { f with store } := by
  obtain ⟨hides, retains⟩ := uses.hides (conceals.shut.hides conceals.shown)
  exact conceals.later (hides.shut retains conceals.shut) retains fun cell knew =>
    .inr (hides.shown cell knew)

theorem Conceals.set (conceals : Conceals hidden known start f) {outcome : Except SetRefusal Bool}
    (within : value.Within known) (done : f.act (.set name value) = .ok (outcome, f')) :
    Conceals hidden known start f' := by
  rcases eq_or_put_of_act_set done with rfl | ⟨key, b, b', after, _, found, changed, rfl⟩
  · exact conceals
  · obtain ⟨writable, shut, retains, own⟩ := Binding.set_seals conceals.shut
      (conceals.own _ (Entries.mem_of_get? found)) (within.mono conceals.shown) changed
    have later := conceals.later shut retains fun _ knew => .inl knew
    refine ⟨shut, later.shown, fun entry listed => ?_, later.retains, fun other c first readOnly => ?_⟩
    · rcases Entries.mem_put listed with same | earlier
      · exact same ▸ own
      · exact later.own entry earlier
    · have known := conceals.fixed other c first readOnly
      have different : key ≠ other := by
        rintro rfl
        cases known.symm.trans found
        exact writable readOnly
      simp [Frame.put, Entries.get?_put, different, known]

theorem lookup?_mem {b : Binding} (found : f.bindings.lookup? name = some b) :
    ∃ key, (key, b) ∈ f.bindings.entries := by
  simp only [Bindings.lookup?, Option.bind_eq_bind, Option.bind_eq_some_iff] at found
  obtain ⟨key, _, entry⟩ := found
  exact ⟨key, Entries.mem_of_get? entry⟩

/-- Nothing that can come about after a call leads to hidden cells. -/
theorem Reaches.conceals (reaches : Reaches known start known' f)
    (first : Conceals hidden known start start) : Conceals hidden known' start f := by
  -- `Conceals` is the invariant: what is known never leads to hidden cells, so no assignment meets one.
  induction reaches with
  | start => exact first
  | use reaches uses ih => exact ih.use uses
  | set reaches within done ih => exact ih.set within done
  | @get known' f name value store reaches got ih =>
      obtain ⟨key, b, found, given⟩ := Bindings.get?_ok got
      obtain ⟨shut, kept, shown⟩ := Binding.get_seals ih.shut (ih.own _ (Entries.mem_of_get? found)) given
      exact ih.extend shut kept fun cell knew => knew.imp_right (shown cell)
  | @values known' f values store reaches got ih =>
      obtain ⟨shut, kept, shown⟩ := Binding.valuesOf_seals ih.shut ih.own got
      refine ih.extend shut kept ?_
      rintro cell (knew | ⟨entry, member, named⟩)
      · exact .inl knew
      · exact .inr (shown entry member cell named)
  | @arguments known' f reaches ih =>
      have inside : (Cell.list (f.bindings.arguments f.store)).Within (f.store.Shown hidden) :=
        fun value member => ih.shut.of_mem_items member
      refine ih.extend (ih.shut.alloc inside) (f.store.newList_extends _) ?_
      rintro cell (knew | rfl)
      · exact .inl knew
      · exact .inr ⟨by simp [Store.newList, Store.alloc], ih.shut.fresh (Nat.le_refl _)⟩
  | @ref known' f name pointer reaches found ih =>
      simp only [Bindings.ref?, Option.bind_eq_bind, Option.bind_eq_some_iff] at found
      obtain ⟨b, bound, refers⟩ := found
      obtain ⟨key, member⟩ := lookup?_mem bound
      refine ih.extend ih.shut (.refl _) ?_
      rintro cell (knew | named)
      · exact .inl knew
      · refine .inr ?_
        have own := ih.own _ member
        unfold Binding.ref? at refers
        split at refers
        · next type place content =>
            cases refers
            cases named
            simpa only [content, Content.Sealed] using own
        · cases refers

/-- What the routine can do to one name: set it, and assign directly inside a collection it has given. -/
inductive Edits (name : Text) (given : Value) (start : Frame) : Frame → Prop
  | start : Edits name given start start
  | set {f f' : Frame} {value : Value} {outcome : Except SetRefusal Bool}
      (edits : Edits name given start f) (done : f.act (.set name value) = .ok (outcome, f')) :
      Edits name given start f'
  | assign {f : Frame} {step : Store.Step} {value : Value} {store : Store}
      (edits : Edits name given start f) (done : f.store.assign? given step value = some store) :
      Edits name given start { f with store }

/-- A name whose binding owns its value. -/
def Owns (f : Frame) (name : Text) : Prop :=
  ∃ b value, f.bindings.entries.get? name = some b ∧ b.content = .own value

theorem Owns.set (owns : f.Owns name) {outcome : Except SetRefusal Bool}
    (done : f.act (.set name value) = .ok (outcome, f')) : f'.Owns name ∧ f'.store = f.store := by
  obtain ⟨b, old, found, owned⟩ := owns
  rcases eq_or_put_of_act_set done with rfl | ⟨key, c, c', after, resolved, other, changed, rfl⟩
  · exact ⟨⟨b, old, found, owned⟩, rfl⟩
  · cases (Bindings.resolve?_of_get? found).symm.trans resolved
    cases found.symm.trans other
    cases (Binding.set_changes changed).2 with
    | saved refers => cases owned.symm.trans refers
    | shared shows => cases owned.symm.trans shows
    | own _ => exact ⟨⟨_, value, Entries.get?_put_self .., rfl⟩, rfl⟩

/-- Nothing done to one name reaches cells before those of the collection it has given. -/
theorem Edits.keeps {given : Value} {limit : Nat} (edits : Edits name given start f)
    (owns : start.Owns name) (apart : ∀ cell, given.collection? = some cell → limit ≤ cell) :
    f.Owns name ∧ ∀ cell, cell < limit → f.store.cells[cell]? = start.store.cells[cell]? := by
  induction edits with
  | start => exact ⟨owns, fun _ _ => rfl⟩
  | set edits done ih =>
      obtain ⟨still, same⟩ := ih.1.set done
      exact ⟨still, same ▸ ih.2⟩
  | assign edits done ih =>
      obtain ⟨cell, named, assigns⟩ := Store.assign?_assigns done
      refine ⟨ih.1, fun other early => ?_⟩
      have different : other ≠ cell := Nat.ne_of_lt (Nat.lt_of_lt_of_le early (apart cell named))
      exact (assigns.others other different).trans (ih.2 other early)

/-- A name is isolated from the caller, whose storage before the call is `before`. The name gave `value`
right after the call, and `given` is the storage then. -/
structure Isolates (before : Store) (start : Frame) (name : Text) (value : Value) (given : Store) :
    Prop where
  /-- What the routine does to the name and to what it gave does not reach the caller. -/
  edits : ∀ f, Edits name value { start with store := given } f →
    ∀ cell, cell < before.cells.size → f.store.cells[cell]? = before.cells[cell]?
  /-- What the caller does with its storage does not reach the name. -/
  uses : ∀ known store, start.store.Uses (fun cell => cell < before.cells.size) known store →
    ∃ later after, start.bindings.get? store name = .ok (some (later, after)) ∧
      after.surface later = given.surface value
  /-- A read-only name gives the same whatever anyone does. -/
  reaches : start.bindings.mode? name = some .readOnly →
    ∀ known f, start.Reaches (fun cell => cell < before.cells.size) known f →
      ∃ later after, f.bindings.get? f.store name = .ok (some (later, after)) ∧
        after.surface later = given.surface value

end Frame

/-- Arguments, and the variables of a scope, in valid storage. -/
structure Store.Provides (store : Store) (args : View) (scope : Scope) : Prop
    extends store.Passes args where
  placed : args.cell < store.cells.size
  outer : scope.Within fun cell => cell < store.cells.size

namespace Plan

variable {settings : PlanOptions} {s : Signature} {plan : Plan} {context : Context} {site : Site}
  {store : Store} {args : View} {bindings : Bindings} {after : Session}

theorem call_conceals (compiled : (compile s settings).outcome = .ok plan) (wellFormed : s.WellFormed)
    (confined : settings.Confined) (provides : store.Provides args settings.scope)
    (called : plan.call context site store args = (.ok bindings, after)) :
    Frame.Conceals (Binding.HiddenIn bindings.entries) (fun cell => cell < store.cells.size)
      ⟨bindings, args, after.store⟩ ⟨bindings, args, after.store⟩ := by
  obtain ⟨sealing, own⟩ := call_seals compiled wellFormed confined provides.toPasses provides.placed
    provides.outer called
  exact ⟨sealing.shut, fun _ there => sealing.shown there, own, .refl _, fun _ _ found _ => found⟩

/-- Parameters that are copied or read-only are isolated from the caller, wherever their values come
from: arguments, a tail, or a default. -/
theorem copies_are_isolated {options : AssemblyOptions} (assembled : s.Assembled options)
    (compiled : (compile s settings).outcome = .ok plan) (confined : settings.Confined)
    (provides : store.Provides args settings.scope)
    (called : plan.call context site store args = (.ok bindings, after)) {p : Param}
    (declared : p ∈ s.params) (unaliased : bindings.mode? p.name ≠ some .alias) :
    ∃ value given, bindings.get? after.store p.name = .ok (some (value, given)) ∧
      Frame.Isolates store ⟨bindings, args, after.store⟩ p.name value given := by
  have wellFormed := assembled.wellFormed
  have reads := call_reads compiled wellFormed confined.allocates provides.toPasses called
  obtain ⟨origin, member⟩ := (Signature.mem_params_iff (store.items args)).mp declared
  obtain ⟨default?, b, found, bound⟩ := reads.found member
  have looked := Bindings.lookup?_of_get? found
  have mode : b.mode ≠ .alias := by simpa [Bindings.mode?, looked] using unaliased
  obtain ⟨shown, owned, fresh⟩ := bound.owned mode
  -- The value is in a cell that the call has added: the routine reaches no earlier one from there, the
  -- caller none of those the call has added, and neither a collection that is read-only.
  refine ⟨_, _, Bindings.get?_own found owned after.store, ?_, ?_, ?_⟩
  · intro f edits cell early
    have apart : ∀ cell, (Binding.give b.mode after.store shown).1.collection? = some cell →
        store.cells.size ≤ cell := by
      intro cell named
      rcases Binding.give_cell named with own | new
      · exact (fresh cell own).1
      · exact Nat.le_trans reads.kept.size_le new
    have kept := reads.kept.trans (Binding.give_extends b.mode after.store shown)
    exact ((edits.keeps ⟨b, shown, found, owned⟩ apart).2 cell early).trans (kept.cell_eq early)
  · intro known current uses
    obtain ⟨_, retains⟩ := uses.hides (reads.kept.hides provides.valid)
    exact ⟨_, _, Bindings.get?_own found owned current, Binding.give_surface fun cell named =>
      retains.same cell (fresh cell named)⟩
  · intro readOnly known f reaches
    have fixed : b.mode = .readOnly := by simpa [Bindings.mode?, looked] using readOnly
    have conceals := reaches.conceals (call_conceals compiled wellFormed confined provides called)
    have still := conceals.fixed p.name b found fixed
    refine ⟨_, _, Bindings.get?_own still owned f.store, Binding.give_surface fun cell named => ?_⟩
    refine conceals.retains.same cell ⟨_, Entries.mem_of_get? found, ?_⟩
    simpa [Content.hidden?, owned, fixed] using named

/-- An engine whose defaults are the variable `x` itself, in the same storage. -/
def referring : Engine where
  compile source _ := .ok { source, eval := fun store vars => .ok ((vars.get? "x").getD .null, store) }

theorem referring_confined : referring.Confined := by
  intro source visible e compiled store vars value later run known _ within
  cases compiled
  cases run
  refine ⟨.refl store, fun cell named => .inl ?_⟩
  cases found : vars.get? "x" with
  | none => simp [found, Value.null, Value.cell?] at named
  | some x =>
      rw [found] at named
      exact within _ (Entries.mem_of_get? found) cell named

/-- A read-only parameter whose default is an alias. -/
def defaultSample : Signature where
  text := "$x is alias, $y is ro = $x"
  positional := [
    { name := "x", traits := ["alias"], index := some 0 },
    { name := "y", traits := ["ro"], defaultSource := some "$x", optional := true, index := some 1 }]

/-- One argument, a list of numbers with one item. -/
def defaultStore : Store where
  cells := #[.list [.list ⟨1, 0, 1⟩ (.int .int)], .list [.plain (.int .int 7)]]

theorem copies_are_isolated_default :
    Signature.parse "$x is alias, $y is ro = $x" {} = .ok defaultSample ∧
    ∃ plan, (compile defaultSample { engine := some referring }).outcome = .ok plan ∧
    ∃ bindings after, plan.call [] {} defaultStore ⟨0, 0, 1⟩ = (.ok bindings, after) ∧
    ∃ value given, bindings.get? after.store "y" = .ok (some (value, given)) ∧
      Frame.Isolates defaultStore ⟨bindings, ⟨0, 0, 1⟩, after.store⟩ "y" value given := by
  have parsed : Signature.parse "$x is alias, $y is ro = $x" {} = .ok defaultSample := by rfl
  obtain ⟨plan, compiled, bindings, after, called, mode⟩ :
      ∃ plan, (compile defaultSample { engine := some referring }).outcome = .ok plan ∧
      ∃ bindings after, plan.call [] {} defaultStore ⟨0, 0, 1⟩ = (.ok bindings, after) ∧
      bindings.mode? "y" = some .readOnly :=
    ⟨_, rfl, _, _, rfl, rfl⟩
  have confined : PlanOptions.Confined { engine := some referring } := by
    intro engine chosen
    cases chosen
    exact referring_confined
  have provides : defaultStore.Provides ⟨0, 0, 1⟩ (PlanOptions.scope { engine := some referring }) :=
    { toPasses := by decide, placed := by decide, outer := .static (by simp) }
  have declared : { name := "y", traits := ["ro"], defaultSource := some "$x", optional := true
                    index := some 1 } ∈ defaultSample.params := List.mem_cons_of_mem _ List.mem_cons_self
  exact ⟨parsed, plan, compiled, bindings, after, called, copies_are_isolated
    (Signature.parse_assembled parsed) compiled confined provides called declared (by simp [mode])⟩

end Plan
end CallPlan
