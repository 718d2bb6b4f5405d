import CallPlan.Proofs.Plan.Isolation
import CallPlan.Proofs.Plan.Lending
import CallPlan.Proofs.Plan.Renaming
import CallPlan.Proofs.Plan.Visibility

/-!
Calls of one plan do not see each other. Whatever has been called, set and assigned before, a call goes as
it would have gone first, as long as no aliased parameter was handed one of the scope's own collections as
its default. Where one was, assigning inside it changes the default of later calls.
-/

namespace CallPlan

/-- What can be seen of a binding, with its value read to a depth. -/
structure Sight where
  name : Text
  mode? : Option Mode
  supplied : Bool
  value : Datum

/-- What can be seen of the bindings of a call, in binding order. -/
def Bindings.sights (b : Bindings) (store : Store) (depth : Nat) : Except Fault (List Sight) := do
  let (values, store) ← b.values store
  return values.map fun (name, value) =>
    { name, mode? := b.mode? name, supplied := b.supplied name, value := store.readTo depth value }

/-- What can be seen of a call: its error, or its bindings. -/
def Plan.sights (plan : Plan) (context : Context) (site : Site) (store : Store) (args : View)
    (depth : Nat) : Except BindFailure (Except Fault (List Sight)) :=
  match plan.call context site store args with
  | (.ok bindings, after) => .ok (bindings.sights after.store depth)
  | (.error failure, _) => .error failure

namespace Bindings

variable {ρ : Nat → Nat} {store other : Store}

/-- Bindings look the same under other numbers of cells. -/
theorem sights_rename (renames : store.Renames ρ other) (b : Bindings) (depth : Nat) :
    (b.rename ρ).sights other depth = b.sights store depth := by
  have read := valuesOf_rename renames b.entries
  simp only [sights, values, mode?_rename, supplied_rename]
  change valuesOf other (b.rename ρ).entries >>= _ = _
  simp only [rename]
  generalize valuesOf store b.entries = left at read ⊢
  generalize valuesOf other (b.entries.mapValues (Binding.rename ρ)) = right at read ⊢
  cases read with
  | error f => rfl
  | @ok result result' results =>
      simp only [except_ok_bind, except_pure, Except.ok.injEq, results.1, Entries.mapValues,
        List.map_map]
      refine List.map_congr_left fun entry _ => ?_
      simp only [Function.comp_apply, results.2.readTo]

/-- No aliased parameter was handed a collection from before the limit as its default. -/
def OwnsDefaults (b : Bindings) (store : Store) (limit : Nat) : Prop :=
  ∀ name value after, b.mode? name = some .alias → b.supplied name = false →
    b.get? store name = .ok (some (value, after)) → value.Beyond limit

theorem OwnsDefaults.of_unaliased {b : Bindings} {limit : Nat}
    (unaliased : .alias ∉ b.entries.map (·.2.mode)) : b.OwnsDefaults store limit := by
  intro name value after aliased
  simp only [mode?, lookup?, Option.bind_eq_bind, Option.map_eq_some_iff, Option.bind_eq_some_iff] at aliased
  obtain ⟨binding, ⟨key, _, found⟩, mode⟩ := aliased
  exact (unaliased (List.mem_map.mpr ⟨_, Entries.mem_of_get? found, mode⟩)).elim

theorem OwnsDefaults.of_get {b : Bindings} {limit : Nat} (owns : b.OwnsDefaults store limit)
    {key : Text} {binding : Binding} (found : b.entries.get? key = some binding) :
    ∀ value after, binding.mode = .alias → binding.supplied = false →
      binding.get store = .ok (value, after) → value.Beyond limit := by
  intro value after aliased missing got
  have looked := lookup?_of_get? found
  refine owns key value after ?_ ?_ ?_
  · simp [mode?, looked, aliased]
  · simp [supplied, looked, missing]
  · rw [get?_of_lookup? looked, got]
    rfl

end Bindings

/-- The engine of a plan evaluates defaults as functions of their variables. -/
def PlanOptions.Functional (settings : PlanOptions) : Prop :=
  ∀ engine, settings.engine = some engine → engine.Functional

theorem Binding.nothingOf_beyond {limit : Nat} (type : HostType) : (nothingOf type).Beyond limit := by
  intro cell named
  unfold nothingOf at named
  split at named <;> cases named

namespace Plan

/-- What can have come about since a plan was compiled, over the storage of its scope: the bindings that
are in use, the values that these have given, and all storage. Calls are on arguments with storage of
their own. What the routines set and assign may be anything but the collections of the scope. -/
inductive History (plan : Plan) (base : Store) : List Bindings → List Value → Store → Prop
  | start : History plan base [] [] base
  | bound {live : List Bindings} {given : List Value} {store : Store} {context : Context} {site : Site}
      {passing : Passing} {bindings : Bindings} {after : Session}
      (earlier : History plan base live given store)
      (called : plan.call context site (store.receive passing) (passing.within store) =
        (.ok bindings, after))
      (own : bindings.OwnsDefaults after.store base.cells.size) :
      History plan base (bindings :: live) given after.store
  | refused {live : List Bindings} {given : List Value} {store : Store} {context : Context}
      {site : Site} {passing : Passing} {failure : BindFailure} {after : Session}
      (earlier : History plan base live given store)
      (called : plan.call context site (store.receive passing) (passing.within store) =
        (.error failure, after)) :
      History plan base live given after.store
  | made {live : List Bindings} {given : List Value} {store : Store}
      (earlier : History plan base live given store) (passing : Passing) :
      History plan base live given (store.receive passing)
  | set {first rest : List Bindings} {b b' : Bindings} {given : List Value} {store after : Store}
      {name : Text} {value : Value} (earlier : History plan base (first ++ b :: rest) given store)
      (done : b.set store name value = .ok (b', after)) (beyond : value.Beyond base.cells.size)
      (items : ∀ items, Binding.items? store value = some items →
        ∀ item ∈ items, item.Beyond base.cells.size) :
      History plan base (first ++ b' :: rest) given after
  | get {live : List Bindings} {b : Bindings} {given : List Value} {store after : Store} {name : Text}
      {value : Value} (earlier : History plan base live given store) (member : b ∈ live)
      (got : b.get? store name = .ok (some (value, after))) :
      History plan base live (value :: given) after
  | assigned {live : List Bindings} {given : List Value} {store after : Store} {collection value : Value}
      {step : Store.Step} (earlier : History plan base live given store) (member : collection ∈ given)
      (done : store.assign? collection step value = some after)
      (beyond : value.Beyond base.cells.size) :
      History plan base live given after

/-- The storage of the scope is as it was, and nothing that is in use leads to a collection of it. -/
structure Separate (base : Store) (live : List Bindings) (given : List Value) (store : Store) : Prop where
  kept : base.Extends store
  clear : ∀ b ∈ live, ∀ key binding, b.entries.get? key = some binding →
    binding.content.Clear store base.cells.size
  beyond : ∀ value ∈ given, value.Beyond base.cells.size

namespace Separate

variable {base store after : Store} {live first rest : List Bindings} {given : List Value}
  {b b' : Bindings} {name : Text} {value : Value}

theorem extend (separate : Separate base live given store) (added : store.Extends after) :
    Separate base live given after where
  kept := separate.kept.trans added
  clear b member key binding found :=
    (separate.clear b member key binding found).map fun _ clear => clear.extend added
  beyond := separate.beyond

theorem assign {cell : Nat} {values : List Value} (separate : Separate base live given store)
    (assigns : store.Assigns cell values after) (late : base.cells.size ≤ cell)
    (beyond : ∀ value ∈ values, value.Beyond base.cells.size) : Separate base live given after where
  kept := separate.kept.assign assigns late
  clear b member key binding found :=
    (separate.clear b member key binding found).map fun _ clear => clear.assign assigns beyond
  beyond := separate.beyond

theorem put (separate : Separate base (first ++ b :: rest) given store)
    (clear : ∀ key binding, b'.entries.get? key = some binding →
      binding.content.Clear store base.cells.size) :
    Separate base (first ++ b' :: rest) given store where
  kept := separate.kept
  clear other member key binding found := by
    rcases List.mem_append.mp member with early | late
    · exact separate.clear other (List.mem_append_left _ early) key binding found
    · rcases List.mem_cons.mp late with same | later
      · exact clear key binding (same ▸ found)
      · exact separate.clear other (List.mem_append_right _ (List.mem_cons_of_mem _ later)) key binding found
  beyond := separate.beyond

/-- Setting a name assigns to storage of its binding only, and leaves the binding clear. -/
theorem set (separate : Separate base (first ++ b :: rest) given store)
    (done : b.set store name value = .ok (b', after)) (beyond : value.Beyond base.cells.size)
    (items : ∀ items, Binding.items? store value = some items →
      ∀ item ∈ items, item.Beyond base.cells.size) :
    Separate base (first ++ b' :: rest) given after := by
  obtain ⟨key, binding, binding', found, changed, rfl⟩ := Bindings.set_ok done
  have member : b ∈ first ++ b :: rest := List.mem_append_right _ List.mem_cons_self
  have clear := separate.clear b member key binding found
  -- Whatever the binding has become, the others of its call are as clear as they were.
  have finish : Separate base (first ++ b :: rest) given after →
      binding'.content.Clear after base.cells.size →
      Separate base (first ++ { b with entries := b.entries.put key binding' } :: rest) given after := by
    intro later own
    refine later.put fun other bound known => ?_
    simp only [Entries.get?_put] at known
    split at known
    · cases known
      exact own
    · exact later.clear b member other bound known
  cases (Binding.set_changes changed).2 with
  | @saved type place kept refers given =>
      rw [refers] at clear
      have inside : kept.Beyond base.cells.size := by
        rcases given with rfl | rfl
        · exact Binding.nothingOf_beyond type
        · exact beyond
      have assigns := store.save_assigns place kept
      have later := separate.assign assigns clear.late (by simpa using inside)
      refine finish later ?_
      rw [refers]
      exact clear.assign assigns (by simpa using inside)
  | @shared view values shows given =>
      rw [shows] at clear
      have assigns := store.saveAll_assigns view 0 values
      have later := separate.assign assigns clear.late (items values given)
      refine finish later ?_
      rw [shows]
      exact clear.assign assigns (items values given)
  | own owned => exact finish separate beyond

theorem get (separate : Separate base live given store) (member : b ∈ live)
    (got : b.get? store name = .ok (some (value, after))) :
    Separate base live (value :: given) after := by
  obtain ⟨key, binding, found, read⟩ := Bindings.get?_ok got
  have later := separate.extend (Binding.extends_of_get read)
  refine ⟨later.kept, later.clear, fun other listed => ?_⟩
  rcases List.mem_cons.mp listed with rfl | earlier
  · exact Binding.get_beyond (separate.clear b member key binding found) separate.kept.size_le read
  · exact later.beyond other earlier

end Separate

variable {plan : Plan} {base store : Store} {live : List Bindings} {given : List Value}

/-- Nothing that can have come about since a plan was compiled reaches the storage of its scope. -/
theorem History.separate (tame : Call.Tame plan.steps) (history : plan.History base live given store) :
    Separate base live given store := by
  induction history with
  | start => exact ⟨.refl base, by simp, by simp⟩
  | @bound live given store context site passing bindings after earlier called own ih =>
      -- A binding is clear by itself, or it was lent a default, which `own` says is no scope's collection.
      have enough := ih.kept.size_le
      obtain ⟨added, lent⟩ := call_adds tame (Store.receive_clear passing enough passing.placed)
        (fun _ passed _ named => Store.passed_clear passing enough passed named) called
      have later := ih.extend ((store.receive_extends passing).trans added)
      refine ⟨later.kept, fun b member key binding found => ?_, later.beyond⟩
      rcases List.mem_cons.mp member with rfl | old
      · exact (lent _ rfl _ (Entries.mem_of_get? found)).to_clear (own.of_get found)
      · exact later.clear b old key binding found
  | @refused live given store context site passing failure after earlier called ih =>
      have enough := ih.kept.size_le
      obtain ⟨added, _⟩ := call_adds tame (Store.receive_clear passing enough passing.placed)
        (fun _ passed _ named => Store.passed_clear passing enough passed named) called
      exact ih.extend ((store.receive_extends passing).trans added)
  | made earlier passing ih => exact ih.extend (Store.receive_extends _ passing)
  | set earlier done beyond items ih => exact ih.set done beyond items
  | get earlier member got ih => exact ih.get member got
  | assigned earlier member done beyond ih =>
      obtain ⟨cell, named, assigns⟩ := Store.assign?_assigns done
      exact ih.assign assigns (ih.beyond _ member cell named) (by simpa using beyond)

variable {settings : PlanOptions} {s : Signature} {data : Entries Value}

/-- Calls of one plan are independent. After any history in which no aliased parameter was handed a
collection of the scope as its default, a call shows what it would have shown if it had been made first,
on the storage the plan was compiled with: the same error, or the same names, modes and values. -/
theorem calls_are_independent (compiled : (compile s settings).outcome = .ok plan)
    (static : settings.scope = .static data) (functional : settings.Functional)
    (closed : base.Closed fun cell => cell < base.cells.size)
    (outer : ∀ entry ∈ data, entry.2.Within fun cell => cell < base.cells.size)
    (history : plan.History base live given store) (context : Context) (site : Site) (passing : Passing)
    (depth : Nat) :
    plan.sights context site (store.receive passing) (passing.within store) depth =
      plan.sights context site (base.receive passing) (passing.within base) depth := by
  have tame : Call.Tame plan.steps := steps_tame compiled fun engine chosen source visible e found =>
    (functional engine chosen source visible e found).allocates
  have equivariant : ∀ step ∈ plan.steps, ∀ e, step.default? = some e → e.Equivariant := by
    intro step member e found
    obtain ⟨engine, source, visible, chosen, made⟩ := default_of_engine compiled member found
    exact (functional engine chosen source visible e made).equivariant
  have kept := (history.separate tame).kept
  -- The history has only added cells to those of the scope: the call made first is this one with the
  -- cells past the scope's moved up, which keeps the arguments' shape and the scope's data.
  have renames := Store.receive_renames closed kept passing
  have moved : (passing.within base).rename
      (Store.moveUp base.cells.size (store.cells.size - base.cells.size)) = passing.within store :=
    congrArg (fun cell => { passing.args with cell }) (Store.moveUp_late kept.size_le _)
  have fixed : data.mapValues
      (Value.rename (Store.moveUp base.cells.size (store.cells.size - base.cells.size))) = data := by
    refine (List.map_congr_left fun entry member => ?_).trans (List.map_id data)
    rw [Value.rename_of_fixed fun cell named => Store.moveUp_early (outer entry member cell named)]
    rfl
  obtain ⟨-, -, scope⟩ := compile_fields compiled
  obtain ⟨alike, later⟩ := call_renames (scope.trans static) fixed equivariant renames context site
    (passing.within base)
  rw [moved] at alike later
  unfold sights
  generalize plan.call context site (base.receive passing) (passing.within base) = first at alike later ⊢
  generalize plan.call context site (store.receive passing) (passing.within store) = second at alike later ⊢
  obtain ⟨outcome, after⟩ := first
  obtain ⟨outcome', after'⟩ := second
  cases alike with
  | error failure => rfl
  | ok same =>
      subst same
      exact congrArg Except.ok (Bindings.sights_rename later _ depth)

theorem naming_functional : naming.Functional := by
  intro source visible e compiled
  simp only [naming] at compiled
  split at compiled
  · cases compiled
    refine ⟨?_, ?_⟩
    · intro store vars value after run
      cases run
      exact .refl store
    · intro ρ store other vars renames
      refine .ok ⟨?_, renames⟩
      rw [Entries.get?_mapValues]
      cases vars.get? source <;> rfl
  · cases compiled

/-- Lists in the scope, which a default may name: one of any values, and one of texts only. -/
def listStore : Store where
  cells := #[.list [.plain (.int64 1), .plain (.int64 2)], .list [.plain (.text "a"), .plain (.text "b")]]

def listSettings : PlanOptions where
  engine := some naming
  scope := .static [("list", .list ⟨0, 0, 2⟩), ("words", .list ⟨1, 0, 2⟩ .text)]

def copiedSample : Signature where
  text := "$x = $words"
  positional := [{ name := "x", defaultSource := some "$words", optional := true, index := some 0 }]

/-- A call has bound a copy of the list, and has assigned inside it. The next one sees the list as it was. -/
theorem calls_are_independent_copied :
    Signature.parse "$x = $words" {} = .ok copiedSample ∧
    ∃ plan, (compile copiedSample listSettings).outcome = .ok plan ∧
    ∃ live given store, plan.History listStore live given store ∧
      given.map (store.readTo 1) = [.list .text [.text "c", .text "b"]] ∧
      plan.sights [] {} (store.receive (.plain [])) ((Passing.plain []).within store) 1 =
        plan.sights [] {} (listStore.receive (.plain [])) ((Passing.plain []).within listStore) 1 := by
  have functional : listSettings.Functional := by
    intro engine chosen
    cases chosen
    exact naming_functional
  have closed : listStore.Closed fun cell => cell < listStore.cells.size :=
    Store.Valid.closed (by decide)
  have outer : ∀ entry ∈ [(("list" : Text), Value.list ⟨0, 0, 2⟩), ("words", .list ⟨1, 0, 2⟩ .text)],
      entry.2.Within fun cell => cell < listStore.cells.size := by
    intro entry member own named
    rcases List.mem_pair.mp member with rfl | rfl <;> cases named <;> decide
  obtain ⟨plan, compiled, bindings, after, called, mode, x, given, got, store, done, reads⟩ :
      ∃ plan, (compile copiedSample listSettings).outcome = .ok plan ∧
      ∃ bindings after, plan.call [] {} (listStore.receive (.plain []))
          ((Passing.plain []).within listStore) = (.ok bindings, after) ∧
        bindings.entries.map (·.2.mode) = [.copy] ∧
      ∃ x given, bindings.get? after.store "x" = .ok (some (x, given)) ∧
      ∃ store, given.assign? x (.index 0) (.plain (.text "c")) = some store ∧
        store.readTo 1 x = .list .text [.text "c", .text "b"] :=
    ⟨_, rfl, _, _, rfl, rfl, _, _, rfl,
      { cells := #[.list [.plain (.int64 1), .plain (.int64 2)],
          .list [.plain (.text "a"), .plain (.text "b")], .list [],
          .list [.plain (.text "c"), .plain (.text "b")]] }, rfl, rfl⟩
  have own : bindings.OwnsDefaults after.store listStore.cells.size := .of_unaliased (by simp [mode])
  have history : plan.History listStore [bindings] [x] store :=
    ((History.start.bound called own).get List.mem_cons_self got).assigned List.mem_cons_self done
      (fun _ named => nomatch named)
  exact ⟨by rfl, plan, compiled, _, _, store, history, by simp [reads],
    calls_are_independent compiled rfl functional closed outer history [] {} (.plain []) 1⟩

/-- An aliased parameter whose default is the list itself. -/
def lentSample : Signature where
  text := "$x is alias = $list"
  positional := [{ name := "x", traits := ["alias"], defaultSource := some "$list", optional := true
                   index := some 0 }]

/-- A call was handed the list itself as its default, and has assigned inside it. The next one sees that. -/
theorem calls_share_lent_defaults :
    Signature.parse "$x is alias = $list" {} = .ok lentSample ∧
    ∃ plan, (compile lentSample listSettings).outcome = .ok plan ∧
    ∃ bindings after x given store,
      plan.call [] {} (listStore.receive (.plain [])) ((Passing.plain []).within listStore) =
        (.ok bindings, after) ∧
      bindings.get? after.store "x" = .ok (some (x, given)) ∧
      given.assign? x (.index 0) (.plain (.int64 9)) = some store ∧
      plan.sights [] {} (listStore.receive (.plain [])) ((Passing.plain []).within listStore) 1 =
        .ok (.ok [{ name := "x", mode? := some .alias, supplied := false
                    value := .anyList [.int64 1, .int64 2] }]) ∧
      plan.sights [] {} (store.receive (.plain [])) ((Passing.plain []).within store) 1 =
        .ok (.ok [{ name := "x", mode? := some .alias, supplied := false
                    value := .anyList [.int64 9, .int64 2] }]) :=
  ⟨by rfl, _, rfl, _, _, _, _,
    { cells := #[.list [.plain (.int64 9), .plain (.int64 2)],
        .list [.plain (.text "a"), .plain (.text "b")], .list [], .variable (.list ⟨0, 0, 2⟩)] },
    rfl, rfl, rfl, rfl, rfl⟩

end Plan
end CallPlan
