import CallPlan.Proofs.Plan.Refinement
import CallPlan.Proofs.Plan.Setting

/-!
Aliased bindings are views of the caller's storage, whoever assigns to it and in whatever order. No
assignment adds or removes a place, so that what a binding refers to at first it refers to ever after.
-/

namespace CallPlan

namespace Binding

theorem Evolves.get_eq {b b' : Binding} (evolves : b.Evolves b')
    (aliased : ∀ value, b.content ≠ .own value) (store : Store) : b'.get store = b.get store := by
  rcases evolves.content with same | ⟨old, _, owned, _⟩
  · simp only [get, same, evolves.mode]
  · exact (aliased old owned).elim

end Binding

namespace Holds

variable {before after : Store} {rest : View} {mode : Mode} {p : Param}
  {default? : Option Expression} {index : Nat} {content : Content}

theorem of_slot (holds : Holds before after rest mode p default? (.argument index) content)
    (aliased : mode = .alias) (plain : p.refAlias = false) :
    content = .ref .any (rest.place index) ∧ index < rest.length := by
  cases holds with
  | slot _ _ within => exact ⟨rfl, within⟩
  | pointee _ reference _ => simp [plain] at reference
  | copied unaliased => contradiction

theorem of_pointee (holds : Holds before after rest mode p default? (.argument index) content)
    (aliased : mode = .alias) (reference : p.refAlias = true) :
    ∃ type place, content = .ref type place ∧
      (before.items rest)[index]? = some (.pointer type place) := by
  cases holds with
  | slot _ plain _ => simp [plain] at reference
  | pointee _ _ passed => exact ⟨_, _, rfl, passed⟩
  | copied unaliased => contradiction

theorem of_shared (holds : Holds before after rest mode p default? (.tail index) content)
    (aliased : mode = .alias) (array : p.sigil ≠ .hash) : content = .shared (rest.drop index) := by
  cases holds with
  | gathered hash => contradiction
  | shared => rfl
  | listed _ unaliased => contradiction

end Holds

namespace Frame

variable {start f f' : Frame} {name : Text} {value : Value}

/-- Lets actions happen one after the other, whether or not they are refused. -/
def run (f : Frame) : List Action → Except Fault Frame
  | [] => .ok f
  | action :: rest =>
      match f.act action with
      | .ok (_, f) => f.run rest
      | .error fault => .error fault

/-- A later state of a call: the same names, each with its binding as it has evolved, and storage that
holds something wherever it did. -/
structure Tracks (start f : Frame) : Prop where
  args : f.args = start.args
  rest : f.bindings.args = start.bindings.args
  keys : f.bindings.entries.keys = start.bindings.entries.keys
  each : ∀ key b, start.bindings.entries.get? key = some b →
    ∃ b', f.bindings.entries.get? key = some b' ∧ b.Evolves b'
  keeps : start.store.Keeps f.store

theorem Tracks.refl (f : Frame) : f.Tracks f :=
  ⟨rfl, rfl, rfl, fun _ b found => ⟨b, found, .refl b⟩, .refl _⟩

theorem Tracks.save (tracks : start.Tracks f) {place : Place}
    (held : (start.store.load? place).isSome) (value : Value) :
    start.Tracks { f with store := f.store.save place value } where
  args := tracks.args
  rest := tracks.rest
  keys := tracks.keys
  each := tracks.each
  keeps := tracks.keeps.trans (Store.save_keeps (by rwa [tracks.keeps.held]) value)

theorem Tracks.put (tracks : start.Tracks f) {key : Text} {b b' : Binding} {after : Store}
    (found : f.bindings.entries.get? key = some b) (written : b.Written f.store value b' after) :
    start.Tracks (f.put key b' after) where
  args := tracks.args
  rest := tracks.rest
  keys := (keys_put found).trans tracks.keys
  each other c first := by
    obtain ⟨c', known, evolves⟩ := tracks.each other c first
    simp only [Frame.put, Entries.get?_put]
    by_cases same : key = other
    · subst same
      cases known.symm.trans found
      exact ⟨b', by simp, evolves.trans written.evolves⟩
    · exact ⟨c', by simp [same, known], evolves⟩
  keeps := tracks.keeps.trans written.keeps

theorem Tracks.steady (tracks : start.Tracks f) (steady : start.Steady) : f.Steady := by
  intro key b found
  have known : key ∈ start.bindings.entries.keys := by
    rw [← tracks.keys, ← Entries.has_iff_mem_keys]
    exact Entries.has_iff.mpr ⟨b, found⟩
  obtain ⟨b₀, first⟩ := Entries.has_iff.mp (Entries.has_iff_mem_keys.mpr known)
  obtain ⟨b', same, evolves⟩ := tracks.each key b₀ first
  cases found.symm.trans same
  exact (steady key b₀ first).evolve evolves tracks.keeps

/-- What may happen: names are set, and the caller assigns its arguments and through pointers to storage
that is there. -/
def Assigns (store : Store) (args : View) : Action → Prop
  | .set .. => True
  | .assignArgument index _ => index < args.length
  | .assignThrough place _ => (store.load? place).isSome
  | _ => False

theorem Tracks.act (tracks : start.Tracks f) (steady : start.Steady)
    (shown : (start.store.items start.args).length = start.args.length) {action : Action}
    (allowed : Assigns start.store start.args action) :
    ∃ outcome f', f.act action = .ok (outcome, f') ∧ start.Tracks f' := by
  cases action with
  | set name value =>
      rcases (tracks.steady steady).set_cases name value with ⟨_, refusal, refused⟩ |
        ⟨_, key, b, b', after, _, found, written, done⟩
      · exact ⟨_, f, refused, tracks⟩
      · exact ⟨_, _, done, tracks.put found written⟩
  | assignArgument index value =>
      have saved := tracks.save (Store.held_of_shown shown allowed) value
      rw [← tracks.args] at saved
      exact ⟨_, _, rfl, saved⟩
  | assignThrough place value => exact ⟨_, _, rfl, tracks.save allowed value⟩
  | assignInside name path value => exact allowed.elim
  | assignInsideArgument index path value => exact allowed.elim
  | assignInsideArguments path value => exact allowed.elim

theorem Tracks.run (tracks : start.Tracks f) (steady : start.Steady)
    (shown : (start.store.items start.args).length = start.args.length) {actions : List Action}
    (allowed : ∀ action ∈ actions, Assigns start.store start.args action) :
    ∃ f', f.run actions = .ok f' ∧ start.Tracks f' := by
  induction actions generalizing f with
  | nil => exact ⟨f, rfl, tracks⟩
  | cons action rest ih =>
      obtain ⟨outcome, middle, done, reached⟩ :=
        tracks.act steady shown (allowed action List.mem_cons_self)
      obtain ⟨last, finished, tracked⟩ :=
        ih reached fun later member => allowed later (List.mem_cons_of_mem _ member)
      exact ⟨last, by simpa only [Frame.run, done] using finished, tracked⟩

/-- A binding of the caller's storage gives in a later state what that storage holds then. -/
theorem Tracks.get? (tracks : start.Tracks f) {key : Text} {b : Binding}
    (found : start.bindings.entries.get? key = some b) (aliased : ∀ value, b.content ≠ .own value) :
    f.bindings.get? f.store key = (b.get f.store).map some := by
  obtain ⟨b', known, evolves⟩ := tracks.each key b found
  rw [Bindings.get?_of_lookup? (Bindings.lookup?_of_get? known), evolves.get_eq aliased]

theorem Tracks.get?_ref (tracks : start.Tracks f) (steady : start.Steady) {key : Text} {b : Binding}
    {type : HostType} {place : Place} (found : start.bindings.entries.get? key = some b)
    (mode : b.mode = .alias) (refers : b.content = .ref type place) :
    ∃ value, f.bindings.get? f.store key = .ok (some (value, f.store)) ∧
      f.store.load? place = some value := by
  have standing := steady key b found
  simp only [Binding.Standing, refers, ← tracks.keeps.held] at standing
  obtain ⟨value, loaded⟩ := Option.isSome_iff_exists.mp standing
  refine ⟨value, ?_, loaded⟩
  rw [tracks.get? found (by simp [refers]), Binding.get_ref refers loaded]
  simp [Binding.give, mode, Except.map]

theorem Tracks.get?_shared (tracks : start.Tracks f) {key : Text} {b : Binding} {view : View}
    (found : start.bindings.entries.get? key = some b) (shows : b.content = .shared view) :
    f.bindings.get? f.store key = .ok (some (.list view, f.store)) := by
  rw [tracks.get? found (by simp [shows]), Binding.get_shared shows]
  rfl

/-- Every alias that something was passed for shows the storage of the caller as it is now. `before` is
the storage at the time of the call. -/
structure Mirrors (s : Signature) (before : Store) (f : Frame) : Prop where
  slot : ∀ p index, (p, .argument index) ∈ s.origins (before.items f.args) →
    Mode.ofParam p = .alias → p.refAlias = false →
    ∃ value, f.bindings.get? f.store p.name = .ok (some (value, f.store)) ∧
      (s.rest (f.store.items f.args))[index]? = some value
  /-- The pointer is the one that was passed, also when the caller has assigned its slot since. -/
  pointee : ∀ p index, (p, .argument index) ∈ s.origins (before.items f.args) →
    Mode.ofParam p = .alias → p.refAlias = true →
    ∃ type place value, (s.rest (before.items f.args))[index]? = some (.pointer type place) ∧
      f.bindings.get? f.store p.name = .ok (some (value, f.store)) ∧ f.store.load? place = some value
  tail : ∀ p index, (p, .tail index) ∈ s.origins (before.items f.args) →
    Mode.ofParam p = .alias → p.sigil ≠ .hash →
    ∃ view, f.bindings.get? f.store p.name = .ok (some (.list view, f.store)) ∧
      f.store.items view = (s.rest (f.store.items f.args)).drop index
  arguments : f.bindings.arguments f.store = s.rest (f.store.items f.args)

end Frame

namespace Signature.Reads

variable {s : Signature} {settings : PlanOptions} {before after : Store} {args : View} {b : Bindings}

theorem items_args (reads : s.Reads settings before after args b) (store : Store) :
    store.items b.args = s.rest (store.items args) := by
  rw [reads.rest, Store.items_drop, Signature.rest]
  cases s.invocant <;> simp

theorem shown (reads : s.Reads settings before after args b) (passes : before.Passes args) :
    (before.items b.args).length = b.args.length := by
  rw [reads.rest, Store.items_drop, List.length_drop, passes.shown]
  rfl

theorem found (reads : s.Reads settings before after args b) {p : Param} {origin : Origin}
    (member : (p, origin) ∈ s.origins (before.items args)) : ∃ default? binding,
    b.entries.get? p.name = some binding ∧
      Bound before after b.args (.ofParam p) p default? origin binding := by
  obtain ⟨default?, binding, _, looked, bound⟩ := reads.bound p origin member
  have declared := (mem_params_iff (before.items args)).mpr ⟨origin, member⟩
  have listed : p.name ∈ b.names := by
    rw [reads.names, List.mem_append, List.mem_map]
    exact .inr ⟨p, declared, rfl⟩
  obtain ⟨other, found⟩ := Entries.has_iff.mp (Entries.has_iff_mem_keys.mpr listed)
  rw [Bindings.lookup?_of_get? found] at looked
  exact ⟨default?, binding, found.trans looked, bound⟩

theorem steady (reads : s.Reads settings before after args b) (passes : before.Passes args) :
    Frame.Steady ⟨b, args, after⟩ := by
  intro key binding entry
  have listed : key ∈ b.names := Entries.has_iff_mem_keys.mp (Entries.has_iff.mpr ⟨binding, entry⟩)
  rw [reads.names, List.mem_append, Option.mem_toList, List.mem_map] at listed
  rcases listed with declared | ⟨p, declared, rfl⟩
  · obtain ⟨value, _, looked⟩ := reads.invocantBound key declared
    cases (Bindings.lookup?_of_get? entry).symm.trans looked
    trivial
  · obtain ⟨origin, member⟩ := (mem_params_iff (before.items args)).mp declared
    obtain ⟨default?, own, looked, bound⟩ := reads.found member
    cases entry.symm.trans looked
    unfold Binding.Standing
    split
    · next type place refers =>
        obtain ⟨value, loaded⟩ :=
          bound.holds.readable reads.kept passes.valid (reads.shown passes) refers
        rw [loaded, Option.isSome_some]
    · next view shows =>
        have holds := shows ▸ bound.holds
        cases holds
        rw [Store.items_drop, List.length_drop, reads.kept.items_of_shown (reads.shown passes),
          reads.shown passes]
        rfl
    · trivial

theorem mirrors (reads : s.Reads settings before after args b) (passes : before.Passes args)
    {f : Frame} (tracks : Frame.Tracks ⟨b, args, after⟩ f) : f.Mirrors s before := by
  have steady := reads.steady passes
  have same : f.args = args := tracks.args
  have rest : f.store.items b.args = s.rest (f.store.items args) := reads.items_args f.store
  -- Each kind of alias keeps naming the same storage, so it is read there at any later state.
  constructor
  case slot =>
    intro p index member aliased plain
    rw [same] at member ⊢
    obtain ⟨default?, binding, entry, bound⟩ := reads.found member
    obtain ⟨refers, within⟩ := bound.holds.of_slot aliased plain
    obtain ⟨value, got, loaded⟩ :=
      tracks.get?_ref steady entry (bound.mode_eq.trans aliased) refers
    rw [Store.load?_place within, rest] at loaded
    exact ⟨value, got, loaded⟩
  case pointee =>
    intro p index member aliased reference
    rw [same] at member ⊢
    obtain ⟨default?, binding, entry, bound⟩ := reads.found member
    obtain ⟨type, place, refers, passed⟩ := bound.holds.of_pointee aliased reference
    obtain ⟨value, got, loaded⟩ :=
      tracks.get?_ref steady entry (bound.mode_eq.trans aliased) refers
    rw [reads.items_args] at passed
    exact ⟨type, place, value, passed, got, loaded⟩
  case tail =>
    intro p index member aliased array
    rw [same] at member ⊢
    obtain ⟨default?, binding, entry, bound⟩ := reads.found member
    refine ⟨_, tracks.get?_shared entry (bound.holds.of_shared aliased array), ?_⟩
    rw [Store.items_drop, rest]
  case arguments =>
    rw [Bindings.arguments, tracks.rest, same]
    exact rest

end Signature.Reads

namespace Plan

/-- After a call has bound, names may be set and the caller may assign its arguments and through its
pointers, in any order: aliases show the caller's storage as it is at every point, and setting a name
assigns to the storage of its binding only or is refused. -/
theorem aliases_show_storage {options : AssemblyOptions} {settings : PlanOptions} {s : Signature}
    {plan : Plan} {context : Context} {site : Site} {store : Store} {args : View} {bindings : Bindings}
    {after : Session} (assembled : s.Assembled options)
    (compiled : (compile s settings).outcome = .ok plan) (allocates : settings.Allocates)
    (passes : store.Passes args)
    (called : plan.call context site store args = (.ok bindings, after)) (actions : List Action)
    (allowed : ∀ action ∈ actions, Frame.Assigns after.store args action) :
    ∃ f : Frame, Frame.run ⟨bindings, args, after.store⟩ actions = .ok f ∧ f.Mirrors s store ∧
      ∀ name value, f.Sets name value := by
  have reads := call_reads compiled assembled.wellFormed allocates passes called
  have steady := reads.steady passes
  have shown : (after.store.items args).length = args.length := by
    rw [reads.kept.items_of_shown passes.shown, passes.shown]
  obtain ⟨f, done, tracks⟩ := (Frame.Tracks.refl ⟨bindings, args, after.store⟩).run steady shown allowed
  exact ⟨f, done, reads.mirrors passes tracks, (tracks.steady steady).sets⟩

/-- An alias, a reference, an alias that defaults to the first, and an aliased tail. -/
def aliasSample : Signature where
  text := "$x is alias, \\$out, $y is alias = $x, @rest is alias"
  positional := [
    { name := "x", traits := ["alias"], index := some 0 },
    { name := "out", refAlias := true, index := some 1 },
    { name := "y", traits := ["alias"], defaultSource := some "$x", optional := true, index := some 2 },
    { name := "rest", sigil := .array, slurpy := true, traits := ["alias"], index := some 3 }]

/-- Five arguments, of which the second points to a variable. -/
def aliasStore : Store where
  cells := #[.list [.null, .pointer .any (.variable 1), .null, .null, .null], .variable .null]

/-- The routine sets aliases and the tail, and the caller assigns the variable and an argument. -/
def aliasActions : List Action := [
  .set "x" (.plain (.text "a")), .assignThrough (.variable 1) (.plain (.text "b")),
  .set "y" (.plain (.text "c")), .set "rest" (.list ⟨0, 0, 2⟩), .assignArgument 0 (.plain (.text "d"))]

/-- Five arguments fill every parameter. With two of them the default is evaluated. -/
theorem aliases_show_storage_tail :
    Signature.parse "$x is alias, \\$out, $y is alias = $x, @rest is alias" {} = .ok aliasSample ∧
    ∃ plan, (compile aliasSample .starlark).outcome = .ok plan ∧ ∀ length ∈ [5, 2],
    ∃ bindings after, plan.call [] {} aliasStore ⟨0, 0, length⟩ = (.ok bindings, after) ∧
    ∃ f : Frame, Frame.run ⟨bindings, ⟨0, 0, length⟩, after.store⟩ aliasActions = .ok f ∧
      f.Mirrors aliasSample aliasStore ∧ ∀ name value, f.Sets name value := by
  have parsed : Signature.parse "$x is alias, \\$out, $y is alias = $x, @rest is alias" {} =
      .ok aliasSample := by rfl
  obtain ⟨plan, compiled, calls⟩ : ∃ plan, (compile aliasSample .starlark).outcome = .ok plan ∧
      ∀ length ∈ [5, 2], ∃ bindings after,
        plan.call [] {} aliasStore ⟨0, 0, length⟩ = (.ok bindings, after) ∧
        (after.store.load? (.variable 1)).isSome := by decide
  refine ⟨parsed, plan, compiled, fun length listed => ?_⟩
  obtain ⟨bindings, after, called, pointed⟩ := calls length listed
  have passes : ∀ length ∈ [5, 2], aliasStore.Passes ⟨0, 0, length⟩ := by decide
  have allowed : ∀ action ∈ aliasActions, Frame.Assigns after.store ⟨0, 0, length⟩ action := by
    intro action member
    simp only [aliasActions, List.mem_cons, List.not_mem_nil, or_false] at member
    rcases member with rfl | rfl | rfl | rfl | rfl
    · trivial
    · exact pointed
    · trivial
    · trivial
    · have given : 0 < length := by
        simp only [List.mem_cons, List.not_mem_nil, or_false] at listed
        omega
      exact given
  exact ⟨bindings, after, called, aliases_show_storage (Signature.parse_assembled parsed) compiled
    PlanOptions.starlark_confined.allocates (passes length listed) called aliasActions allowed⟩

end Plan
end CallPlan
