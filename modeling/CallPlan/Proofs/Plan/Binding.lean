import CallPlan.Proofs.Default.Engine
import CallPlan.Proofs.Plan.Outcome
import CallPlan.Proofs.Plan.Pairs

/-!
What the second half of a call does. If evaluating a default only ever adds storage, then every step
binds its parameter from its origin, leaves all storage there was as it is, and fails only where a
default fails.
-/

namespace CallPlan

/-- What a binding refers to is there. -/
def Binding.Readable (store : Store) (b : Binding) : Prop :=
  ∀ type place, b.content = .ref type place → ∃ value, store.load? place = some value

theorem Binding.Readable.extend {before after : Store} {b : Binding} (readable : b.Readable before)
    (extension : before.Extends after) : b.Readable after := by
  intro type place refers
  obtain ⟨value, loaded⟩ := readable type place refers
  exact ⟨value, extension.load? loaded⟩

/-- What a binding gives of a value, which is a copy if it is read-only. -/
def Binding.give (mode : Mode) (store : Store) (value : Value) : Value × Store :=
  if mode = .readOnly then store.clone value else (value, store)

theorem Binding.get_ref {store : Store} {b : Binding} {type : HostType} {place : Place} {value : Value}
    (refers : b.content = .ref type place) (loaded : store.load? place = some value) :
    b.get store = .ok (give b.mode store value) := by
  simp only [get, refers, loaded, give]

theorem Binding.get_own {b : Binding} {value : Value} (owned : b.content = .own value) (store : Store) :
    b.get store = .ok (give b.mode store value) := by
  simp only [get, owned, give]

theorem Binding.get_shared {b : Binding} {view : View} (shows : b.content = .shared view)
    (store : Store) : b.get store = .ok (.list view, store) := by
  simp only [get, shows]

theorem Binding.give_extends (mode : Mode) (store : Store) (value : Value) :
    store.Extends (give mode store value).2 := by
  unfold give
  split
  · exact store.clone_extends value
  · exact .refl store

theorem Binding.get_extends {store : Store} {b : Binding} (readable : b.Readable store) :
    ∃ value after, b.get store = .ok (value, after) ∧ store.Extends after := by
  cases content : b.content with
  | own value => exact ⟨_, _, get_own content store, give_extends b.mode store value⟩
  | shared view => exact ⟨_, _, get_shared content store, .refl store⟩
  | ref type place =>
      obtain ⟨value, loaded⟩ := readable type place content
      exact ⟨_, _, get_ref content loaded, give_extends b.mode store value⟩

theorem Binding.extends_of_get {store after : Store} {b : Binding} {value : Value}
    (got : b.get store = .ok (value, after)) : store.Extends after := by
  have readable : b.Readable store := by
    intro type place refers
    cases loaded : store.load? place with
    | some value => exact ⟨value, rfl⟩
    | none => simp [get, refers, loaded] at got
  obtain ⟨_, _, given, extension⟩ := get_extends readable
  rw [got] at given
  cases given
  exact extension

theorem Bindings.valuesOf_extends {store : Store} {bound : Entries Binding}
    (readable : ∀ entry ∈ bound, entry.2.Readable store) :
    ∃ values after, valuesOf store bound = .ok (values, after) ∧ store.Extends after := by
  induction bound generalizing store with
  | nil => exact ⟨[], store, rfl, .refl store⟩
  | cons entry rest ih =>
      obtain ⟨name, binding⟩ := entry
      obtain ⟨value, middle, got, first⟩ := Binding.get_extends (readable _ List.mem_cons_self)
      obtain ⟨values, after, others, second⟩ := ih fun entry member =>
        (readable entry (List.mem_cons_of_mem _ member)).extend first
      exact ⟨(name, value) :: values, after, by simp [valuesOf, got, others], first.trans second⟩

theorem Bindings.resolve?_of_get? {b : Bindings} {name : Text} {binding : Binding}
    (found : b.entries.get? name = some binding) : b.resolve? name = some name := by
  have bound : b.entries.has name = true := Entries.has_iff.mpr ⟨binding, found⟩
  simp [resolve?, bound]

theorem Bindings.lookup?_of_get? {b : Bindings} {name : Text} {binding : Binding}
    (found : b.entries.get? name = some binding) : b.lookup? name = some binding := by
  simp [lookup?, resolve?_of_get? found, found]

namespace Holds

variable {before after later : Store} {rest : View} {mode : Mode} {p : Param}
  {default? : Option Expression} {origin : Origin} {content : Content}

theorem extend (holds : Holds before after rest mode p default? origin content)
    (finish : after.Extends later) : Holds before later rest mode p default? origin content := by
  cases holds with
  | slot aliased plain within => exact .slot aliased plain within
  | pointee aliased reference passed => exact .pointee aliased reference passed
  | copied unaliased passed same fresh =>
      exact .copied unaliased passed ((fresh.surface_eq finish).trans same)
        (fresh.widen (.refl _) finish)
  | gathered hash same fresh =>
      refine .gathered hash (fun key => ?_) (fresh.widen (.refl _) finish)
      rw [finish.entries_eq (fresh _ rfl).2, same]
  | shared array aliased => exact .shared array aliased
  | listed array unaliased same fresh =>
      exact .listed array unaliased ((finish.items_eq (fresh _ rfl).2).trans same)
        (fresh.widen (.refl _) finish)
  | stored aliased given held fresh =>
      exact .stored aliased given (finish.load? held)
        ⟨fresh.1, Nat.lt_of_lt_of_le fresh.2 finish.size_le⟩
  | settled unaliased given same fresh =>
      exact .settled unaliased given ((fresh.surface_eq finish).trans same)
        (fresh.widen (.refl _) finish)

theorem readable (holds : Holds before after rest mode p default? origin content)
    (extension : before.Extends after) (valid : before.Valid)
    (shown : (before.items rest).length = rest.length) {type : HostType} {place : Place}
    (refers : content = .ref type place) : ∃ value, after.load? place = some value := by
  cases holds with
  | slot aliased plain within =>
      cases refers
      have found := List.getElem?_eq_getElem (shown ▸ within)
      exact ⟨_, extension.load? ((Store.load?_place within).trans found)⟩
  | pointee aliased reference passed =>
      cases refers
      obtain ⟨value, loaded⟩ := valid.of_mem_items (List.mem_of_getElem? passed)
      exact ⟨value, extension.load? loaded⟩
  | stored aliased given held fresh =>
      cases refers
      exact ⟨_, held⟩
  | copied => cases refers
  | gathered => cases refers
  | shared => cases refers
  | listed => cases refers
  | settled => cases refers

end Holds

namespace Plan.Call

variable {c : Call} {step : Step} {session : Session} {bound : Entries Binding} {before : Store}

/-- A default failed: its scope or its evaluation reports a cause, or its evaluation takes a step without
meaning. -/
inductive DefaultFailure (scope : Scope) (context : Context) (site : Site) (p : Param)
    (e : Expression) : BindFailure → Prop
  | scope {store : Store} {error : Scope.Error} (read : scope.data store context = .error error) :
      DefaultFailure scope context site p e (.refused {
        kind := .defaultFailed, site, param := p.display, cause := some (.within "scope" error.cause) })
  | evaluation {store : Store} {vars : Entries Value} {cause : Cause}
      (run : e.eval store vars = .error (.cause cause)) :
      DefaultFailure scope context site p e (.refused {
        kind := .defaultFailed, site, param := p.display, cause := some cause })
  | fault {store : Store} {vars : Entries Value} {fault : Fault}
      (run : e.eval store vars = .error (.fault fault)) :
      DefaultFailure scope context site p e (.fault fault)

theorem scopeData_leads (e : Expression) :
    Leads (c.scopeData step) session (fun _ after => after.store = session.store)
      (fun failure _ => DefaultFailure c.plan.scope c.context c.site step.param e failure) := by
  unfold scopeData
  simp only [Leads.bind_iff, Leads.get_iff]
  cases session.scopeData with
  | some data => exact rfl
  | none =>
      simp only [Leads.bind_iff, Leads.record_iff, Leads.get_iff]
      cases read : c.plan.scope.data session.store c.context with
      | error reason => exact .scope read
      | ok data => exact rfl

theorem evalDefault_leads {e : Expression} (allocates : e.Allocates)
    (readable : ∀ entry ∈ bound, entry.2.Readable session.store) :
    Leads (c.evalDefault step e bound) session
      (fun value after => session.store.Extends after.store ∧
        ∃ earlier vars, e.eval earlier vars = .ok (value, after.store))
      (fun failure _ => DefaultFailure c.plan.scope c.context c.site step.param e failure) := by
  unfold evalDefault vars
  simp only [Leads.bind_iff, Leads.get_iff, Leads.record_iff]
  refine (scopeData_leads e).mono ?_ fun _ _ failed => failed
  intro data read same
  obtain ⟨values, store, valued, first⟩ := Bindings.valuesOf_extends (same ▸ readable)
  simp only [valued, Leads.bind_iff, Leads.setStore_iff, Leads.pure_iff]
  cases run : e.eval store (data.merge values) with
  | ok result =>
      obtain ⟨value, after⟩ := result
      have second := allocates _ _ _ _ run
      exact ⟨same ▸ first.trans second, store, _, run⟩
  | error failure =>
      cases failure with
      | cause cause => exact .evaluation run
      | fault fault => exact .fault run

/-- The defaults of steps only add storage. -/
def Tame (steps : List Step) : Prop :=
  ∀ step ∈ steps, ∀ e, step.default? = some e → e.Allocates

/-- The failure of a default that is evaluated because nothing was passed. -/
def Defaulted (c : Call) (step : Step) (failure : BindFailure) : Prop :=
  ∃ e, step.default? = some e ∧ step.param.required = false ∧
    DefaultFailure c.plan.scope c.context c.site step.param e failure

theorem absentValue_leads (tame : ∀ e, step.default? = some e → e.Allocates)
    (readable : ∀ entry ∈ bound, entry.2.Readable session.store) :
    Leads (c.absentValue step bound) session
      (fun value after => session.store.Extends after.store ∧
        Settled step.param.required step.default? value after.store)
      (fun failure _ => c.Defaulted step failure) := by
  unfold absentValue
  cases given : step.default? with
  | none => exact ⟨.refl _, .nothing (.inl rfl)⟩
  | some e =>
      cases required : step.param.required with
      | true => exact ⟨.refl _, .nothing (.inr rfl)⟩
      | false =>
          simp only [Bool.false_eq_true, if_false]
          refine (evalDefault_leads (tame e given) readable).mono ?_ ?_
          · rintro value after ⟨extension, earlier, vars, run⟩
            exact ⟨extension, .evaluated rfl run⟩
          · intro failure _ failed
            exact ⟨e, given, required, failed⟩

theorem cloned_leads (value : Value) {failed : BindFailure → Session → Prop} :
    Leads (cloned value) session
      (fun shown after => session.store.Extends after.store ∧
        after.store.surface shown = session.store.surface value ∧
        shown.NewIn session.store after.store) failed :=
  ⟨session.store.clone_extends value, session.store.surface_clone value, .clone session.store value⟩

theorem target_quiet (value : Value) :
    Leads (target value) session (fun _ after => after = session) (fun _ after => after = session) := by
  unfold target
  cases value with
  | pointer type place =>
      simp only [Leads.bind_iff, Leads.get_iff]
      cases session.store.load? place <;> exact rfl
  | plain datum => exact rfl
  | list view => exact rfl
  | dict cell => exact rfl

theorem freshRef_leads (value : Value) {failed : BindFailure → Session → Prop} :
    Leads (freshRef value) session
      (fun content after => session.store.Extends after.store ∧
        content = .ref .any (.variable session.store.cells.size) ∧
        after.store.load? (.variable session.store.cells.size) = some value ∧
        session.store.cells.size < after.store.cells.size) failed := by
  refine ⟨session.store.alloc_extends _, rfl, ?_, ?_⟩
  · simp [Store.load?]
  · simp

theorem bindAbsent_leads (start : before.Extends session.store)
    (tame : ∀ e, step.default? = some e → e.Allocates)
    (readable : ∀ entry ∈ bound, entry.2.Readable session.store) :
    Leads (c.bindAbsent step bound) session
      (fun content after => session.store.Extends after.store ∧
        Holds before after.store c.rest step.mode step.param step.default? .missing content)
      (fun failure _ => c.Defaulted step failure) := by
  unfold bindAbsent
  rw [Leads.bind_iff]
  refine (absentValue_leads tame readable).mono ?_ fun _ _ failed => failed
  rintro value middle ⟨first, given⟩
  have reached := start.trans first
  split
  · next aliased =>
      refine (freshRef_leads value).mono ?_ fun _ _ failed => failed
      rintro content after ⟨second, rfl, held, upper⟩
      exact ⟨first.trans second, .stored aliased given held ⟨reached.size_le, upper⟩⟩
  · next unaliased =>
      rw [Leads.bind_iff]
      refine (cloned_leads value).mono ?_ fun _ _ failed => failed
      rintro shown after ⟨second, same, fresh⟩
      exact ⟨first.trans second, .settled unaliased given same (fresh.widen reached (.refl _))⟩

/-- An argument is there, and is a pointer where a reference is asked for. -/
def Presents (items : List Value) (p : Param) (index : Nat) : Prop :=
  ∃ value, items[index]? = some value ∧
    (p.refAlias = true → ∃ type place, value = .pointer type place)

theorem bindPresent_leads {index : Nat} (start : before.Extends session.store) (valid : before.Valid)
    (shown : (before.items c.rest).length = c.rest.length)
    (presents : Presents (before.items c.rest) step.param index)
    {failed : BindFailure → Session → Prop} :
    Leads (c.bindPresent step index) session
      (fun content after => session.store.Extends after.store ∧
        Holds before after.store c.rest step.mode step.param step.default? (.argument index) content)
      failed := by
  obtain ⟨value, found, pointer⟩ := presents
  have within : index < c.rest.length := shown ▸ (List.getElem?_eq_some_iff.mp found).1
  have sound := valid.of_mem_items (List.mem_of_getElem? found)
  unfold bindPresent
  simp only [Leads.bind_iff, Leads.get_iff, start.items_of_shown shown, found]
  -- An alias refers to the slot, or to what a pointer in it points to; otherwise either is copied.
  split
  · next aliased =>
      cases reference : step.param.refAlias with
      | false => exact ⟨.refl _, .slot aliased reference within⟩
      | true =>
          obtain ⟨type, place, rfl⟩ := pointer reference
          exact ⟨.refl _, .pointee aliased reference found⟩
  · next unaliased =>
      cases reference : step.param.refAlias with
      | false =>
          simp only [Bool.false_eq_true, if_false, Leads.bind_iff]
          refine (cloned_leads value).mono ?_ fun _ _ failed => failed
          rintro copy after ⟨extension, same, fresh⟩
          refine ⟨extension, .copied unaliased ?_ (same.trans (start.surface_of_valid sound))
            (fresh.widen start (.refl _))⟩
          simpa [Passed, reference] using found
      | true =>
          obtain ⟨type, place, rfl⟩ := pointer reference
          obtain ⟨target, loaded⟩ := sound
          simp only [if_true, Leads.bind_iff, Call.target, Leads.get_iff, start.load? loaded,
            Leads.pure_iff]
          refine (cloned_leads target).mono ?_ fun _ _ failed => failed
          rintro copy after ⟨extension, same, fresh⟩
          refine ⟨extension, .copied unaliased ?_
            (same.trans (start.surface_of_valid (valid.of_load? loaded)))
            (fresh.widen start (.refl _))⟩
          simpa [Passed, reference] using ⟨type, place, found, loaded⟩

theorem bindSlurpy_leads (start : before.Extends session.store)
    (shown : (before.items c.rest).length = c.rest.length)
    (paired : step.param.sigil = .hash →
      Reading.pairFault? ((before.items c.rest).drop step.index) = none)
    {failed : BindFailure → Session → Prop} :
    Leads (c.bindSlurpy step) session
      (fun b after => session.store.Extends after.store ∧
        Bound before after.store c.rest step.mode step.param step.default? (.tail step.index) b)
      failed := by
  have tail : session.store.items (c.rest.drop step.index) =
      (before.items c.rest).drop step.index := by
    rw [Store.items_drop, start.items_of_shown shown]
  have supplied : (!((before.items c.rest).drop step.index).isEmpty) =
      Origin.supplied c.rest.length (.tail step.index) := by
    rw [Bool.eq_iff_iff]
    simp [Origin.supplied, List.drop_eq_nil_iff, shown]
  unfold bindSlurpy
  simp only [Leads.bind_iff, Leads.get_iff, tail]
  by_cases hash : step.param.sigil = .hash
  · obtain ⟨even, texts⟩ := Reading.even_of_pairFault? (paired hash)
    obtain ⟨gathered, read, found⟩ := Reading.pairEntries_eq [] 0 even texts
    simp only [hash, if_true, read, Leads.bind_iff, Leads.get_iff, Leads.setStore_iff, Leads.pure_iff]
    refine ⟨session.store.newDict_extends _, rfl, ?_, supplied, ?_⟩
    · simp [Origin.modeOf, hash]
    · refine .gathered hash ?_ ((Value.NewIn.newDict session.store gathered).widen start (.refl _))
      intro key
      have held : (session.store.newDict gathered).2.entries session.store.cells.size = gathered :=
        session.store.entries_alloc gathered
      rw [held, found, Entries.get?_nil, Option.or_none]
  · have kept : Origin.modeOf step.param step.mode (.tail step.index) = step.mode := by
      simp [Origin.modeOf, hash]
    simp only [hash, if_false]
    by_cases aliased : step.mode = .alias
    · simp only [aliased, if_true]
      refine ⟨.refl _, rfl, ?_, supplied, .shared hash rfl⟩
      simp [Origin.modeOf, hash]
    · simp only [aliased, if_false, Leads.bind_iff, Leads.get_iff, Leads.setStore_iff, Leads.pure_iff]
      refine ⟨session.store.newList_extends _, rfl, kept.symm, supplied, ?_⟩
      exact .listed hash aliased (session.store.items_alloc _)
        ((Value.NewIn.newList session.store _).widen start (.refl _))

/-- Where the value of a step's parameter comes from. -/
def origin (c : Call) (step : Step) : Origin :=
  match step.kind with
  | .slurpy => .tail step.index
  | .named =>
      match c.named.get? step.param.name with
      | some offset => .argument (offset + 1)
      | none => .missing
  | _ => if step.index < c.rest.length then .argument step.index else .missing

/-- What the checks make sure of for a step. -/
structure Ready (c : Call) (before : Store) (step : Step) : Prop where
  invocant : step.kind = .invocant → ∃ value, (before.items c.args)[0]? = some value
  argument : step.kind = .positional ∨ step.kind = .named → ∀ index,
    c.origin step = .argument index → Presents (before.items c.rest) step.param index
  tail : step.kind = .slurpy → step.param.sigil = .hash →
    Reading.pairFault? ((before.items c.rest).drop step.index) = none

/-- The binding that a step makes, if it makes one. -/
inductive Made (c : Call) (before after : Store) (step : Step) : Option Binding → Prop
  | invocant {value : Value} (kind : step.kind = .invocant)
      (passed : (before.items c.args)[0]? = some value) :
      Made c before after step (some { param := step.param, supplied := true, content := .own value })
  | param {b : Binding} (kind : step.kind = .positional ∨ step.kind = .slurpy ∨ step.kind = .named)
      (bound : Bound before after c.rest step.mode step.param step.default? (c.origin step) b) :
      Made c before after step (some b)
  | nothing (kind : step.kind = .collectNamed ∨ step.kind = .rejectUnknown) :
      Made c before after step none

theorem bindScalar_leads {index : Option Nat} (start : before.Extends session.store)
    (valid : before.Valid) (shown : (before.items c.rest).length = c.rest.length)
    (kind : step.kind = .positional ∨ step.kind = .named)
    (placed : c.origin step = match index with | some index => .argument index | none => .missing)
    (ready : c.Ready before step) (tame : ∀ e, step.default? = some e → e.Allocates)
    (readable : ∀ entry ∈ bound, entry.2.Readable session.store) :
    Leads (c.bindScalar step index bound) session
      (fun b after => session.store.Extends after.store ∧ Made c before after.store step (some b))
      (fun failure _ => c.origin step = .missing ∧ c.Defaulted step failure) := by
  have binds : step.kind = .positional ∨ step.kind = .slurpy ∨ step.kind = .named :=
    kind.imp_right .inr
  cases index with
  | some index =>
      simp only at placed
      refine Leads.bind_iff.mpr ((bindPresent_leads start valid shown
        (ready.argument kind index placed)).mono ?_ fun _ _ failed => failed)
      rintro content after ⟨extension, holds⟩
      exact ⟨extension, .param binds ⟨rfl, by rw [placed]; rfl, by rw [placed]; rfl, placed ▸ holds⟩⟩
  | none =>
      simp only at placed
      refine Leads.bind_iff.mpr ((bindAbsent_leads start tame readable).mono ?_
        fun _ _ failed => ⟨placed, failed⟩)
      rintro content after ⟨extension, holds⟩
      exact ⟨extension, .param binds ⟨rfl, by rw [placed]; rfl, by rw [placed]; rfl, placed ▸ holds⟩⟩

theorem bindStep_leads (start : before.Extends session.store) (valid : before.Valid)
    (passed : (before.items c.args).length = c.args.length)
    (shown : (before.items c.rest).length = c.rest.length)
    (ready : c.Ready before step) (tame : ∀ e, step.default? = some e → e.Allocates)
    (readable : ∀ entry ∈ bound, entry.2.Readable session.store) :
    Leads (c.bindStep bound step) session
      (fun b after => session.store.Extends after.store ∧ Made c before after.store step b)
      (fun failure _ => c.origin step = .missing ∧ c.Defaulted step failure) := by
  cases kind : step.kind with
  | invocant =>
      obtain ⟨value, found⟩ := ready.invocant kind
      simp only [bindStep, kind, Leads.bind_iff, Leads.get_iff, start.items_of_shown passed, found]
      exact ⟨.refl _, .invocant kind found⟩
  | positional =>
      simp only [bindStep, kind, Leads.bind_iff, Leads.pure_iff]
      refine bindScalar_leads start valid shown (.inl kind) ?_ ready tame readable
      simp only [origin, kind]
      split <;> rfl
  | slurpy =>
      simp only [bindStep, kind, Leads.bind_iff, Leads.pure_iff]
      refine (bindSlurpy_leads start shown (ready.tail kind)).mono ?_ fun _ _ failed => failed
      rintro b after ⟨extension, bound⟩
      have placed : c.origin step = .tail step.index := by simp only [origin, kind]
      exact ⟨extension, .param (.inr (.inl kind)) (placed ▸ bound)⟩
  | named =>
      simp only [bindStep, kind, Leads.bind_iff, Leads.pure_iff]
      refine bindScalar_leads start valid shown (.inr kind) ?_ ready tame readable
      simp only [origin, kind]
      cases c.named.get? step.param.name <;> rfl
  | collectNamed =>
      simp only [bindStep, kind]
      exact ⟨.refl _, .nothing (.inl kind)⟩
  | rejectUnknown =>
      simp only [bindStep, kind]
      exact ⟨.refl _, .nothing (.inr kind)⟩

theorem Made.extend {b : Option Binding} {after later : Store} (made : Made c before after step b)
    (finish : after.Extends later) : Made c before later step b := by
  cases made with
  | invocant kind passed => exact .invocant kind passed
  | param kind bound =>
      exact .param kind ⟨bound.param_eq, bound.mode_eq, bound.supplied_eq, bound.holds.extend finish⟩
  | nothing kind => exact .nothing kind

theorem Made.readable {b : Binding} {after : Store} (made : Made c before after step (some b))
    (extension : before.Extends after) (valid : before.Valid)
    (shown : (before.items c.rest).length = c.rest.length) : b.Readable after := by
  intro type place refers
  cases made with
  | invocant kind passed => cases refers
  | param kind bound => exact bound.holds.readable extension valid shown refers

/-- The bindings that steps make, in order. -/
inductive MadeAll (c : Call) (before after : Store) : List Step → Entries Binding → Prop
  | nil : MadeAll c before after [] []
  | skip {step : Step} {steps : List Step} {made : Entries Binding}
      (own : Made c before after step none) (others : MadeAll c before after steps made) :
      MadeAll c before after (step :: steps) made
  | cons {step : Step} {steps : List Step} {b : Binding} {made : Entries Binding}
      (own : Made c before after step (some b)) (others : MadeAll c before after steps made) :
      MadeAll c before after (step :: steps) ((step.param.name, b) :: made)

/-- Steps that are ready bind in order, each from its origin, or fail at a default. -/
theorem bindSteps_leads {steps : List Step} (start : before.Extends session.store)
    (valid : before.Valid) (passed : (before.items c.args).length = c.args.length)
    (shown : (before.items c.rest).length = c.rest.length)
    (ready : ∀ step ∈ steps, c.Ready before step) (tame : Tame steps)
    (readable : ∀ entry ∈ bound, entry.2.Readable session.store) :
    Leads (c.bindSteps bound steps) session
      (fun entries after => session.store.Extends after.store ∧
        ∃ made, entries = bound ++ made ∧ MadeAll c before after.store steps made)
      (fun failure _ => ∃ step ∈ steps, c.origin step = .missing ∧ c.Defaulted step failure) := by
  -- Later steps only add storage, so what an earlier one has bound still holds in the storage at the end.
  induction steps generalizing bound session with
  | nil => exact ⟨.refl _, [], by simp, .nil⟩
  | cons step rest ih =>
      have laterReady : ∀ step ∈ rest, c.Ready before step := fun step member =>
        ready step (List.mem_cons_of_mem _ member)
      have laterTame : Tame rest := fun step member => tame step (List.mem_cons_of_mem _ member)
      unfold bindSteps
      refine Leads.bind_iff.mpr ((bindStep_leads start valid passed shown
        (ready step List.mem_cons_self) (tame step List.mem_cons_self) readable).mono ?_ ?_)
      · rintro b middle ⟨first, own⟩
        have reached := start.trans first
        have stillReadable : ∀ entry ∈ bound, entry.2.Readable middle.store := fun entry member =>
          (readable entry member).extend first
        cases b with
        | none =>
            refine (ih reached laterReady laterTame stillReadable).mono ?_ ?_
            · rintro entries after ⟨second, made, rfl, others⟩
              exact ⟨first.trans second, made, rfl, .skip (own.extend second) others⟩
            · rintro failure after ⟨step, member, failed⟩
              exact ⟨step, List.mem_cons_of_mem _ member, failed⟩
        | some b =>
            have allReadable : ∀ entry ∈ bound ++ [(step.param.name, b)],
                entry.2.Readable middle.store := by
              intro entry member
              rcases List.mem_append.mp member with earlier | last
              · exact stillReadable entry earlier
              · rw [List.mem_singleton.mp last]
                exact own.readable reached valid shown
            refine (ih reached laterReady laterTame allReadable).mono ?_ ?_
            · rintro entries after ⟨second, made, rfl, others⟩
              exact ⟨first.trans second, (step.param.name, b) :: made, by simp,
                .cons (own.extend second) others⟩
            · rintro failure after ⟨step, member, failed⟩
              exact ⟨step, List.mem_cons_of_mem _ member, failed⟩
      · rintro failure after failed
        exact ⟨step, List.mem_cons_self, failed⟩

end Plan.Call
end CallPlan
