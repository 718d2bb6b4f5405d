import CallPlan.Proofs.Plan.Lending
import CallPlan.Proofs.Plan.Setting
import Mathlib.Data.List.Forall2

/-!
Two calls of one plan whose parameters take the same values, from arguments at different places. Both make
the same steps: after each of them the sessions are the same, and so are the bindings, but for aliases that
refer to the places the value was taken from.
-/

namespace CallPlan

/-- Two computations from one session that add the same storage and end alike: they fail in the same way, or
give related values. -/
inductive Parallel {α β : Type} (m : BindM α) (m' : BindM β) (session : Session)
    (related : α → β → Prop) : Prop
  | done {a : α} {b : β} {after : Session} (first : m.run.run session = (.ok a, after))
      (second : m'.run.run session = (.ok b, after)) (kept : session.store.Extends after.store)
      (same : related a b)
  | failed {failure : BindFailure} {after : Session}
      (first : m.run.run session = (.error failure, after))
      (second : m'.run.run session = (.error failure, after))
      (kept : session.store.Extends after.store)

namespace Parallel

variable {α β γ δ : Type} {m : BindM α} {m' : BindM β} {session : Session} {related : α → β → Prop}

theorem pure {a : α} {b : β} (same : related a b) : Parallel (pure a) (pure b) session related :=
  .done rfl rfl (.refl _) same

theorem bind {next : α → BindM γ} {next' : β → BindM δ} {later : γ → δ → Prop}
    (first : Parallel m m' session related) (rest : ∀ a b after, session.store.Extends after.store →
      related a b → Parallel (next a) (next' b) after later) :
    Parallel (m >>= next) (m' >>= next') session later := by
  cases first with
  | @done a b middle first second kept same =>
      have front : (m >>= next).run.run session = (next a).run.run middle := by rw [run_bind, first]
      have back : (m' >>= next').run.run session = (next' b).run.run middle := by rw [run_bind, second]
      cases rest a b middle kept same with
      | done run run' added last =>
          exact .done (front.trans run) (back.trans run') (kept.trans added) last
      | failed run run' added => exact .failed (front.trans run) (back.trans run') (kept.trans added)
  | @failed failure after first second kept =>
      have front : (m >>= next).run.run session = (.error failure, after) := by rw [run_bind, first]
      have back : (m' >>= next').run.run session = (.error failure, after) := by rw [run_bind, second]
      exact .failed front back kept

theorem get_bind {next : Session → BindM γ} {next' : Session → BindM δ} {later : γ → δ → Prop}
    (rest : Parallel (next session) (next' session) session later) :
    Parallel (get >>= next) (get >>= next') session later := by
  cases rest with
  | done first second kept same => exact .done first second kept same
  | failed first second kept => exact .failed first second kept

theorem mono {related' : α → β → Prop} (parallel : Parallel m m' session related)
    (weaker : ∀ a b, related a b → related' a b) : Parallel m m' session related' := by
  cases parallel with
  | done first second kept same => exact .done first second kept (weaker _ _ same)
  | failed first second kept => exact .failed first second kept

/-- A computation that only adds storage is parallel to one that runs the same. -/
theorem of_run {m m' : BindM α} {done : α → Session → Prop} (adds : Plan.Call.Adding m session done)
    (same : m'.run.run session = m.run.run session) : Parallel m m' session (· = ·) := by
  rcases run : m.run.run session with ⟨outcome, after⟩
  cases outcome with
  | ok a => exact .done run (same.trans run) (adds.of_ok run).1 rfl
  | error failure => exact .failed run (same.trans run) (adds.of_error run)

end Parallel

/-- Content that is the same, but for which of two places with one value it refers to. -/
inductive Content.Twin (before : Store) : Content → Content → Prop
  | same (content : Content) : Twin before content content
  | slots {type : HostType} {place place' : Place}
      (loads : ∀ store, before.Extends store → store.load? place' = store.load? place) :
      Twin before (.ref type place) (.ref type place')

structure Binding.Twin (before : Store) (b b' : Binding) : Prop where
  param : b'.param = b.param
  mode : b'.mode = b.mode
  supplied : b'.supplied = b.supplied
  content : b.content.Twin before b'.content

/-- Bindings of the same names, twins in pairs. -/
def Bindings.Twins (before : Store) : Entries Binding → Entries Binding → Prop :=
  List.Forall₂ fun entry entry' => entry'.1 = entry.1 ∧ entry.2.Twin before entry'.2

/-- An error with the same keys in another order. -/
def CallError.Reordered (e e' : CallError) : Prop := ∃ keys, e.keys.Perm keys ∧ e' = { e with keys }

theorem CallError.Reordered.refl (e : CallError) : e.Reordered e := ⟨e.keys, .refl _, rfl⟩

/-- Two calls that end alike: they are refused for the same reason, or bind the same names to the same
values. -/
inductive EndsAlike : Except BindFailure Bindings × Session → Except BindFailure Bindings × Session → Prop
  | bound {b b' : Bindings} {after : Session} (names : b'.names = b.names)
      (values : b'.values after.store = b.values after.store)
      (supplied : ∀ name, b'.supplied name = b.supplied name)
      (mode : ∀ name, b'.mode? name = b.mode? name) : EndsAlike (.ok b, after) (.ok b', after)
  | refused {e e' : CallError} {after : Session} (same : e.Reordered e') :
      EndsAlike (.error (.refused e), after) (.error (.refused e'), after)
  | fault {fault : Fault} {after : Session} :
      EndsAlike (.error (.fault fault), after) (.error (.fault fault), after)

section

variable {before store : Store} {b b' : Binding} {bound bound' : Entries Binding}

theorem Binding.Twin.refl (b : Binding) : b.Twin before b := ⟨rfl, rfl, rfl, .same _⟩

theorem Binding.Twin.get_eq (twin : b.Twin before b') (kept : before.Extends store) :
    b'.get store = b.get store := by
  obtain ⟨param, mode, supplied, content⟩ := b
  obtain ⟨param', mode', supplied', content'⟩ := b'
  obtain ⟨_, sameMode, _, content⟩ := twin
  simp only at sameMode content
  subst sameMode
  cases content with
  | same => rfl
  | slots loads => simp only [get, loads store kept]

theorem Bindings.Twins.valuesOf_eq (twins : Twins before bound bound') (kept : before.Extends store) :
    valuesOf store bound' = valuesOf store bound := by
  induction twins generalizing store with
  | nil => rfl
  | @cons entry entry' rest rest' first others ih =>
      obtain ⟨name, b⟩ := entry
      obtain ⟨_, b'⟩ := entry'
      obtain ⟨rfl, twin⟩ := first
      simp only [valuesOf, twin.get_eq kept]
      cases got : b.get store with
      | error fault => rfl
      | ok given =>
          have given : b.get store = .ok (given.1, given.2) := got
          have reached := kept.trans (Binding.extends_of_get given)
          simp only [except_ok_bind, ih reached]

theorem Bindings.Twins.keys_eq (twins : Twins before bound bound') : bound'.keys = bound.keys := by
  induction twins with
  | nil => rfl
  | cons first others ih => exact congrArg₂ List.cons first.1 ih

theorem Bindings.Twins.get? (twins : Twins before bound bound') (key : Text) :
    Option.Rel (Binding.Twin before) (bound.get? key) (bound'.get? key) := by
  induction twins with
  | nil => exact .none
  | @cons entry entry' rest rest' first others ih =>
      obtain ⟨name, b⟩ := entry
      obtain ⟨_, b'⟩ := entry'
      obtain ⟨rfl, twin⟩ := first
      simp only [Entries.get?_cons]
      split
      · exact .some twin
      · exact ih

theorem Bindings.Twins.lookup? {b b' : Bindings} (twins : Twins before b.entries b'.entries)
    (name : Text) : Option.Rel (Binding.Twin before) (b.lookup? name) (b'.lookup? name) := by
  unfold Bindings.lookup?
  rw [resolve?_of_keys twins.keys_eq]
  cases b.resolve? name with
  | none => exact .none
  | some key => exact twins.get? key

theorem Bindings.Twins.endsAlike {b b' : Bindings} {after : Session}
    (twins : Twins before b.entries b'.entries) (kept : before.Extends after.store) :
    EndsAlike (.ok b, after) (.ok b', after) := by
  refine .bound twins.keys_eq (twins.valuesOf_eq kept) (fun name => ?_) fun name => ?_
  · have looked := twins.lookup? name
    unfold Bindings.supplied
    generalize b.lookup? name = found, b'.lookup? name = found' at looked
    cases looked with
    | none => rfl
    | some twin => exact twin.supplied
  · have looked := twins.lookup? name
    unfold Bindings.mode?
    generalize b.lookup? name = found, b'.lookup? name = found' at looked
    cases looked with
    | none => rfl
    | some twin => exact congrArg some twin.mode

end

namespace Plan.Call

variable {c c' : Call} {before : Store} {session : Session} {step : Step}
  {bound bound' : Entries Binding}

/-- Calls of one plan in one context and from one site. What each was passed is there. -/
structure Twins (c c' : Call) (before : Store) : Prop where
  plan : c'.plan = c.plan
  context : c'.context = c.context
  site : c'.site = c.site
  shown : (before.items c.rest).length = c.rest.length
  shown' : (before.items c'.rest).length = c'.rest.length
  passed : (before.items c.args).length = c.args.length
  passed' : (before.items c'.args).length = c'.args.length

/-- The argument that a parameter takes, if one is passed for it. -/
def index? (c : Call) (step : Step) : Option Nat :=
  match step.kind with
  | .positional => if step.index < c.rest.length then some step.index else none
  | .named => (c.named.get? step.param.name).map (· + 1)
  | _ => none

/-- Nothing is taken from either list, or the same value from both. -/
inductive Matching (items items' : List Value) : Option Nat → Option Nat → Prop
  | missing : Matching items items' none none
  | passed {index index' : Nat} {value : Value} (found : items[index]? = some value)
      (found' : items'[index']? = some value) : Matching items items' (some index) (some index')

/-- A step that takes the same from the arguments of two calls. -/
structure Matches (c c' : Call) (before : Store) (step : Step) : Prop where
  first : step.kind = .invocant → (before.items c'.args)[0]? = (before.items c.args)[0]?
  single : step.kind ≠ .slurpy
  scalar : step.kind = .positional ∨ step.kind = .named →
    Matching (before.items c.rest) (before.items c'.rest) (c.index? step) (c'.index? step)

theorem Twins.fail_eq (twins : c.Twins c' before) {α : Type} (step : Step) (cause : Cause) :
    (c'.fail step cause : BindM α) = c.fail step cause := by
  simp only [fail, twins.site]

theorem Twins.scopeData_eq (twins : c.Twins c' before) (step : Step) :
    c'.scopeData step = c.scopeData step := by
  unfold scopeData
  simp only [twins.plan, twins.context, twins.fail_eq]

theorem Twins.vars_run (twins : c.Twins c' before) (alike : Bindings.Twins before bound bound')
    (kept : before.Extends session.store) :
    (c'.vars step bound').run.run session = (c.vars step bound).run.run session := by
  unfold vars
  rw [run_bind, run_bind, twins.scopeData_eq]
  have adds : Adding (c.scopeData step) session _ := scopeData_adds
  rcases run : (c.scopeData step).run.run session with ⟨outcome, after⟩
  cases outcome with
  | error failure => rfl
  | ok data =>
      have values := alike.valuesOf_eq (kept.trans (adds.of_ok run).1)
      have looked : (get : BindM Session).run.run after = (.ok after, after) := rfl
      simp only [run_bind, looked, values]

/-- The variables of a default are the same in both calls, and so is what it evaluates to. -/
theorem Twins.bindAbsent_run (twins : c.Twins c' before) (alike : Bindings.Twins before bound bound')
    (kept : before.Extends session.store) :
    (c'.bindAbsent step bound').run.run session = (c.bindAbsent step bound).run.run session := by
  have evaluated : ∀ e,
      (c'.evalDefault step e bound').run.run session = (c.evalDefault step e bound).run.run session := by
    intro e
    unfold evalDefault
    rw [run_bind, run_bind, twins.vars_run alike kept]
    simp only [twins.fail_eq]
  have absent :
      (c'.absentValue step bound').run.run session = (c.absentValue step bound).run.run session := by
    unfold absentValue
    cases step.default? with
    | none => rfl
    | some e => cases step.param.required <;> simp [evaluated]
  unfold bindAbsent
  rw [run_bind, run_bind, absent]

theorem copied_adds (p : Param) (value : Value) :
    Adding (if p.refAlias then return Content.own (← cloned (← target value))
      else return Content.own (← cloned value)) session (fun _ _ => True) := by
  have owned : ∀ (session : Session) (value : Value),
      Adding (do return Content.own (← cloned value)) session (fun _ _ => True) := by
    intro session value
    exact (owned_adds value (Nat.zero_le _)).mono (fun _ _ done => ⟨done.1, trivial⟩) fun _ _ kept => kept
  split
  · have looked : Adding (target value) session fun _ _ => True := by
      refine (target_quiet value).mono ?_ ?_
      · intro target middle same
        exact ⟨same ▸ .refl _, trivial⟩
      · intro failure middle same
        exact same ▸ Store.Extends.refl _
    exact looked.bind fun target middle _ _ => owned middle target
  · exact owned session value

theorem Twins.bindPresent_parallel (twins : c.Twins c' before) (kept : before.Extends session.store)
    {index index' : Nat} {value : Value} (found : (before.items c.rest)[index]? = some value)
    (found' : (before.items c'.rest)[index']? = some value) :
    Parallel (c.bindPresent step index) (c'.bindPresent step index') session (Content.Twin before) := by
  have same : ∀ {m : BindM Content} {done : Content → Session → Prop}, Adding m session done →
      Parallel m m session (Content.Twin before) :=
    fun adds => (Parallel.of_run adds rfl).mono fun _ _ same => same ▸ .same _
  have loads : ∀ store, before.Extends store →
      store.load? (c'.rest.place index') = store.load? (c.rest.place index) := by
    intro store extension
    have within : index < c.rest.length := twins.shown ▸ (List.getElem?_eq_some_iff.mp found).1
    have within' : index' < c'.rest.length := twins.shown' ▸ (List.getElem?_eq_some_iff.mp found').1
    rw [Store.load?_place within, Store.load?_place within', extension.items_of_shown twins.shown,
      extension.items_of_shown twins.shown', found, found']
  unfold bindPresent
  refine .get_bind ?_
  simp only [kept.items_of_shown twins.shown, kept.items_of_shown twins.shown', found, found']
  cases step.mode with
  | «alias» =>
      cases step.param.refAlias with
      | true =>
          cases value with
          | pointer type place => exact .pure (.same _)
          | plain datum => exact .failed rfl rfl (.refl _)
          | list view => exact .failed rfl rfl (.refl _)
          | dict cell => exact .failed rfl rfl (.refl _)
      | false => exact .pure (.slots loads)
  | copy => exact same (copied_adds step.param value)
  | readOnly => exact same (copied_adds step.param value)

theorem Twins.bindScalar_parallel (twins : c.Twins c' before) (kept : before.Extends session.store)
    (alike : Bindings.Twins before bound bound')
    (allocates : ∀ e, step.default? = some e → e.Allocates) {index index' : Option Nat}
    (matching : Matching (before.items c.rest) (before.items c'.rest) index index') :
    Parallel (c.bindScalar step index bound) (c'.bindScalar step index' bound') session
      (Binding.Twin before) := by
  cases matching with
  | missing =>
      refine (Parallel.of_run (bindAbsent_adds allocates (Nat.zero_le _))
        (twins.bindAbsent_run alike kept)).bind fun content content' after _ same => ?_
      exact .pure ⟨rfl, rfl, rfl, same ▸ .same content⟩
  | passed found found' =>
      refine (twins.bindPresent_parallel kept found found').bind fun content content' after _ twin => ?_
      exact .pure ⟨rfl, rfl, rfl, twin⟩

theorem Twins.bindStep_parallel (twins : c.Twins c' before) (kept : before.Extends session.store)
    (alike : Bindings.Twins before bound bound')
    (allocates : ∀ e, step.default? = some e → e.Allocates) (taken : c.Matches c' before step) :
    Parallel (c.bindStep bound step) (c'.bindStep bound' step) session
      (Option.Rel (Binding.Twin before)) := by
  unfold bindStep
  cases kind : step.kind with
  | invocant =>
      refine .get_bind ?_
      simp only [kept.items_of_shown twins.passed, kept.items_of_shown twins.passed',
        taken.first kind]
      cases (before.items c.args)[0]? with
      | none => exact .failed rfl rfl (.refl _)
      | some value => exact .pure (.some (.refl _))
  | positional =>
      have matching := taken.scalar (.inl kind)
      simp only [index?, kind] at matching
      exact (twins.bindScalar_parallel kept alike allocates matching).bind
        fun b b' after _ twin => .pure (.some twin)
  | slurpy => exact (taken.single kind).elim
  | named =>
      have matching := taken.scalar (.inr kind)
      simp only [index?, kind] at matching
      exact (twins.bindScalar_parallel kept alike allocates matching).bind
        fun b b' after _ twin => .pure (.some twin)
  | collectNamed => exact .pure .none
  | rejectUnknown => exact .pure .none

theorem Twins.bindSteps_parallel {steps : List Step} (twins : c.Twins c' before)
    (kept : before.Extends session.store) (alike : Bindings.Twins before bound bound')
    (tame : Tame steps) (taken : ∀ step ∈ steps, c.Matches c' before step) :
    Parallel (c.bindSteps bound steps) (c'.bindSteps bound' steps) session (Bindings.Twins before) := by
  -- Storage that was there at the time of the call stays, so each step finds the same values again.
  induction steps generalizing session bound bound' with
  | nil => exact .pure alike
  | cons step rest ih =>
      have laterTame : Tame rest := fun other member => tame other (List.mem_cons_of_mem _ member)
      have laterTaken := fun other member => taken other (List.mem_cons_of_mem step member)
      unfold bindSteps
      refine (twins.bindStep_parallel kept alike (tame step List.mem_cons_self)
        (taken step List.mem_cons_self)).bind fun made made' middle added twin => ?_
      have reached := kept.trans added
      cases twin with
      | none => exact ih reached alike laterTame laterTaken
      | some twin =>
          exact ih reached (List.rel_append alike (.cons ⟨rfl, twin⟩ .nil)) laterTame laterTaken

theorem Twins.bind_parallel (twins : c.Twins c' before) (kept : before.Extends session.store)
    (tame : Tame c.plan.steps) (taken : ∀ step ∈ c.plan.steps, c.Matches c' before step) :
    Parallel c.bind c'.bind session (fun b b' => Bindings.Twins before b.entries b'.entries) := by
  unfold Call.bind
  rw [twins.plan]
  exact (twins.bindSteps_parallel kept .nil tame taken).bind fun entries entries' after _ alike =>
    .get_bind (.pure alike)

theorem Twins.bind_endsAlike (twins : c.Twins c' before) (tame : Tame c.plan.steps)
    (taken : ∀ step ∈ c.plan.steps, c.Matches c' before step) :
    EndsAlike (c.bind.run.run { store := before }) (c'.bind.run.run { store := before }) := by
  have parallel : Parallel c.bind c'.bind { store := before } _ :=
    twins.bind_parallel (.refl before) tame taken
  cases parallel with
  | done first second kept alike =>
      rw [first, second]
      exact alike.endsAlike kept
  | @failed failure after first second kept =>
      rw [first, second]
      cases failure with
      | refused e => exact .refused (.refl e)
      | fault fault => exact .fault

end Plan.Call
end CallPlan
