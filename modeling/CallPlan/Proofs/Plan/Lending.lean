import CallPlan.Proofs.Data.Passing
import CallPlan.Proofs.Plan.Binding

/-!
What a call hands out. A call only adds storage, also when it fails. Its bindings lead to what the caller
passed and to collections of their own, with one exception: an aliased parameter that was not supplied
holds whatever its default gave, which may be a collection of the scope.
-/

namespace CallPlan

/-- Content that leads to no collection in the cells before the limit. -/
def Content.Clear (store : Store) (limit : Nat) : Content → Prop
  | .own value => value.Beyond limit
  | .ref _ place => store.Clear limit place.cell
  | .shared view => store.Clear limit view.cell

theorem Content.Clear.map {before after : Store} {limit : Nat} {content : Content}
    (clear : content.Clear before limit)
    (cells : ∀ cell, before.Clear limit cell → after.Clear limit cell) : content.Clear after limit := by
  cases content with
  | own value => exact clear
  | ref type place => exact cells _ clear
  | shared view => exact cells _ clear

namespace Binding

variable {store after : Store} {limit : Nat} {b : Binding} {value : Value}

/-- A binding that a call made: it is clear, or holds in a variable of its own what its default gave. -/
inductive Lent (store : Store) (limit : Nat) (b : Binding) : Prop
  | clear (content : b.content.Clear store limit)
  | default {cell : Nat} {value : Value} (aliased : b.mode = .alias) (missing : b.supplied = false)
      (content : b.content = .ref .any (.variable cell)) (late : limit ≤ cell)
      (held : store.cells[cell]? = some (.variable value))

theorem Lent.extend (lent : b.Lent store limit) (kept : store.Extends after) : b.Lent after limit := by
  cases lent with
  | clear content => exact .clear (content.map fun _ clear => clear.extend kept)
  | default aliased missing content late held =>
      exact .default aliased missing content late (kept _ _ held)

theorem Lent.to_clear (lent : b.Lent store limit) (own : ∀ value after, b.mode = .alias →
      b.supplied = false → b.get store = .ok (value, after) → value.Beyond limit) :
    b.content.Clear store limit := by
  cases lent with
  | clear content => exact content
  | @default cell value aliased missing content late held =>
      have loaded : store.load? (.variable cell) = some value := by simp [Store.load?, held]
      have given : b.get store = .ok (value, store) := by
        rw [get_ref content loaded, give, if_neg (by simp [aliased])]
      rw [content]
      refine ⟨late, (Array.getElem?_eq_some_iff.mp held).1, fun stored found => ?_⟩
      simp only [Place.cell, held, Option.some.injEq] at found
      subst found
      intro kept member
      rw [List.mem_singleton.mp member]
      exact own value store aliased missing given

theorem get_beyond (clear : b.content.Clear store limit) (enough : limit ≤ store.cells.size)
    (got : b.get store = .ok (value, after)) : value.Beyond limit := by
  have given : ∀ held : Value, held.Beyond limit → (give b.mode store held).1.Beyond limit := by
    intro held beyond cell named
    unfold give at named
    split at named
    · exact Nat.le_trans enough (Value.NewIn.clone store held cell named).1
    · exact beyond cell named
  cases content : b.content with
  | own held =>
      rw [content] at clear
      have shown := given held clear
      rwa [Except.ok.inj ((get_own content store).symm.trans got)] at shown
  | shared view =>
      rw [content] at clear
      cases (get_shared content store).symm.trans got
      intro cell named
      cases named
      exact clear.late
  | ref type place =>
      rw [content] at clear
      cases loaded : store.load? place with
      | none => simp [get, content, loaded] at got
      | some held =>
          obtain ⟨stored, found, member⟩ := Store.mem_of_load? loaded
          have shown := given held (clear.beyond stored found held member)
          rwa [Except.ok.inj ((get_ref content loaded).symm.trans got)] at shown

end Binding

theorem Bindings.extends_of_valuesOf {store after : Store} {bound : Entries Binding}
    {values : Entries Value} (read : valuesOf store bound = .ok (values, after)) :
    store.Extends after := by
  induction bound generalizing store values with
  | nil =>
      cases read
      exact .refl _
  | cons entry rest ih =>
      obtain ⟨name, binding⟩ := entry
      simp only [valuesOf, except_bind_ok] at read
      obtain ⟨⟨value, middle⟩, first, ⟨others, last⟩, second, made⟩ := read
      cases made
      exact (Binding.extends_of_get first).trans (ih second)

namespace Plan.Call

variable {c : Call} {step : Step} {session : Session} {bound : Entries Binding} {before : Store}
  {limit : Nat}

/-- What was passed to a call is after the limit, and leads to nothing before it. -/
structure Owns (c : Call) (before : Store) (limit : Nat) : Prop where
  args : before.Clear limit c.args.cell
  rest : c.rest.cell = c.args.cell
  passed : ∀ value ∈ before.listCell c.args.cell, ∀ cell, value.cell? = some cell →
    before.Clear limit cell

theorem Owns.of_item (owns : c.Owns before limit) (kept : before.Extends session.store) {view : View}
    {index : Nat} {value : Value} (same : view.cell = c.args.cell)
    (found : (session.store.items view)[index]? = some value) {cell : Nat}
    (named : value.cell? = some cell) : before.Clear limit cell := by
  have member := Store.mem_items (List.mem_of_getElem? found)
  rw [same, kept.listCell_eq owns.args.there] at member
  exact owns.passed value member cell named

theorem Owns.enough (owns : c.Owns before limit) (kept : before.Extends session.store) :
    limit ≤ session.store.cells.size :=
  Nat.le_trans (Nat.le_of_lt (Nat.lt_of_le_of_lt owns.args.late owns.args.there)) kept.size_le

/-- A computation that only adds storage, whether it succeeds or not. -/
def Adding {α : Type} (m : BindM α) (session : Session) (done : α → Session → Prop) : Prop :=
  Leads m session (fun a after => session.store.Extends after.store ∧ done a after)
    (fun _ after => session.store.Extends after.store)

theorem Adding.bind {α β : Type} {m : BindM α} {next : α → BindM β} {done : α → Session → Prop}
    {done' : β → Session → Prop} (first : Adding m session done)
    (rest : ∀ a after, session.store.Extends after.store → done a after → Adding (next a) after done') :
    Adding (m >>= next) session done' := by
  refine Leads.bind_iff.mpr (first.mono ?_ fun _ _ kept => kept)
  intro a middle reached
  refine (rest a middle reached.1 reached.2).mono ?_ ?_
  · exact fun b after done => ⟨reached.1.trans done.1, done.2⟩
  · exact fun _ after kept => reached.1.trans kept

theorem scopeData_adds :
    Adding (c.scopeData step) session (fun _ after => after.store = session.store) := by
  unfold scopeData
  refine Leads.bind_iff.mpr (Leads.get_iff.mpr ?_)
  cases session.scopeData with
  | some data => exact ⟨.refl _, rfl⟩
  | none =>
      simp only [Leads.bind_iff, Leads.record_iff, Leads.get_iff]
      cases c.plan.scope.data session.store c.context with
      | error e => exact Store.Extends.refl _
      | ok data => exact ⟨.refl _, rfl⟩

theorem evalDefault_adds {e : Expression} (allocates : e.Allocates) :
    Adding (c.evalDefault step e bound) session (fun _ _ => True) := by
  unfold evalDefault vars
  rw [bind_assoc]
  refine scopeData_adds.bind fun data middle _ _ => ?_
  simp only [Adding, Leads.bind_iff, Leads.get_iff]
  cases read : Bindings.valuesOf middle.store bound with
  | error f => exact Store.Extends.refl _
  | ok result =>
      obtain ⟨values, given⟩ := result
      have first := Bindings.extends_of_valuesOf read
      simp only [Leads.bind_iff, Leads.setStore_iff, Leads.pure_iff, Leads.record_iff]
      cases run : e.eval given (data.merge values) with
      | ok result => exact ⟨first.trans (allocates _ _ _ _ run), trivial⟩
      | error failure => cases failure <;> exact first

theorem absentValue_adds (allocates : ∀ e, step.default? = some e → e.Allocates) :
    Adding (c.absentValue step bound) session (fun _ _ => True) := by
  unfold absentValue
  cases given : step.default? with
  | none => exact ⟨.refl _, trivial⟩
  | some e =>
      simp only
      split
      · exact ⟨.refl _, trivial⟩
      · exact evalDefault_adds (allocates e given)

theorem owned_adds (value : Value) (enough : limit ≤ session.store.cells.size) :
    Adding (do return Content.own (← cloned value)) session
      (fun content after => content.Clear after.store limit) := by
  refine ⟨session.store.clone_extends value, ?_⟩
  exact (Value.NewIn.clone session.store value).beyond enough

theorem bindAbsent_adds (allocates : ∀ e, step.default? = some e → e.Allocates)
    (enough : limit ≤ session.store.cells.size) :
    Adding (c.bindAbsent step bound) session (fun content after =>
      { param := step.param, mode := step.mode, content : Binding }.Lent after.store limit) := by
  refine (absentValue_adds allocates).bind fun value middle kept _ => ?_
  have later := Nat.le_trans enough kept.size_le
  split
  · next aliased =>
      have held : (middle.store.alloc (.variable value)).2.cells[middle.store.cells.size]? =
          some (.variable value) := by simp [Store.alloc]
      exact ⟨middle.store.alloc_extends _, .default aliased rfl rfl later held⟩
  · exact (owned_adds value later).mono (fun _ _ done => ⟨done.1, .clear done.2⟩) fun _ _ kept => kept

theorem bindPresent_adds (owns : c.Owns before limit) (kept : before.Extends session.store)
    (index : Nat) :
    Adding (c.bindPresent step index) session (fun content after => content.Clear after.store limit) := by
  unfold bindPresent
  refine Leads.bind_iff.mpr (Leads.get_iff.mpr ?_)
  cases found : (session.store.items c.rest)[index]? with
  | none => exact Store.Extends.refl _
  | some value =>
      have clear : ∀ cell, value.cell? = some cell → before.Clear limit cell := fun _ =>
        owns.of_item kept owns.rest found
      have enough := owns.enough kept
      dsimp only
      -- An alias leads into what was passed, which is after the limit; a copy is in a new cell.
      split
      · split
        · cases value with
          | pointer type place => exact ⟨.refl _, (clear _ rfl).extend kept⟩
          | plain datum => exact Store.Extends.refl _
          | list view => exact Store.Extends.refl _
          | dict cell => exact Store.Extends.refl _
        · refine ⟨.refl _, ?_⟩
          have args := owns.args.extend kept
          rwa [← owns.rest] at args
      · split
        · have looked : Adding (target value) session fun _ _ => True := by
            refine (target_quiet value).mono ?_ ?_
            · intro target middle same
              exact ⟨same ▸ .refl _, trivial⟩
            · intro failure middle same
              exact same ▸ Store.Extends.refl _
          exact looked.bind fun target middle kept _ =>
            owned_adds target (Nat.le_trans enough kept.size_le)
        · exact owned_adds value enough

theorem bindScalar_adds (owns : c.Owns before limit) (kept : before.Extends session.store)
    (allocates : ∀ e, step.default? = some e → e.Allocates) (index : Option Nat) :
    Adding (c.bindScalar step index bound) session (fun b after => b.Lent after.store limit) := by
  cases index with
  | none =>
      refine (bindAbsent_adds allocates (owns.enough kept)).bind fun content middle _ lent => ?_
      exact ⟨.refl _, lent⟩
  | some index =>
      refine (bindPresent_adds owns kept index).bind fun content middle _ clear => ?_
      exact ⟨.refl _, .clear clear⟩

theorem bindSlurpy_adds (owns : c.Owns before limit) (kept : before.Extends session.store) :
    Adding (c.bindSlurpy step) session (fun b after => b.Lent after.store limit) := by
  have enough := owns.enough kept
  unfold bindSlurpy
  refine Leads.bind_iff.mpr (Leads.get_iff.mpr ?_)
  dsimp only
  split
  · split
    · exact Store.Extends.refl _
    · next entries _ =>
        refine ⟨session.store.alloc_extends _, .clear ?_⟩
        exact (Value.NewIn.newDict session.store entries).beyond enough
  · split
    · have rest := owns.args.extend kept
      rw [← owns.rest] at rest
      exact ⟨.refl _, .clear rest⟩
    · refine ⟨session.store.alloc_extends _, .clear ?_⟩
      exact (Value.NewIn.newList session.store _).beyond enough

theorem bindStep_adds (owns : c.Owns before limit) (kept : before.Extends session.store)
    (allocates : ∀ e, step.default? = some e → e.Allocates) :
    Adding (c.bindStep bound step) session
      (fun b? after => ∀ b, b? = some b → b.Lent after.store limit) := by
  have given : ∀ (b : Binding) (after : Session), b.Lent after.store limit →
      Adding (pure (some b)) after (fun b? after => ∀ b, b? = some b → b.Lent after.store limit) := by
    intro b after lent
    refine ⟨.refl _, ?_⟩
    rintro _ ⟨⟩
    exact lent
  unfold bindStep
  cases step.kind with
  | invocant =>
      refine Leads.bind_iff.mpr (Leads.get_iff.mpr ?_)
      cases found : (session.store.items c.args)[0]? with
      | none => exact Store.Extends.refl _
      | some value =>
          refine given _ session (.clear fun cell named => ?_)
          exact (owns.of_item kept rfl found (Value.cell?_of_collection? named)).late
  | positional => exact (bindScalar_adds owns kept allocates _).bind fun b after _ lent => given b after lent
  | slurpy => exact (bindSlurpy_adds owns kept).bind fun b after _ lent => given b after lent
  | named => exact (bindScalar_adds owns kept allocates _).bind fun b after _ lent => given b after lent
  | collectNamed => exact ⟨.refl _, by simp⟩
  | rejectUnknown => exact ⟨.refl _, by simp⟩

theorem bindSteps_adds {steps : List Step} (owns : c.Owns before limit)
    (kept : before.Extends session.store) (tame : Tame steps)
    (lent : ∀ entry ∈ bound, entry.2.Lent session.store limit) :
    Adding (c.bindSteps bound steps) session
      (fun entries after => ∀ entry ∈ entries, entry.2.Lent after.store limit) := by
  induction steps generalizing session bound with
  | nil => exact ⟨.refl _, lent⟩
  | cons step rest ih =>
      have later : Tame rest := fun other member => tame other (List.mem_cons_of_mem _ member)
      refine (bindStep_adds owns kept (tame step List.mem_cons_self)).bind fun made middle added own => ?_
      have still : ∀ entry ∈ bound, entry.2.Lent middle.store limit := fun entry member =>
        (lent entry member).extend added
      cases made with
      | none => exact ih (kept.trans added) later still
      | some binding =>
          refine ih (kept.trans added) later fun entry member => ?_
          rcases List.mem_append.mp member with earlier | last
          · exact still entry earlier
          · rw [List.mem_singleton.mp last]
            exact own binding rfl

theorem bind_adds (owns : c.Owns before limit) (tame : Tame c.plan.steps)
    (same : session.store = before) :
    Adding c.bind session
      (fun bindings after => ∀ entry ∈ bindings.entries, entry.2.Lent after.store limit) := by
  have kept : before.Extends session.store := same ▸ .refl _
  refine (bindSteps_adds owns kept tame (by simp)).bind fun entries middle _ lent => ?_
  refine Leads.bind_iff.mpr (Leads.get_iff.mpr ?_)
  exact ⟨.refl _, lent⟩

end Plan.Call

namespace Plan

variable {plan : Plan} {store : Store} {args : View} {limit : Nat} {context : Context} {site : Site}
  {outcome : Except BindFailure Bindings} {after : Session}

/-- A call adds storage, and lends nothing from before the limit except through defaults. -/
theorem call_adds (tame : Call.Tame plan.steps) (clear : store.Clear limit args.cell)
    (passed : ∀ value ∈ store.listCell args.cell, ∀ cell, value.cell? = some cell →
      store.Clear limit cell)
    (called : plan.call context site store args = (outcome, after)) :
    store.Extends after.store ∧ ∀ bindings, outcome = .ok bindings →
      ∀ entry ∈ bindings.entries, entry.2.Lent after.store limit := by
  have checked : ∀ site, Call.Adding
      (ExceptT.mk (return plan.check site ((← get).store.items args))) { store }
      (fun _ after => after.store = store) := by
    intro site
    have run : (ExceptT.mk (return plan.check site ((← get).store.items args)) : BindM _).run.run
        { store } = (plan.check site (store.items args), { store }) := rfl
    unfold Call.Adding Leads
    rw [run]
    cases plan.check site (store.items args) with
    | ok c => exact ⟨.refl _, rfl⟩
    | error failure => exact Store.Extends.refl _
  have adds : Call.Adding (plan.bind context site args) { store } (fun bindings after =>
      ∀ entry ∈ bindings.entries, entry.2.Lent after.store limit) :=
    (checked _).bind fun c middle _ same => Call.bind_adds ⟨clear, rfl, passed⟩ tame same
  cases outcome with
  | ok bindings =>
      obtain ⟨kept, lent⟩ := adds.of_ok called
      refine ⟨kept, ?_⟩
      rintro _ ⟨⟩
      exact lent
  | error failure => exact ⟨adds.of_error called, by simp⟩

end Plan
end CallPlan
